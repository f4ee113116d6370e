import QueryTutor.Quantity
import QueryTutor.Text.Phrase

/-!
# Pre-check

Whether a query is worth looking into: it has text, is not too long, its parentheses and quotes pair
up, it starts like a statement, and a selection says where from.  The first rule that fails is
reported.
-/

namespace QueryTutor.Query

open Text

/-- Why a query is turned away. -/
inductive Rejection where
  | empty
  | tooLong (limit : Quantity)
  | unmatchedClosing
  | unmatchedOpening
  | unmatchedQuote
  | noStatement
  | noSource

/-- What the learner is told. -/
def Rejection.message : Rejection → String
  | empty => "Query is empty"
  | tooLong limit => "Query too long (max " ++ limit.text ++ " characters)"
  | unmatchedClosing => "Unmatched closing parenthesis"
  | unmatchedOpening => "Unmatched opening parenthesis"
  | unmatchedQuote => "Unmatched single quote"
  | noStatement =>
    "Query must start with a valid SQL keyword (SELECT, INSERT, UPDATE, DELETE, etc.)"
  | noSource => "SELECT statements typically require a FROM clause"

/-- A raw text that is too long is turned away at once, unless it is blank. -/
def checkLength (limit : Option Quantity) (raw : List Char) : Option Rejection :=
  match limit with
  | some l => if l.lt (.whole raw.length) && !isBlankText raw then some (.tooLong l) else none
  | none => none

/-- How the parentheses of a text fail to pair up, with `depth` of them open. -/
def checkParentheses (depth : Nat) : List Char → Option Rejection
  | [] => if depth = 0 then none else some .unmatchedOpening
  | '(' :: r => checkParentheses (depth + 1) r
  | ')' :: r => if depth = 0 then some .unmatchedClosing else checkParentheses (depth - 1) r
  | _ :: r => checkParentheses depth r

/-- The words that open a statement. -/
def statementKeywords : List String :=
  ["select", "insert", "update", "delete", "create", "alter", "drop", "with"]

/-- The text begins with this whole word. -/
def opensWith (word : String) (t : List Char) : Bool :=
  (stripFront? (· == ·) word.toList t).any fun rest => !startsWithWord rest

/-- The text begins with a whole word that opens a statement. -/
def opensStatement (t : List Char) : Bool :=
  statementKeywords.any fun k => opensWith k t

/-- What stands behind the word `from`, if it stands here as a whole word in small letters. -/
def fromAt? (before : Option Char) (t : List Char) : Option (List Char) :=
  if Phrase.continuesWord before then none
  else (stripFront? (· == ·) ['f', 'r', 'o', 'm'] t).filter fun rest => !startsWithWord rest

/-- The text names a source somewhere. -/
def namesSource (t : List Char) : Bool :=
  (Phrase.findFrom fromAt? none t).isSome

/-- The text without its string literals, read inside one or not; a quote that is never closed
stays. -/
def dropStrings (inside : Bool) : List Char → List Char
  | [] => []
  | c :: r =>
    if inside then dropStrings (c != '\'') r
    else if c == '\'' && r.contains '\'' then dropStrings true r
    else c :: dropStrings false r

/-- What stands behind an alias with the word `as` before it. -/
def aliasAt? (before : Option Char) (t : List Char) : Option (List Char) :=
  if Phrase.continuesWord before then none
  else
    (Phrase.stripBy? (· == ·) ['a', 's', ' '] t).bind fun rest =>
      if startsWithWord rest then some (rest.dropWhile isWord) else none

/-- The words that stand for values. -/
def valueKeywords : List String :=
  ["true", "false", "null"]

/-- What stands behind a whole word that stands for a value. -/
def valueAt? (before : Option Char) (t : List Char) : Option (List Char) :=
  if Phrase.continuesWord before then none
  else
    valueKeywords.findSome? fun k =>
      (stripFront? (· == ·) k.toList t).filter fun rest => !startsWithWord rest

/-- The text without what `at?` finds, from left to right, where `skip` more characters belong to
the last find. -/
def dropFound (at? : Option Char → List Char → Option (List Char)) (before : Option Char) :
    Nat → List Char → List Char
  | _, [] => []
  | skip + 1, c :: r => dropFound at? (some c) skip r
  | 0, c :: r =>
    match at? before (c :: r) with
    | some rest => dropFound at? (some c) (r.length - rest.length) r
    | none => c :: dropFound at? (some c) 0 r

/-- A small letter of ASCII or the underscore. -/
def isNameLetter (c : Char) : Bool :=
  ('a' ≤ c && c ≤ 'z') || c == '_'

/-- The text, which begins with `select`, lists values only: beside strings, aliases and the words
that stand for values, no letter is left. -/
def listsValues (t : List Char) : Bool :=
  let list := trim (t.drop 6)
  !list.isEmpty
    && !(dropFound valueAt? none 0 (dropFound aliasAt? none 0 (dropStrings false list))).any
      isNameLetter

/-- The first rule that a canonical text breaks. -/
def precheck (limit : Option Quantity) (t : List Char) : Option Rejection :=
  let q := trim t
  if q.isEmpty then some .empty
  else match limit.filter (·.lt (.whole q.length)) with
    | some l => some (.tooLong l)
    | none =>
      match checkParentheses 0 q with
      | some r => some r
      | none =>
        if q.count '\'' % 2 != 0 then some .unmatchedQuote
        else if !opensStatement q then some .noStatement
        else if hasFront (· == ·) "select".toList q && !namesSource q && !listsValues q then
          some .noSource
        else none

end QueryTutor.Query
