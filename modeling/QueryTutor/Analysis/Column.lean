import QueryTutor.Analysis.Clause
import QueryTutor.Analysis.Name
import QueryTutor.FirstSeen

/-!
# Columns

The columns that a query selects, without aliases, calls and qualifiers around them.
-/

namespace QueryTutor.Analysis

open Text

/-- The text between the first `select` at top level and the `from` that follows it. -/
def selectList? (q : List Char) : Option (List Char) :=
  match boundariesAt "select".toList q with
  | s :: f :: _ => if f.kind == "from".toList then some (slice q (s.start + 6) f.start) else none
  | _ => none

/-- The text without a leading `distinct`. -/
def dropDistinct (t : List Char) : List Char :=
  (Phrase.strip? "distinct ".toList t).getD t

/-- A character of a name that may be in double quotes. -/
def isAliasPart (c : Char) : Bool :=
  isWord c || c == '"'

/-- The text is white space and then nothing but an alias other than `end`. -/
def isBareAlias (t : List Char) : Bool :=
  match t with
  | [] => false
  | c :: _ =>
    let name := t.dropWhile isBlank
    isBlank c && !name.isEmpty && name.all isAliasPart
      && !((Phrase.strip? "end".toList name).any fun rest => !startsWithWord rest)

/-- The text is an alias to its end, with or without `as`. -/
def isAlias (t : List Char) : Bool :=
  isBareAlias t || (Phrase.strip? " as".toList t).any isBareAlias

/-- An alias can follow this character: a word, a closing parenthesis or a closing quote. -/
def precedesAlias (c : Char) : Bool :=
  isWord c || c == ')' || c == '"' || c == '\''

/-- The text behind the character `before` without the alias it ends in. -/
def dropAliasAfter (before : Option Char) : List Char → List Char
  | [] => []
  | c :: r =>
    if before.any precedesAlias && isAlias (c :: r) then [] else c :: dropAliasAfter (some c) r

/-- The text without the alias it ends in. -/
def dropAlias (t : List Char) : List Char :=
  dropAliasAfter none t

/-- The name and the arguments of a call that makes up the whole text, a line break at its end
apart. -/
def call? (t : List Char) : Option (List Char × List Char) :=
  let name := t.takeWhile isWord
  if name.isEmpty then none
  else match (t.dropWhile isWord).dropWhile isBlank with
    | '(' :: r =>
      match r.reverse with
      | ')' :: args => some (name, args.reverse)
      | '\n' :: ')' :: args => some (name, args.reverse)
      | _ => none
    | _ => none

/-- The innermost expression inside at most `n` calls: an identifier, or the name of the last call
if it holds none. -/
def unwrapUpTo : Nat → List Char → List Char
  | 0, e => e
  | n + 1, e =>
    match call? e with
    | none => e
    | some (name, args) =>
      let inner := dropDistinct (trim args)
      if isIdentifier inner || (call? inner).isSome then unwrapUpTo n inner else name

/-- The expression inside the calls around it; each call is longer than what it holds. -/
def unwrap (e : List Char) : List Char :=
  unwrapUpTo e.length e

/-- The text without the qualifier it begins with. -/
def dropQualifier (t : List Char) : List Char :=
  match t.takeWhile isAliasPart, t.dropWhile isAliasPart with
  | _ :: _, '.' :: r => r
  | _, _ => t

/-- The column that an item of a selection is about. -/
def itemColumn (item : List Char) : List Char :=
  trim (dropQualifier (unwrap (trim (dropAlias (dropDistinct (trim item))))))

/-- The columns a query selects, in order and without repeats; the wildcard is none. -/
def columnNames (q : List Char) : List (List Char) :=
  match selectList? q with
  | none => []
  | some list =>
    if trim list == ['*'] then []
    else firstSeen (((splitTopLevel list).map itemColumn).filter fun c => !c.isEmpty && c != ['*'])

end QueryTutor.Analysis
