import QueryTutor.Query.Token.Basic
import QueryTutor.Text.Blank
import QueryTutor.Text.Fold
import QueryTutor.Text.Front
import QueryTutor.Text.Word

/-!
# Comments, white space and quoted text

Cutting off the tokens that hide their own text from the rest of the query.
-/

namespace QueryTutor.Query

open Text

namespace Token

/-- A token and what follows it. -/
abbrev Cut := Option (Token × List Char)

/-- A letter of basic Latin or Latin-1, in any case, with which a name can open. -/
def isNameStart (c : Char) : Bool :=
  (Fold.variants c).any fun n => (0x41 ≤ n && n ≤ 0x5a) || (0xc0 ≤ n && n ≤ 0xdc)

/-- A comment between the slash-star and the next star-slash; a plus sign makes it a hint. -/
def block? : List Char → Cut
  | '/' :: '*' :: '+' :: r =>
    (splitThrough? (· == ·) ['*', '/'] r).map fun (body, rest) =>
      (⟨.hint, '/' :: '*' :: '+' :: body⟩, rest)
  | '/' :: '*' :: r =>
    (splitThrough? (· == ·) ['*', '/'] r).map fun (body, rest) =>
      (⟨.comment, '/' :: '*' :: body⟩, rest)
  | _ => none

/-- The text through the end of the line, its line break included. -/
def throughLine : List Char → List Char × List Char
  | [] => ([], [])
  | '\r' :: '\n' :: r => (['\r', '\n'], r)
  | '\r' :: r => (['\r'], r)
  | '\n' :: r => (['\n'], r)
  | c :: r => let (line, rest) := throughLine r; (c :: line, rest)

/-- A comment behind two dashes, or a hash and a space, to the end of the line; a plus sign makes it
a hint. -/
def line? : List Char → Cut
  | a :: b :: r =>
    if (a == '-' && b == '-') || (a == '#' && b == ' ') then
      let (body, rest) := throughLine r
      some (⟨if r.head? == some '+' then .hint else .comment, a :: b :: body⟩, rest)
    else none
  | _ => none

/-- A line break, or one blank character. -/
def space? : List Char → Cut
  | '\r' :: '\n' :: r => some (⟨.lineBreak, ['\r', '\n']⟩, r)
  | c :: r =>
    if c == '\r' || c == '\n' then some (⟨.lineBreak, [c]⟩, r)
    else if isBlank c then some (⟨.blank, [c]⟩, r)
    else none
  | [] => none

/-- The name that a text begins with, or nothing. -/
def tagName : List Char → List Char
  | [] => []
  | c :: r => if c == '_' || isNameStart c then c :: r.takeWhile isWord else []

/-- Text between two equal tags in dollar signs, where the first one does not continue a word. -/
def tagged? (before : Option Char) : List Char → Cut
  | '$' :: r =>
    if before.any fun c => isWord c || c == '"' || c == '$' then none
    else
      let name := tagName r
      match r.drop name.length with
      | '$' :: body =>
        let tag := '$' :: name ++ ['$']
        let equalLetters := fun c d => lowerChar c == lowerChar d
        (splitThrough? equalLetters tag body).map fun (text, rest) =>
          (⟨.taggedText, tag ++ text⟩, rest)
      | _ => none
  | _ => none

/-- The rest of quoted text through the closing quote `q`.  A doubled quote, and with `escapes` a
quote behind a backslash, stands for itself as long as the text closes further on. -/
def quoteBody? (q : Char) (escapes : Bool) : List Char → Option (List Char × List Char)
  | [] => none
  | [c] => if c == q then some ([c], []) else none
  | c :: d :: r =>
    if c == q && d == q then
      match quoteBody? q escapes r with
      | some (body, rest) => some (c :: d :: body, rest)
      | none => some ([c], d :: r)
    else if escapes && c == '\\' && d == q then
      match quoteBody? q escapes r with
      | some (body, rest) => some (c :: d :: body, rest)
      | none => some ([c, d], r)
    else if c == q then some ([c], d :: r)
    else (quoteBody? q escapes (d :: r)).map fun (body, rest) => (c :: body, rest)

/-- Text in quotes of the kind `q`. -/
def quote? (k : Kind) (q : Char) (escapes : Bool) : List Char → Cut
  | [] => none
  | c :: r =>
    if c == q then (quoteBody? q escapes r).map fun (body, rest) => (⟨k, c :: body⟩, rest)
    else none

/-- Text in square brackets, unless the bracket continues a word, a bracket or a parenthesis. -/
def bracketed? (before : Option Char) : List Char → Cut
  | '[' :: r =>
    let inside := fun c => c != '[' && c != ']'
    if before.any fun c => isWord c || c == ']' || c == ')' then none
    else match r.takeWhile inside, r.dropWhile inside with
      | _ :: _, ']' :: rest => some (⟨.name, '[' :: r.takeWhile inside ++ [']']⟩, rest)
      | _, _ => none
  | _ => none

end Token

end QueryTutor.Query
