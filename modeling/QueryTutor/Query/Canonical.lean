import QueryTutor.Query.Lexeme
import QueryTutor.Text.Case

/-!
# Canonical form

The form in which queries and snippets are compared: small letters, one spacing, no semicolons at
the end.
-/

namespace QueryTutor.Query

open Text

/-- White space or a semicolon, which both count for nothing at the end of a query. -/
def isTrailer (c : Char) : Bool :=
  isBlank c || c == ';'

/-- The lexemes that make up a query, letter case and the trailing semicolons apart. -/
def lexemes (raw : List Char) : List Lexeme :=
  Lexeme.scan (dropTrailing isTrailer (lower raw))

/-- An operator with a space on both sides, or a comma with one behind it. -/
def Operator.spaced : Operator → List Char
  | comma => [',', ' ']
  | o => ' ' :: o.text ++ [' ']

/-- The text with its operators spaced.  The white space `held` has been read just before, last
character first, and is written unless an operator follows; behind an operator none is held. -/
def spaceAfter (held : Option (List Char)) : List Char → List Char
  | [] => (held.getD []).reverse
  | '<' :: '=' :: r => Operator.atMost.spaced ++ spaceAfter none r
  | '>' :: '=' :: r => Operator.atLeast.spaced ++ spaceAfter none r
  | '!' :: '=' :: r => Operator.notEqual.spaced ++ spaceAfter none r
  | '<' :: '>' :: r => Operator.differs.spaced ++ spaceAfter none r
  | '=' :: r => Operator.equal.spaced ++ spaceAfter none r
  | ',' :: r => Operator.comma.spaced ++ spaceAfter none r
  | c :: r =>
    if isBlank c then spaceAfter (held.map (c :: ·)) r
    else (held.getD []).reverse ++ c :: spaceAfter (some []) r

/-- The text with its operators spaced, in place of the white space around them. -/
def spaceOperators (t : List Char) : List Char :=
  spaceAfter (some []) t

/-- The text without the semicolons at its end and the white space around them. -/
def dropSemicolons (t : List Char) : List Char :=
  if (t.reverse.takeWhile isTrailer).contains ';' then dropTrailing isTrailer t else t

/-- The canonical form of a text. -/
def canonical (raw : List Char) : List Char :=
  trim (dropSemicolons (squeeze (spaceOperators (lower raw))))

end QueryTutor.Query
