import QueryTutor.Query.Token.Keyword
import QueryTutor.Query.Token.Number

/-!
# Tokens of a text

A raw query cut into tokens.  At each place the first kind that fits is taken; a character that fits
nothing is a token by itself.
-/

namespace QueryTutor.Query.Token

open Text

/-- Signs that are tried before all words and operators. -/
def sign? : List Char → Cut
  | ':' :: '=' :: r => some (⟨.assignment, [':', '=']⟩, r)
  | ':' :: ':' :: r => some (⟨.cast, [':', ':']⟩, r)
  | '*' :: r => some (⟨.wildcard, ['*']⟩, r)
  | _ => none

/-- A punctuation mark. -/
def punctuation? : List Char → Cut
  | [] => none
  | c :: r =>
    let kind? : Option Kind := match c with
      | '(' => some .opening
      | ')' => some .closing
      | '[' => some .openingBracket
      | ']' => some .closingBracket
      | ';' => some .semicolon
      | '.' => some .dot
      | ':' | ',' => some .other
      | _ => none
    kind?.map fun k => (⟨k, [c]⟩, r)

/-- The operators of several characters that are tried before the runs, longer ones first. -/
def arrows : List (List Char) :=
  [['-', '>', '>'], ['-', '>'], ['#', '>', '>'], ['#', '>'], ['@', '>'], ['<', '@'], ['-'],
    ['#', '-']]

/-- One of the operators that are tried before the runs. -/
def arrow? (t : List Char) : Cut :=
  (arrows.find? (hasFront (· == ·) · t)).map fun a => (⟨.operator, a⟩, t.drop a.length)

/-- A run of characters of one sort. -/
def run? (k : Kind) (sort : List Char) (t : List Char) : Cut :=
  let text := t.takeWhile sort.contains
  if text.isEmpty then none else some (⟨k, text⟩, t.dropWhile sort.contains)

/-- A comparison or another operator of any length; it can swallow the opening of a comment. -/
def operator? (t : List Char) : Cut :=
  arrow? t <|> run? .comparison ['<', '>', '=', '~', '!'] t
    <|> run? .operator ['+', '/', '@', '#', '%', '^', '&', '|', '-'] t

/-- A single character. -/
def single? : List Char → Cut
  | [] => none
  | c :: r => some (⟨.other, [c]⟩, r)

/-- The first token of a text that stands behind the character `before`. -/
def first? (before : Option Char) (t : List Char) : Cut :=
  block? t <|> line? t <|> space? t <|> sign? t <|> quote? .name '\u0060' false t
    <|> quote? .name '\u00b4' false t <|> tagged? before t <|> placeholder? before t
    <|> command? t <|> phrase? firmKeywords t <|> marked? t <|> placedName? before t <|> number? t
    <|> quote? .quotedText '\'' true t <|> quote? .quotedName '"' true t <|> bracketed? before t
    <|> phrase? phrases t <|> batchEnd? t <|> zoneShift? t <|> word? t <|> punctuation? t
    <|> operator? t <|> single? t

/-- At most `n` tokens of a text that stands behind the character `before`. -/
def scanUpTo : Nat → Option Char → List Char → List Token
  | 0, _, _ | _, _, [] => []
  | n + 1, before, t =>
    match first? before t with
    | some (token, rest) => token :: scanUpTo n (token.text.getLast?.or before) rest
    | none => []

/-- The tokens of a text; it has no more of them than characters. -/
def scan (t : List Char) : List Token :=
  scanUpTo t.length none t

end QueryTutor.Query.Token
