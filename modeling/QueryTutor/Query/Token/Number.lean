import QueryTutor.Query.Token.Cut

/-!
# Numbers

Cutting off hexadecimal numbers, numbers with an exponent, decimal fractions and whole numbers.  A
number that a letter follows gives its last digit back.
-/

namespace QueryTutor.Query.Token

open Text

/-- A character behind which the digits in front of it are no whole number. -/
def sticksToDigits (c : Char) : Bool :=
  c == '_' || isNameStart c

/-- A run of digits and what follows it; before a letter the last digit belongs to what follows. -/
def looseDigits (t : List Char) : List Char × List Char :=
  let ds := t.takeWhile isDigit
  let rest := t.dropWhile isDigit
  if rest.head?.any sticksToDigits then (ds.dropLast, ds.drop (ds.length - 1) ++ rest)
  else (ds, rest)

/-- A digit of a hexadecimal number. -/
def isHexDigit (c : Char) : Bool :=
  isDigit c || ('a' ≤ c.toLower && c.toLower ≤ 'f')

/-- A hexadecimal number, as its text and what follows it. -/
def hexDigits? : List Char → Option (List Char × List Char)
  | '0' :: x :: r =>
    if (x == 'x' || x == 'X') && r.head?.any isHexDigit then
      some ('0' :: x :: r.takeWhile isHexDigit, r.dropWhile isHexDigit)
    else none
  | _ => none

/-- The exponent of a number. -/
def exponent? : List Char → Option (List Char × List Char)
  | e :: r =>
    let sign := r.takeWhile (· == '-')
    let ds := r.drop sign.length
    if (e == 'e' || e == 'E') && sign.length ≤ 1 && ds.head?.any isDigit then
      some (e :: sign ++ ds.takeWhile isDigit, ds.dropWhile isDigit)
    else none
  | [] => none

/-- A point with digits behind it. -/
def fraction : List Char → List Char × List Char
  | '.' :: r =>
    if r.head?.any isDigit then ('.' :: r.takeWhile isDigit, r.dropWhile isDigit)
    else ([], '.' :: r)
  | t => ([], t)

/-- A number with an exponent. -/
def scientific? (t : List Char) : Option (List Char × List Char) :=
  let ds := t.takeWhile isDigit
  let (point, rest) := fraction (t.dropWhile isDigit)
  if ds.isEmpty then none
  else (exponent? rest).map fun (power, rest) => (ds ++ point ++ power, rest)

/-- A number with a point, which has digits at least on one side of it. -/
def decimal? (t : List Char) : Option (List Char × List Char) :=
  let ds := t.takeWhile isDigit
  match t.dropWhile isDigit with
  | '.' :: r =>
    let (behind, rest) := looseDigits r
    if rest.head?.any sticksToDigits || (ds.isEmpty && behind.isEmpty) then none
    else some (ds ++ '.' :: behind, rest)
  | _ => none

/-- A whole number. -/
def whole? (t : List Char) : Option (List Char × List Char) :=
  let (ds, rest) := looseDigits t
  if ds.isEmpty then none else some (ds, rest)

/-- A number without its sign. -/
def unsigned? (t : List Char) : Cut :=
  let plain := fun (text, rest) => (Token.mk .number text, rest)
  ((hexDigits? t).map fun (text, rest) => (⟨.hexadecimal, text⟩, rest))
    <|> (scientific? t).map plain <|> (decimal? t).map plain <|> (whole? t).map plain

/-- A number, with a minus sign that stands close to it. -/
def number? : List Char → Cut
  | '-' :: r => (unsigned? r).map fun (token, rest) => (⟨token.kind, '-' :: token.text⟩, rest)
  | t => unsigned? t

end QueryTutor.Query.Token
