import QueryTutor.Text.Blank
import QueryTutor.Text.Number

/-!
# Numerals

Whole numbers and decimal fractions read from text.
-/

namespace QueryTutor.Numeral

open Text

/-- The value of decimal digits of any script behind those worth `value`; one underscore may stand
between two digits, and `due` says that a digit has to come. -/
def wholeAfter (value : Nat) (due : Bool) : List Char → Option Nat
  | [] => if due then none else some value
  | c :: r =>
    match digitValue? c with
    | some d => wholeAfter (value * 10 + d) false r
    | none => if c == '_' && !due then wholeAfter value true r else none

/-- A whole number with an optional sign, between white space. -/
def whole? (t : List Char) : Option Int :=
  match trim t with
  | '-' :: r => (wholeAfter 0 true r).map fun n => -(n : Int)
  | '+' :: r => (wholeAfter 0 true r).map Int.ofNat
  | r => (wholeAfter 0 true r).map Int.ofNat

/-- The value of digits of ASCII. -/
def digitsValue (ds : List Char) : Nat :=
  ds.foldl (fun n d => n * 10 + (d.toNat - 48)) 0

/-- The double nearest to `m · 10 ^ e`; what lies far outside the range of doubles is not computed.
-/
def scientific (m : Nat) (e : Int) : Float :=
  let size := (Nat.toDigits 10 m).length
  if m == 0 then 0.0
  else if (size : Int) + e > 400 then 1.0 / 0.0
  else if (size : Int) + e < -400 then 0.0
  else if 0 ≤ e then Float.ofScientific (m * Nat.pow 10 e.toNat) false 0
  else Float.ofScientific m true (-e).toNat

/-- The exponent behind the letter, with an optional sign. -/
def exponent? (t : List Char) : Option Int :=
  let digits := fun ds : List Char =>
    if ds.isEmpty || !ds.all Char.isDigit then none else some (digitsValue ds)
  match t with
  | '-' :: r => (digits r).map fun n => -(n : Int)
  | '+' :: r => (digits r).map Int.ofNat
  | r => (digits r).map Int.ofNat

/-- A decimal fraction without sign: digits with a point among or beside them, and an exponent. -/
def unsigned? (t : List Char) : Option Float :=
  let front := t.takeWhile Char.isDigit
  let (behind, rest) := match t.dropWhile Char.isDigit with
    | '.' :: r => (r.takeWhile Char.isDigit, r.dropWhile Char.isDigit)
    | r => ([], r)
  let exponent := match rest with
    | [] => some 0
    | c :: r => if c == 'e' || c == 'E' then exponent? r else none
  if front.isEmpty && behind.isEmpty then none
  else exponent.map fun e => scientific (digitsValue (front ++ behind)) (e - behind.length)

/-- A decimal fraction with an optional sign, or the name of an infinity or of what is no number. -/
def signed? (t : List Char) : Option Float :=
  let magnitude := fun r : List Char =>
    let name := r.map Char.toLower
    if name == "inf".toList || name == "infinity".toList then some (1.0 / 0.0)
    else if name == "nan".toList then some (0.0 / 0.0)
    else unsigned? r
  match t with
  | '-' :: r => (magnitude r).map Float.neg
  | '+' :: r => magnitude r
  | r => magnitude r

/-- White space that may surround a number: all but the information separators. -/
def isPadding (c : Char) : Bool :=
  isBlank c && !(28 ≤ c.toNat && c.toNat ≤ 31)

/-- The text without white space around it. -/
def unpad (t : List Char) : List Char :=
  dropTrailing isPadding (t.dropWhile isPadding)

/-- Two underscores stand side by side. -/
def doublesUnderscore : List Char → Bool
  | '_' :: '_' :: _ => true
  | _ :: r => doublesUnderscore r
  | [] => false

/-- A number between white space, in which single underscores may stand. -/
def real? (t : List Char) : Option Float :=
  match signed? (unpad t) with
  | some x => some x
  | none =>
    if t.head? == some '_' || t.getLast? == some '_' || doublesUnderscore t then none
    else signed? (unpad (t.filter (· != '_')))

end QueryTutor.Numeral
