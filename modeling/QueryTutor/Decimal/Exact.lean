/-!
# Exact values of doubles

What a double stands for, as a sign, a natural number and a power of two, so that it can be compared
and written out without rounding.
-/

namespace QueryTutor.Decimal

/-- The value of a double: `± significand · 2 ^ exponent`, an infinity, or no number at all. -/
inductive Exact where
  | finite (negative : Bool) (significand : Nat) (exponent : Int)
  | infinite (negative : Bool)
  | undefined
  deriving DecidableEq, Repr

/-- The value of a double. -/
def exact (x : Float) : Exact :=
  let bits := x.toBits.toNat
  let negative := bits / Nat.pow 2 63 == 1
  let biased : Nat := bits / Nat.pow 2 52 % Nat.pow 2 11
  let fraction := bits % Nat.pow 2 52
  if biased == 2047 then if fraction == 0 then .infinite negative else .undefined
  else if biased == 0 then .finite negative fraction (-1074)
  else .finite negative (Nat.pow 2 52 + fraction) ((biased : Int) - 1075)

/-- The numerator of `significand · 2 ^ exponent`, over the denominator `denominator exponent`. -/
def numerator (significand : Nat) (exponent : Int) : Nat :=
  significand * Nat.pow 2 exponent.toNat

/-- The power of two below the fraction bar. -/
def denominator (exponent : Int) : Nat :=
  Nat.pow 2 (-exponent).toNat

end QueryTutor.Decimal
