/-!
# Arithmetic

The numbers that grades are computed with, given by what is done with them.  Queries are graded with
doubles.
-/

namespace QueryTutor

/-- What grading does with numbers.  `quotient` is not asked for a share of nothing, and `floor` only
of numbers that are not negative. -/
class Arithmetic (R : Type) where
  ofNat : Nat → R
  quotient : Nat → Nat → R
  add : R → R → R
  sub : R → R → R
  mul : R → R → R
  div : R → R → R
  lt : R → R → Bool
  le : R → R → Bool
  half : R
  floor : R → Nat

open Float.Model UnpackedFloat in
/-- The double nearest to the quotient of two whole numbers, which may be too large for doubles. -/
def wholeQuotient (m n : Nat) : Float :=
  let unpacked := fun k : Nat =>
    if h : 0 < k then finite .positive k 0 h else zero .positive
  .ofModel (.pack (.div .binary64 (unpacked m) (unpacked n)))

instance : Arithmetic Float where
  ofNat := Float.ofNat
  quotient := wholeQuotient
  add := (· + ·)
  sub := (· - ·)
  mul := (· * ·)
  div := (· / ·)
  lt := Float.lt
  le := Float.le
  half := 0.5
  floor x := x.toUInt64.toNat

namespace Arithmetic

variable {R : Type} [Arithmetic R]

/-- The nearest whole number, a half upwards. -/
def round (x : R) : Nat :=
  floor (add x half)

/-- The number, or the bound if the number does not lie above it. -/
def atLeast (bound x : R) : R :=
  if lt bound x then x else bound

/-- The number, or the bound if the number does not lie below it. -/
def atMost (bound x : R) : R :=
  if lt x bound then x else bound

end Arithmetic

end QueryTutor
