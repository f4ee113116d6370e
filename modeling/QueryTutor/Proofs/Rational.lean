import Mathlib.Data.Rat.Floor
import QueryTutor.Arithmetic

/-!
# Rational numbers

Grading in exact arithmetic, where nothing is rounded before the end.
-/

namespace QueryTutor

instance : Arithmetic ℚ where
  ofNat n := n
  quotient m n := m / n
  add := (· + ·)
  sub := (· - ·)
  mul := (· * ·)
  div := (· / ·)
  lt x y := decide (x < y)
  le x y := decide (x ≤ y)
  half := 1 / 2
  floor x := ⌊x⌋₊

end QueryTutor
