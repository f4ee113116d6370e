/-!
# Sets of code points

A set of characters given by ascending ranges of code points.
-/

namespace QueryTutor.Text

/-- Ranges of code points, both ends included, in ascending order and apart. -/
abbrev RangeSet := List (Nat × Nat)

/-- A code point is looked for up to the first range that ends at or behind it. -/
def RangeSet.containsCode : RangeSet → Nat → Bool
  | [], _ => false
  | (lo, hi) :: rest, n => if n ≤ hi then lo ≤ n else containsCode rest n

/-- Membership of a character. -/
def RangeSet.contains (s : RangeSet) (c : Char) : Bool :=
  s.containsCode c.toNat

end QueryTutor.Text
