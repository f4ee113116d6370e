import QueryTutor.Text.Case

/-!
# Letters in either case

Which characters count as the same letter when case is ignored.  Beside the letters that share a
small letter there are a few small letters that share a capital, such as the long s and the dotless
i.
-/

namespace QueryTutor.Text.Fold

/-- Small letters that share a capital with another small letter, each beside the one that stands
for both. -/
def siblings : List (Nat × Nat) :=
  [(0x131, 0x69), (0x17f, 0x73), (0x3bc, 0xb5), (0x3b9, 0x345), (0x1fbe, 0x345), (0x1fd3, 0x390),
    (0x1fe3, 0x3b0), (0x3d0, 0x3b2), (0x3f5, 0x3b5), (0x3d1, 0x3b8), (0x3f0, 0x3ba), (0x3d6, 0x3c0),
    (0x3f1, 0x3c1), (0x3c3, 0x3c2), (0x3d5, 0x3c6), (0x1c80, 0x432), (0x1c81, 0x434),
    (0x1c82, 0x43e), (0x1c83, 0x441), (0x1c84, 0x442), (0x1c85, 0x442), (0x1c86, 0x44a), (0x1c87, 0x463),
    (0xa64b, 0x1c88), (0x1e9b, 0x1e61), (0xfb06, 0xfb05)]

/-- The letter that stands for all letters equal to `c` when case is ignored. -/
def key (c : Char) : Char :=
  let low := lowerChar c
  if low.toNat < 128 then low
  else match siblings.lookup low.toNat with
    | some n => Char.ofNat n
    | none => low

/-- The two characters are the same letter, in whatever case. -/
def same (c d : Char) : Bool :=
  c == d || key c == key d

/-- The capitals that have the given small letter. -/
def capitals (n : Nat) : List Nat :=
  let ascii := if 0x61 ≤ n && n ≤ 0x7a then [n - 32] else []
  ascii ++ lowerRuns.filterMap (·.preimage? n)

/-- The code points of all letters equal to `c` when case is ignored. -/
def variants (c : Char) : List Nat :=
  let k := (key c).toNat
  let smalls := k :: (siblings.filter (·.2 == k)).map (·.1)
  smalls.flatMap fun n => n :: capitals n

/-- The same letter of ASCII in whatever case, or the same character. -/
def sameAscii (c d : Char) : Bool :=
  c.toLower == d.toLower

/-- The code points of the letters of ASCII equal to `c` when case is ignored. -/
def asciiVariants (c : Char) : List Nat :=
  [c.toLower.toNat, c.toUpper.toNat]

end QueryTutor.Text.Fold
