import QueryTutor.Decimal.Exact

/-!
# Shortest decimal text

A double written with the fewest digits that read back as the same double, and of those the nearest.
-/

namespace QueryTutor.Decimal

/-- Digits with the place of their point: `digits · 10 ^ scale`. -/
structure Digits where
  digits : Nat
  scale : Int
  deriving DecidableEq, Repr

/-- `digits · 10 ^ scale` as a fraction. -/
def Digits.fraction (d : Digits) : Nat × Nat :=
  (d.digits * Nat.pow 10 d.scale.toNat, Nat.pow 10 (-d.scale).toNat)

/-- The fraction rounds to the double `m · 2 ^ e`: it lies between the midpoints to the neighbours,
which count when `m` is even.  Below a power of two the lower neighbour is twice as close. -/
def readsAs (m : Nat) (e : Int) (d : Digits) : Bool :=
  let (num, den) := d.fraction
  let narrow := m == Nat.pow 2 52 && e != -1074
  -- in quarters of a unit `2 ^ e`
  let value := 4 * num * denominator e
  let unit := den * Nat.pow 2 e.toNat
  let low := unit * (4 * m - if narrow then 1 else 2)
  let high := unit * (4 * m + 2)
  if m % 2 == 0 then low ≤ value && value ≤ high else low < value && value < high

/-- Of the two neighbours of `m · 2 ^ e` on the grid of `10 ^ scale`, the nearest that reads back.
-/
def onGrid? (m : Nat) (e scale : Int) : Option Digits :=
  let num := numerator m e * Nat.pow 10 (-scale).toNat
  let den := denominator e * Nat.pow 10 scale.toNat
  let below : Digits := ⟨num / den, scale⟩
  let above : Digits := ⟨num / den + 1, scale⟩
  let closer := if 2 * (num % den) ≤ den then [below, above] else [above, below]
  closer.find? (readsAs m e)

/-- The number of decimal digits. -/
def digitCount (n : Nat) : Nat :=
  (Nat.toDigits 10 n).length

/-- The fewest digits that read back as `m · 2 ^ e`. -/
def shortest (m : Nat) (e : Int) : Digits :=
  let num := numerator m e
  let den := denominator e
  let top : Int :=
    if den ≤ num then digitCount (num / den) else 1 - digitCount (den / num)
  let grids := (List.range 20).map fun n : Nat => top + 1 - (n : Int)
  (grids.findSome? (onGrid? m e)).getD ⟨m, e⟩

/-- The number without the zeros at its end, and how many there were; at most `fuel` are taken off.
-/
def dropZeros : Nat → Nat → Nat × Nat
  | 0, n => (n, 0)
  | fuel + 1, n =>
    if n != 0 && n % 10 == 0 then
      let (r, k) := dropZeros fuel (n / 10)
      (r, k + 1)
    else (n, 0)

/-- Digits written with a point between or beside them when the number is of middling size, else
with an exponent of at least two digits. -/
def Digits.text (d : Digits) : String :=
  let (n, zeros) := dropZeros 400 d.digits
  let ds := toString n
  let scale := d.scale + zeros
  let point : Int := ds.length + scale
  let zerosText := fun k : Nat => String.ofList (List.replicate k '0')
  if -4 < point && point ≤ 16 then
    if 0 ≤ scale then ds ++ zerosText scale.toNat ++ ".0"
    else if 0 < point then
      String.ofList (ds.toList.take point.toNat) ++ "."
        ++ String.ofList (ds.toList.drop point.toNat)
    else "0." ++ zerosText (-point).toNat ++ ds
  else
    let lead := String.ofList (ds.toList.take 1)
    let rest := String.ofList (ds.toList.drop 1)
    let exponent := point - 1
    let size := toString exponent.natAbs
    lead ++ (if rest.isEmpty then "" else "." ++ rest) ++ (if exponent < 0 then "e-" else "e+")
      ++ (if size.length < 2 then "0" else "") ++ size

/-- The text of a double. -/
def text (x : Float) : String :=
  let sign := fun negative => if negative then "-" else ""
  match exact x with
  | .finite negative m e =>
    sign negative ++ (if m == 0 then "0.0" else (shortest m e).text)
  | .infinite negative => sign negative ++ "inf"
  | .undefined => "nan"

end QueryTutor.Decimal
