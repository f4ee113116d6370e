import Mathlib

/-!
# Rounding to doubles

The double nearest to a rational number, with ties to the even neighbour.  An overflow counts as the
first power of two that is too large, so that rounding is monotone on all rational numbers.
-/

namespace QueryTutor.Double

/-- The nearest whole number, and of two such the even one. -/
def roundEven (x : ℚ) : ℤ :=
  if 2 * (x - ⌊x⌋) < 1 then ⌊x⌋ else if 2 * (x - ⌊x⌋) = 1 then ⌊x⌋ + ⌊x⌋ % 2 else ⌊x⌋ + 1

lemma roundEven_of_lt {x : ℚ} (h : 2 * (x - ⌊x⌋) < 1) : roundEven x = ⌊x⌋ :=
  if_pos h

lemma roundEven_of_eq {x : ℚ} (h : 2 * (x - ⌊x⌋) = 1) : roundEven x = ⌊x⌋ + ⌊x⌋ % 2 := by
  rw [roundEven, if_neg (by linarith), if_pos h]

lemma roundEven_of_gt {x : ℚ} (h : 1 < 2 * (x - ⌊x⌋)) : roundEven x = ⌊x⌋ + 1 := by
  rw [roundEven, if_neg (by linarith), if_neg (by linarith)]

/-- Rounding gives the floor or its successor. -/
lemma roundEven_mem (x : ℚ) : ⌊x⌋ ≤ roundEven x ∧ roundEven x ≤ ⌊x⌋ + 1 := by
  unfold roundEven
  split_ifs <;> omega

/-- Whole numbers are not changed. -/
@[simp]
lemma roundEven_intCast (n : ℤ) : roundEven n = n := by
  simp [roundEven]

/-- Rounding to whole numbers is monotone. -/
lemma roundEven_mono : Monotone roundEven := by
  intro x y h
  obtain hlt | heq := (Int.floor_mono h).lt_or_eq
  · calc roundEven x ≤ ⌊x⌋ + 1 := (roundEven_mem x).2
      _ ≤ ⌊y⌋ := hlt
      _ ≤ roundEven y := (roundEven_mem y).1
  -- Within one unit only the place of the half counts.
  · have hfrac : 2 * (x - ⌊x⌋) ≤ 2 * (y - ⌊y⌋) := by rw [heq]; linarith
    obtain hx | hx | hx := lt_trichotomy (2 * (x - ⌊x⌋)) 1
    · rw [roundEven_of_lt hx, heq]
      exact (roundEven_mem y).1
    · obtain hy | hy := hfrac.lt_or_eq
      · rw [roundEven_of_eq hx, roundEven_of_gt (by linarith), heq]
        omega
      · rw [roundEven_of_eq hx, roundEven_of_eq (by linarith), heq]
    · rw [roundEven_of_gt hx, roundEven_of_gt (by linarith), heq]

/-- A whole number is reached from above by rounding. -/
lemma roundEven_le {x : ℚ} {n : ℤ} (h : x ≤ n) : roundEven x ≤ n := by
  simpa using roundEven_mono h

/-- A whole number is reached from below by rounding. -/
lemma le_roundEven {x : ℚ} {n : ℤ} (h : (n : ℚ) ≤ x) : n ≤ roundEven x := by
  simpa using roundEven_mono h

/-- Rounding treats both signs alike. -/
lemma roundEven_neg (x : ℚ) : roundEven (-x) = -roundEven x := by
  obtain heq | hlt := (Int.floor_le x).eq_or_lt
  · rw [← heq, ← Int.cast_neg, roundEven_intCast, roundEven_intCast]
  · have hi := Int.lt_floor_add_one x
    have hf : ⌊-x⌋ = -⌊x⌋ - 1 := by
      rw [Int.floor_eq_iff]
      push_cast
      constructor <;> linarith
    have hfrac : 2 * (-x - (⌊-x⌋ : ℚ)) = 2 - 2 * (x - ⌊x⌋) := by
      rw [hf]
      push_cast
      ring
    obtain hx | hx | hx := lt_trichotomy (2 * (x - ⌊x⌋)) 1
    · rw [roundEven_of_lt hx, roundEven_of_gt (by linarith), hf]
      ring
    · rw [roundEven_of_eq hx, roundEven_of_eq (by linarith), hf]
      omega
    · rw [roundEven_of_gt hx, roundEven_of_lt (by linarith), hf]
      ring

/-- The exponent of the last place that a double near `x` has. -/
def lastPlace (x : ℚ) : ℤ :=
  max (Int.log 2 |x| - 52) (-1074)

/-- The last place does not depend on the sign. -/
@[simp]
lemma lastPlace_neg (x : ℚ) : lastPlace (-x) = lastPlace x := by
  simp [lastPlace]

/-- Larger numbers have no smaller last place. -/
lemma lastPlace_mono {x y : ℚ} (hx : 0 < x) (h : x ≤ y) : lastPlace x ≤ lastPlace y := by
  have hy : 0 < y := hx.trans_le h
  have hlog : Int.log 2 x ≤ Int.log 2 y := Int.log_mono_right hx h
  simp only [lastPlace, abs_of_pos hx, abs_of_pos hy]
  omega

/-- The nearest number that has the mantissa of a double, whatever its exponent. -/
def nearest (x : ℚ) : ℚ :=
  roundEven (x / 2 ^ lastPlace x) * 2 ^ lastPlace x

@[simp]
lemma nearest_zero : nearest 0 = 0 := by
  have h : roundEven 0 = 0 := by simpa using roundEven_intCast 0
  simp [nearest, h]

/-- Rounding to doubles treats both signs alike. -/
lemma nearest_neg (x : ℚ) : nearest (-x) = -nearest x := by
  simp [nearest, neg_div, roundEven_neg]

/-- A number is below the power of two behind the places of its double. -/
lemma lt_two_zpow {x : ℚ} (hx : 0 < x) : x < 2 ^ (lastPlace x + 53) := by
  have h := Int.lt_zpow_succ_log_self (b := 2) (by norm_num) x
  have hle : Int.log 2 x + 1 ≤ lastPlace x + 53 := by
    simp only [lastPlace, abs_of_pos hx]
    omega
  calc x < 2 ^ (Int.log 2 x + 1) := by exact_mod_cast h
    _ ≤ 2 ^ (lastPlace x + 53) := zpow_le_zpow_right₀ (by norm_num) hle

/-- A number is at least the power of two at the front of its double. -/
lemma two_zpow_le {x : ℚ} (hx : 0 < x) (h : -1074 < lastPlace x) :
    (2 : ℚ) ^ (lastPlace x + 52) ≤ x := by
  have hlog : lastPlace x + 52 = Int.log 2 x := by
    simp only [lastPlace, abs_of_pos hx] at h ⊢
    omega
  rw [hlog]
  exact_mod_cast Int.zpow_log_le_self (b := 2) (by norm_num) hx

/-- A double has at most 53 places. -/
lemma roundEven_le_pow {x : ℚ} (hx : 0 < x) : roundEven (x / 2 ^ lastPlace x) ≤ 2 ^ 53 := by
  apply roundEven_le
  rw [div_le_iff₀ (by positivity), Int.cast_pow, Int.cast_ofNat, ← zpow_natCast,
    ← zpow_add₀ (by norm_num), add_comm]
  exact (lt_two_zpow hx).le

/-- A double that does not end in the smallest place has 53 places. -/
lemma pow_le_roundEven {x : ℚ} (hx : 0 < x) (h : -1074 < lastPlace x) :
    2 ^ 52 ≤ roundEven (x / 2 ^ lastPlace x) := by
  apply le_roundEven
  rw [le_div_iff₀ (by positivity), Int.cast_pow, Int.cast_ofNat, ← zpow_natCast,
    ← zpow_add₀ (by norm_num), add_comm]
  exact two_zpow_le hx h

/-- Rounding keeps the sign. -/
lemma nearest_nonneg {x : ℚ} (hx : 0 ≤ x) : 0 ≤ nearest x := by
  have h : 0 ≤ roundEven (x / 2 ^ lastPlace x) := le_roundEven (by positivity)
  have hq : (0 : ℚ) ≤ roundEven (x / 2 ^ lastPlace x) := by exact_mod_cast h
  exact mul_nonneg hq (by positivity)

/-- Rounding is monotone on positive numbers. -/
lemma nearest_mono_of_pos {x y : ℚ} (hx : 0 < x) (h : x ≤ y) : nearest x ≤ nearest y := by
  have hy : 0 < y := hx.trans_le h
  obtain heq | hlt := (lastPlace_mono hx h).eq_or_lt
  · unfold nearest
    rw [heq]
    have hr : roundEven (x / 2 ^ lastPlace y) ≤ roundEven (y / 2 ^ lastPlace y) :=
      roundEven_mono (by gcongr)
    gcongr
  -- Between the two numbers lies a power of two that both roundings respect.
  · have hmin : -1074 ≤ lastPlace x := le_max_right _ _
    have hx' : (roundEven (x / 2 ^ lastPlace x) : ℚ) ≤ 2 ^ 53 := by
      exact_mod_cast roundEven_le_pow hx
    have hy' : (2 : ℚ) ^ 52 ≤ roundEven (y / 2 ^ lastPlace y) := by
      exact_mod_cast pow_le_roundEven hy (by omega)
    calc nearest x ≤ 2 ^ 53 * 2 ^ lastPlace x := by unfold nearest; gcongr
      _ = 2 ^ (lastPlace x + 53) := by rw [← zpow_natCast, ← zpow_add₀ (by norm_num), add_comm]; rfl
      _ ≤ 2 ^ (lastPlace y + 52) := zpow_le_zpow_right₀ (by norm_num) (by omega)
      _ = 2 ^ 52 * 2 ^ lastPlace y := by
        rw [← zpow_natCast, ← zpow_add₀ (by norm_num), add_comm]; rfl
      _ ≤ nearest y := by unfold nearest; gcongr

/-- Rounding to the mantissa of a double is monotone. -/
lemma nearest_mono : Monotone nearest := by
  intro x y h
  obtain hx | hx := lt_or_ge 0 x
  · exact nearest_mono_of_pos hx h
  · obtain hy | hy := lt_or_ge y 0
    · have := nearest_mono_of_pos (x := -y) (y := -x) (by linarith) (by linarith)
      rw [nearest_neg, nearest_neg] at this
      linarith
    · have h0 := nearest_nonneg (x := -x) (by linarith)
      rw [nearest_neg] at h0
      linarith [nearest_nonneg hy]

/-- A number with at most 53 places is not changed. -/
lemma nearest_eq_self {m : ℕ} {e : ℤ} (hm : m < 2 ^ 53) (he : -1074 ≤ e) :
    nearest (m * 2 ^ e) = m * 2 ^ e := by
  obtain rfl | hpos := m.eq_zero_or_pos
  · simp
  have hx : (0 : ℚ) < m * 2 ^ e := by positivity
  have hlt : (m : ℚ) * 2 ^ e < 2 ^ (e + 53) := by
    rw [add_comm, zpow_add₀ (by norm_num)]
    gcongr
    exact_mod_cast hm
  have hlog : Int.log 2 ((m : ℚ) * 2 ^ e) < e + 53 :=
    (Int.lt_zpow_iff_log_lt (b := 2) (by norm_num) hx).1 (by exact_mod_cast hlt)
  have hle : lastPlace ((m : ℚ) * 2 ^ e) ≤ e := by
    simp only [lastPlace, abs_of_pos hx]
    omega
  obtain ⟨k, hk⟩ := Int.le.dest hle
  -- Measured in its last place the number is whole.
  have hwhole : (m : ℚ) * 2 ^ e / 2 ^ lastPlace ((m : ℚ) * 2 ^ e) = ((m * 2 ^ k : ℤ) : ℚ) := by
    rw [div_eq_iff (by positivity)]
    push_cast
    rw [mul_assoc, ← zpow_natCast, ← zpow_add₀ (by norm_num), add_comm, hk]
  unfold nearest
  rw [hwhole, roundEven_intCast, ← hwhole, div_mul_cancel₀ _ (by positivity)]

/-- The value of a number that no double is large enough for. -/
@[irreducible]
def overflow : ℚ :=
  2 ^ (1024 : ℤ)

lemma overflow_pos : 0 < overflow := by
  rw [overflow]
  positivity

/-- Every whole number of at most 53 places lies in the range of doubles. -/
lemma natCast_lt_overflow {n : ℕ} (h : n < 2 ^ 53) : (n : ℚ) < overflow := by
  calc (n : ℚ) < 2 ^ 53 := by exact_mod_cast h
    _ = 2 ^ (53 : ℤ) := by rw [← zpow_natCast]; rfl
    _ ≤ overflow := by
      rw [overflow]
      exact zpow_le_zpow_right₀ (by norm_num) (by norm_num)

/-- The value of the double nearest to a number. -/
def rounded (x : ℚ) : ℚ :=
  max (-overflow) (min overflow (nearest x))

/-- Rounding to doubles is monotone. -/
lemma rounded_mono : Monotone rounded :=
  fun _ _ h => max_le_max le_rfl (min_le_min le_rfl (nearest_mono h))

@[simp]
lemma rounded_zero : rounded 0 = 0 := by
  have := overflow_pos
  simp [rounded, this.le]

lemma rounded_neg (x : ℚ) : rounded (-x) = -rounded x := by
  have := overflow_pos
  simp only [rounded, nearest_neg]
  grind

lemma rounded_natCast {n : ℕ} (h : n < 2 ^ 53) : rounded n = n := by
  have hn : nearest n = n := by simpa using nearest_eq_self (e := 0) h (by norm_num)
  have hlt := natCast_lt_overflow h
  have hpos := overflow_pos
  have h0 : (0 : ℚ) ≤ n := by positivity
  rw [rounded, hn, min_eq_right hlt.le, max_eq_right (by linarith)]

end QueryTutor.Double
