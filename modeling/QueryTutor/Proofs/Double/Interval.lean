import QueryTutor.Proofs.Double.Whole

/-!
# Doubles between two bounds

Bounds that are values of doubles are kept by rounding, so that interval arithmetic on exact results
holds of doubles too.  What comes of no number is no number.
-/

namespace QueryTutor.Double
open Float.Model Float.Model.UnpackedFloat

/-- The double is a finite number between two bounds. -/
structure Within (a b : ℚ) (x : Float) : Prop where
  isFinite : IsFinite x
  lower : a ≤ value x
  upper : value x ≤ b

/-- The number is the value of a finite double. -/
structure Exact (q : ℚ) : Prop where
  rounded_eq : rounded q = q
  abs_lt : |q| < overflow

lemma Exact.neg {q : ℚ} (h : Exact q) : Exact (-q) where
  rounded_eq := by rw [rounded_neg, h.rounded_eq]
  abs_lt := by rw [abs_neg]; exact h.abs_lt

/-- Whole numbers of at most 53 places are exact, and so are they with their point moved to the left.
-/
lemma exact_natCast_mul {n : ℕ} (h : n < 2 ^ 53) {e : ℤ} (lo : -1074 ≤ e) (hi : e ≤ 0) :
    Exact (n * 2 ^ e) := by
  have h0 : (0 : ℚ) ≤ n * 2 ^ e := by positivity
  have hlt : (n : ℚ) * 2 ^ e < overflow := by
    calc (n : ℚ) * 2 ^ e ≤ n * 2 ^ (0 : ℤ) := by gcongr; norm_num
      _ = n := by rw [zpow_zero, mul_one]
      _ < overflow := natCast_lt_overflow h
  have hpos := overflow_pos
  refine ⟨?_, by rwa [abs_of_nonneg h0]⟩
  rw [rounded, nearest_eq_self h lo, min_eq_right hlt.le, max_eq_right (by linarith)]

lemma exact_natCast {n : ℕ} (h : n < 2 ^ 53) : Exact n := by
  simpa using exact_natCast_mul h (e := 0) (by norm_num) le_rfl

lemma exact_intCast {n : ℤ} (h : |n| < 2 ^ 53) : Exact n := by
  have hnat : n.natAbs < 2 ^ 53 := by
    rw [Int.abs_eq_natAbs] at h
    exact_mod_cast h
  obtain heq | heq := n.natAbs_eq
  · rw [heq, Int.cast_natCast]
    exact exact_natCast hnat
  · rw [heq, Int.cast_neg, Int.cast_natCast]
    exact (exact_natCast hnat).neg

lemma exact_zero : Exact 0 := by
  exact_mod_cast exact_natCast (n := 0) (by norm_num)

lemma exact_one : Exact 1 := by
  exact_mod_cast exact_natCast (n := 1) (by norm_num)

/-- A result between two exact numbers stays there when it is rounded. -/
lemma Rounds.within {x : Float} {q a b : ℚ} (h : Rounds x q) (ha : Exact a) (hb : Exact b)
    (haq : a ≤ q) (hqb : q ≤ b) : Within a b x := by
  have hlower : a ≤ value x := by
    rw [h.value_eq, ← ha.rounded_eq]
    exact rounded_mono haq
  have hupper : value x ≤ b := by
    rw [h.value_eq, ← hb.rounded_eq]
    exact rounded_mono hqb
  have habs : |value x| < overflow :=
    abs_lt.2 ⟨(abs_lt.1 ha.abs_lt).1.trans_le hlower, hupper.trans_lt (abs_lt.1 hb.abs_lt).2⟩
  exact ⟨h.isNumber.isFinite habs, hlower, hupper⟩

/-- A whole number of at most 53 places becomes the double that has its value. -/
lemma within_ofNat {n : ℕ} (h : n < 2 ^ 53) : Within n n (Float.ofNat n) :=
  ⟨isFinite_ofNat h, (value_ofNat h).ge, (value_ofNat h).le⟩

/-- Taking a whole number away from a double between two whole numbers. -/
lemma Within.sub_ofNat {a b : ℤ} {x : Float} (h : Within a b x) {n : ℕ} (hn : n < 2 ^ 52)
    (ha : |a| < 2 ^ 52) (hb : |b| < 2 ^ 52) :
    Within (a - n : ℤ) (b - n : ℤ) (x - Float.ofNat n) := by
  rw [abs_lt] at ha hb
  have hfin : IsFinite (Float.ofNat n) := isFinite_ofNat (by omega)
  have hv : value (Float.ofNat n) = n := value_ofNat (by omega)
  refine (rounds_sub h.isFinite hfin).within (exact_intCast ?_) (exact_intCast ?_) ?_ ?_
  · rw [abs_lt]
    omega
  · rw [abs_lt]
    omega
  · rw [hv]
    push_cast
    linarith [h.lower]
  · rw [hv]
    push_cast
    linarith [h.upper]

/-! ## What is no number -/

lemma not_isNumber_of_unpack {u : UnpackedFloat} (h : u = .notANumber) :
    ¬ IsNumber (.ofModel (.pack u)) := by
  subst h
  exact fun h => h rfl

/-- What is added to no number gives none. -/
lemma not_isNumber_add {x y : Float} (h : ¬ IsNumber x ∨ ¬ IsNumber y) : ¬ IsNumber (x + y) := by
  apply not_isNumber_of_unpack
  obtain h | h := h
  · rw [not_not.1 h]
    rfl
  · rw [not_not.1 h]
    cases x.toModel.unpack <;> rfl

/-- A share of an infinity is nothing. -/
lemma within_div_top {x y : Float} (hx : IsFinite x) (hy : y.toModel.unpack = .infinity .positive) :
    Within 0 0 (x / y) := by
  have hzero : ∀ u : UnpackedFloat, (∃ s, u = .zero s) → Within 0 0 (.ofModel (.pack u)) := by
    rintro u ⟨s, rfl⟩
    exact (packs_zero s).rounds.within exact_zero exact_zero le_rfl le_rfl
  apply hzero
  rw [hy]
  obtain ⟨s, hs⟩ | ⟨s, m, e, hm, hs⟩ := hx <;> rw [hs] <;> exact ⟨_, rfl⟩

end QueryTutor.Double
