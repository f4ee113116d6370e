import QueryTutor.Proofs.Double.Monotone
import QueryTutor.Score

/-!
# Points

A score lies between 0 and 100, whatever the tests have weighed, and more deductions never raise it.
-/

namespace QueryTutor.Score
open Double
open Float.Model Float.Model.UnpackedFloat

lemma half_spec : IsFinite (0.5 : Float) ∧ value (0.5 : Float) = 1 / 2 := by
  -- The literal is read as a quotient of two whole numbers.
  have h : (0.5 : Float) = Float.ofNat 1 / Float.ofNat 2 := by decide +kernel
  have h1 := value_ofNat (n := 1) (by norm_num)
  have h2 := value_ofNat (n := 2) (by norm_num)
  have hr := rounds_div (isFinite_ofNat (n := 1) (by norm_num))
    (isFinite_ofNat (n := 2) (by norm_num)) (by rw [h2]; norm_num)
  have hq : (value (Float.ofNat 1) / value (Float.ofNat 2))
      = ((2 ^ 52 : ℕ) : ℚ) * 2 ^ (-53 : ℤ) := by
    rw [h1, h2]
    norm_num
  have fits : Fits (2 ^ 52) (-53) := ⟨by norm_num, by norm_num, by norm_num, .inl le_rfl⟩
  rw [hq, ← h] at hr
  have hv : value (0.5 : Float) = 1 / 2 := by
    rw [hr.value_eq, fits.rounded_eq]
    norm_num
  have hpos := natCast_lt_overflow (n := 1) (by norm_num)
  refine ⟨hr.isNumber.isFinite ?_, hv⟩
  rw [hv, abs_of_pos (by norm_num)]
  push_cast at hpos
  linarith

/-- The double is a finite number between 0 and 100. -/
structure InRange (x : Float) : Prop where
  isFinite : IsFinite x
  nonneg : 0 ≤ value x
  le_full : value x ≤ 100

lemma value_zero : value (Float.ofNat 0) = 0 := by
  simpa using value_ofNat (n := 0) (by norm_num)

lemma value_full : value (Float.ofNat full) = 100 := by
  simpa [full] using value_ofNat (n := full) (by norm_num [full])

lemma isFinite_zero : IsFinite (Float.ofNat 0) :=
  isFinite_ofNat (by norm_num)

lemma isFinite_full : IsFinite (Float.ofNat full) :=
  isFinite_ofNat (by norm_num [full])

/-- The double brought into the range from 0 to 100. -/
def clamp (x : Float) : Float :=
  Arithmetic.atLeast (Arithmetic.ofNat 0) (Arithmetic.atMost (Arithmetic.ofNat full) x)

/-- What is not below 100, or is no number, is brought to 100. -/
lemma atMost_cases (x : Float) :
    (Arithmetic.atMost (Arithmetic.ofNat full) x = x ∧ IsNumber x ∧ value x < 100) ∨
      (Arithmetic.atMost (Arithmetic.ofNat full) x = Float.ofNat full ∧
        (IsNumber x → 100 ≤ value x)) := by
  unfold Arithmetic.atMost
  split_ifs with h
  · obtain ⟨hx, -, hlt⟩ := lt_iff.1 h
    exact .inl ⟨rfl, hx, hlt.trans_eq value_full⟩
  · refine .inr ⟨rfl, fun hx => not_lt.1 fun hlt => h ?_⟩
    exact lt_iff.2 ⟨hx, isFinite_full.isNumber, hlt.trans_eq value_full.symm⟩

/-- What is not above zero, or is no number, is brought to zero. -/
lemma atLeast_cases (x : Float) :
    (Arithmetic.atLeast (Arithmetic.ofNat 0) x = x ∧ IsNumber x ∧ 0 < value x) ∨
      (Arithmetic.atLeast (Arithmetic.ofNat 0) x = Float.ofNat 0 ∧ (IsNumber x → value x ≤ 0)) := by
  unfold Arithmetic.atLeast
  split_ifs with h
  · obtain ⟨-, hx, hlt⟩ := lt_iff.1 h
    exact .inl ⟨rfl, hx, value_zero.symm.trans_lt hlt⟩
  · refine .inr ⟨rfl, fun hx => not_lt.1 fun hlt => h ?_⟩
    exact lt_iff.2 ⟨isFinite_zero.isNumber, hx, value_zero.trans_lt hlt⟩

/-- Clamping gives a number in the range, also where it starts with none. -/
lemma clamp_inRange (x : Float) : InRange (clamp x) := by
  have hbig := natCast_lt_overflow (n := 100) (by norm_num)
  push_cast at hbig
  unfold clamp
  obtain ⟨h, hx, hlt⟩ | ⟨h, -⟩ := atMost_cases x <;> rw [h]
  · obtain ⟨h', -, hpos⟩ | ⟨h', -⟩ := atLeast_cases x <;> rw [h']
    · refine ⟨hx.isFinite ?_, hpos.le, hlt.le⟩
      rw [abs_of_pos hpos]
      linarith
    · exact ⟨isFinite_zero, value_zero.ge, value_zero.trans_le (by norm_num)⟩
  · obtain ⟨h', -⟩ | ⟨h', -⟩ := atLeast_cases (Float.ofNat full) <;> rw [h']
    · exact ⟨isFinite_full, value_full.symm ▸ by norm_num, value_full.le⟩
    · exact ⟨isFinite_zero, value_zero.ge, value_zero.trans_le (by norm_num)⟩

/-- A clamped number has the value nearest to its own in the range. -/
lemma value_clamp {x : Float} (hx : IsNumber x) :
    value (clamp x) = max 0 (min 100 (value x)) := by
  unfold clamp
  obtain ⟨h, -, hlt⟩ | ⟨h, hge⟩ := atMost_cases x <;> rw [h]
  · rw [min_eq_right hlt.le]
    obtain ⟨h', -, hpos⟩ | ⟨h', hle⟩ := atLeast_cases x <;> rw [h']
    · rw [max_eq_right hpos.le]
    · rw [max_eq_left (hle hx), value_zero]
  · rw [min_eq_left (hge hx), max_eq_right (by norm_num)]
    obtain ⟨h', -⟩ | ⟨h', hle⟩ := atLeast_cases (Float.ofNat full) <;> rw [h']
    · exact value_full
    · have := hle isFinite_full.isNumber
      rw [value_full] at this
      norm_num at this

/-- Points in the range are rounded to the whole number next to them, a half upwards. -/
lemma round_eq {x : Float} (h : InRange x) :
    Arithmetic.round x = ⌊rounded (value x + 1 / 2)⌋₊ := by
  have hsum := rounds_add h.isFinite half_spec.1
  rw [half_spec.2] at hsum
  have h201 : rounded 201 = 201 := by
    simpa using rounded_natCast (n := 201) (by norm_num)
  have hle : rounded (value x + 1 / 2) ≤ 201 := by
    calc rounded (value x + 1 / 2) ≤ rounded 201 := rounded_mono (by linarith [h.le_full])
      _ = 201 := h201
  have hfloor : ⌊rounded (value x + 1 / 2)⌋₊ ≤ 201 := by
    exact_mod_cast Nat.floor_le_of_le (by exact_mod_cast hle)
  change (x + 0.5).toUInt64.toNat = _
  rw [toNat_toUInt64 hsum.isNumber, hsum.value_eq]
  omega

lemma round_mono {x y : Float} (hx : InRange x) (hy : InRange y) (h : value x ≤ value y) :
    (Arithmetic.round x : ℕ) ≤ Arithmetic.round y := by
  rw [round_eq hx, round_eq hy]
  exact Nat.floor_mono (rounded_mono (by linarith))

lemma round_le {x : Float} (h : InRange x) : (Arithmetic.round x : ℕ) ≤ 100 := by
  have fits : ((201 * 2 ^ 45 : ℕ) : ℚ) * 2 ^ (-46 : ℤ) = 100 + 1 / 2 := by
    norm_num
  have hfix : rounded (100 + 1 / 2) = 100 + 1 / 2 := by
    rw [← fits]
    exact Fits.rounded_eq ⟨by norm_num, by norm_num, by norm_num, .inl (by norm_num)⟩
  have hlt : rounded (value x + 1 / 2) < 101 := by
    calc rounded (value x + 1 / 2) ≤ rounded (100 + 1 / 2) := rounded_mono (by linarith [h.le_full])
      _ = 100 + 1 / 2 := hfix
      _ < 101 := by norm_num
  rw [round_eq h]
  exact Nat.le_of_lt_succ ((Nat.floor_lt' (by norm_num)).2 (by exact_mod_cast hlt))

/-- A score is at most 100. -/
theorem score_le (tests : List (Bool × Float)) (ms : List Mistake) (missing violations : ℕ) :
    score tests ms missing violations ≤ 100 :=
  round_le (clamp_inRange _)

/-- The double is no number or positive infinity, so that deductions do not count any more. -/
def Topped (x : Float) : Prop :=
  x.toModel.unpack = .notANumber ∨ x.toModel.unpack = .infinity .positive

/-- What is not topped is a number below all infinities. -/
lemma lt_overflow_of_not_topped {x : Float} (h : ¬ Topped x) :
    IsNumber x ∧ value x < overflow := by
  obtain ⟨hn, ht⟩ := not_or.1 h
  refine ⟨hn, lt_of_not_ge fun hge => ht ?_⟩
  obtain b | hs := IsNumber.finite_or_top hn (overflow_pos.le.trans hge)
  · exact absurd hge (not_le.2 (abs_lt.1 (IsFinite.abs_lt b)).2)
  · exact hs

lemma Topped.sub {x : Float} (h : Topped x) (d : Float) : Topped (x - d) := by
  have pack : ∀ u : UnpackedFloat, u = .notANumber ∨ u = .infinity .positive →
      Topped (.ofModel (.pack u)) := by
    rintro u (rfl | rfl)
    · exact .inl (unpack_pack trivial)
    · exact .inr (unpack_pack trivial)
  apply pack
  obtain h | h := h
  · left
    rw [h]
    rfl
  · rw [h]
    cases d.toModel.unpack with
    | infinity t => cases t <;> first | exact .inl rfl | exact .inr rfl
    | notANumber => exact .inl rfl
    | zero t => exact .inr rfl
    | finite t m e hm => exact .inr rfl

lemma Topped.clamp_eq {x : Float} (h : Topped x) : clamp x = clamp (Float.ofNat full) := by
  have top : ∀ y, (IsNumber y → 100 ≤ value y) →
      Arithmetic.atMost (Arithmetic.ofNat full) y = Float.ofNat full := by
    intro y hy
    obtain ⟨-, hn, hlt⟩ | ⟨h', -⟩ := atMost_cases y
    · exact absurd hlt (not_lt.2 (hy hn))
    · exact h'
  have hbig := natCast_lt_overflow (n := 100) (by norm_num)
  push_cast at hbig
  have hx : IsNumber x → 100 ≤ value x := by
    intro hn
    obtain h | h := h
    · exact absurd h hn
    · rw [value, h, unpackedValue_infinity, signValue_positive, one_mul]
      exact hbig.le
  unfold clamp
  rw [top x hx, top (Float.ofNat full) fun _ => value_full.ge]

/-- Larger deductions leave less. -/
lemma clamp_sub_sub_sub_le {x : Float} {a b c a' b' c' : ℕ} (ha : a ≤ a') (hb : b ≤ b')
    (hc : c ≤ c') :
    value (clamp (x - Float.ofNat a' - Float.ofNat b' - Float.ofNat c'))
      ≤ value (clamp (x - Float.ofNat a - Float.ofNat b - Float.ofNat c)) := by
  by_cases top : Topped x
  · rw [(((top.sub _).sub _).sub _).clamp_eq, (((top.sub _).sub _).sub _).clamp_eq]
  · obtain ⟨hx, hlt⟩ := lt_overflow_of_not_topped top
    -- what is taken is a number, and what is left stays a number below all infinities
    have num : ∀ n : ℕ, IsNumber (Float.ofNat n) := fun n => (rounds_ofNat n).isNumber
    have step : ∀ {y : Float} (n : ℕ), IsNumber y ∧ value y < overflow →
        IsNumber (y - Float.ofNat n) ∧ value (y - Float.ofNat n) < overflow := by
      rintro y n ⟨hy, hlt⟩
      obtain ⟨hn, hle⟩ := sub_le_self hy hlt (num n) (value_ofNat_nonneg n)
      exact ⟨hn, hle.trans_lt hlt⟩
    have less : ∀ {y y' : Float} {n n' : ℕ}, IsNumber y' → IsNumber y ∧ value y < overflow →
        value y' ≤ value y → n ≤ n' →
        value (y' - Float.ofNat n') ≤ value (y - Float.ofNat n) := by
      intro y y' n n' hy' hy hle hn
      exact sub_le_sub hy' hy.1 hle hy.2 (num n') (num n) (value_ofNat_nonneg n)
        (value_ofNat_mono hn)
    have h1 := step a ⟨hx, hlt⟩
    have h1' := step a' ⟨hx, hlt⟩
    have l1 := less hx ⟨hx, hlt⟩ le_rfl ha
    have h2' := step b' h1'
    have l2 := less h1'.1 h1 l1 hb
    have l3 := less h2'.1 (step b h1) l2 hc
    rw [value_clamp (step c' h2').1, value_clamp (step c (step b h1)).1]
    exact max_le_max le_rfl (min_le_min le_rfl l3)

/-- A score does not grow when the mistakes cost more, or more is missing or forbidden. -/
theorem score_antitone (tests : List (Bool × Float)) {ms ms' : List Mistake}
    {missing missing' violations violations' : ℕ} (hp : penalty ms ≤ penalty ms')
    (hm : missing ≤ missing') (hv : violations ≤ violations') :
    score tests ms' missing' violations' ≤ score tests ms missing violations :=
  round_mono (clamp_inRange _) (clamp_inRange _)
    (clamp_sub_sub_sub_le hp (Nat.mul_le_mul_right _ hm) (Nat.mul_le_mul_right _ hv))

end QueryTutor.Score
