import QueryTutor.Check.SolutionMatch
import QueryTutor.Proofs.Double.Interval
import QueryTutor.Proofs.Double.Monotone

/-!
# Weights of tests

Weights are brought into the range from zero to one.  What is no number is in no range and stays as
it is.
-/

namespace QueryTutor.Check
open Double

lemma zero_eq : (0.0 : Float) = Float.ofNat 0 := by
  decide

lemma one_eq : (1.0 : Float) = Float.ofNat 1 := by
  decide

/-- The double is a number from zero to one. -/
abbrev IsShare (w : Float) : Prop :=
  Within 0 1 w

lemma isShare_zero : IsShare (Float.ofNat 0) := by
  have h := within_ofNat (n := 0) (by norm_num)
  exact ⟨h.isFinite, by simpa using h.lower, h.upper.trans (by norm_num)⟩

lemma isShare_one : IsShare (Float.ofNat 1) := by
  have h := within_ofNat (n := 1) (by norm_num)
  exact ⟨h.isFinite, zero_le_one.trans (by simpa using h.lower), by simpa using h.upper⟩

lemma IsShare.isNumber {w : Float} (h : IsShare w) : IsNumber w :=
  h.isFinite.isNumber

/-- A number is brought into the range. -/
lemma isShare_clampWeight {w : Float} (h : IsNumber w) : IsShare (clampWeight w) := by
  have hbig := natCast_lt_overflow (n := 1) (by norm_num)
  rw [Nat.cast_one] at hbig
  have hzero : value (Float.ofNat 0) = 0 := by simpa using value_ofNat (n := 0) (by norm_num)
  have hone : value (Float.ofNat 1) = 1 := by simpa using value_ofNat (n := 1) (by norm_num)
  -- what is not above one stays, if it is not below zero
  have upper : ∀ x, IsNumber x → 0 ≤ value x →
      IsShare (if Float.lt (Float.ofNat 1) x then Float.ofNat 1 else x) := by
    intro x hx h0
    split_ifs with habove
    · exact isShare_one
    · have hle : value x ≤ 1 := by
        by_contra hgt
        exact habove (lt_iff.2 ⟨isShare_one.isNumber, hx, hone.trans_lt (not_le.1 hgt)⟩)
      refine ⟨hx.isFinite ?_, h0, hle⟩
      rw [abs_of_nonneg h0]
      linarith
  unfold clampWeight
  rw [zero_eq, one_eq]
  dsimp only
  by_cases hbelow : Float.lt w (Float.ofNat 0) = true
  · rw [if_pos hbelow]
    exact upper _ isShare_zero.isNumber isShare_zero.lower
  · rw [if_neg hbelow]
    refine upper _ h (not_lt.1 fun hlt => hbelow ?_)
    exact lt_iff.2 ⟨h, isShare_zero.isNumber, hlt.trans_eq hzero.symm⟩

/-- What is no number is neither below zero nor above one. -/
lemma clampWeight_of_not_isNumber {w : Float} (h : ¬ IsNumber w) : clampWeight w = w := by
  have hbelow : ¬ Float.lt w 0.0 = true := fun hlt => h (lt_iff.1 hlt).1
  have habove : ¬ Float.lt 1.0 w = true := fun hlt => h (lt_iff.1 hlt).2.1
  rw [clampWeight, if_neg hbelow, if_neg habove]

lemma isShare_clampWeight_iff {w : Float} : IsShare (clampWeight w) ↔ IsNumber w := by
  refine ⟨fun hshare => ?_, isShare_clampWeight⟩
  by_contra h
  rw [clampWeight_of_not_isNumber h] at hshare
  exact h hshare.isNumber

/-- One of several equal shares lies between zero and one. -/
lemma isShare_equal {n : ℕ} (hn : 0 < n) : IsShare (1.0 / Float.ofNat n) := by
  rw [one_eq]
  have hone : value (Float.ofNat 1) = 1 := by simpa using value_ofNat (n := 1) (by norm_num)
  obtain hfin | htop := (rounds_ofNat n).isNumber.finite_or_top (value_ofNat_nonneg n)
  · have hle : 1 ≤ value (Float.ofNat n) := hone.symm.trans_le (value_ofNat_mono hn)
    have hpos : 0 < value (Float.ofNat n) := one_pos.trans_le hle
    have hdiv := rounds_div isShare_one.isFinite hfin hpos.ne'
    rw [hone] at hdiv
    exact hdiv.within exact_zero exact_one (by positivity) ((div_le_one hpos).2 hle)
  · have hnothing := within_div_top isShare_one.isFinite htop
    exact ⟨hnothing.isFinite, hnothing.lower, hnothing.upper.trans zero_le_one⟩

/-- The weight of an outcome is that of its test case, brought into the range, or an equal share. -/
lemma weight_runTestCase (a : Analysis) (q : List Char) (standard : Float) (t : Exercise.TestCase) :
    (runTestCase a q standard t).weight = (t.weight.map clampWeight).getD standard := by
  rw [runTestCase]
  cases t.weight <;> dsimp only <;> cases testFault? t a q <;> rfl

lemma weight_runSolutionMatch (threshold : Float) (e : Exercise) (q : List Char) :
    (runSolutionMatch threshold e q).weight = 1.0 := by
  unfold runSolutionMatch
  dsimp only
  split_ifs <;> rfl

/-- The tests are the test cases, or the comparison with the solution if there are none. -/
lemma tests_cases (e : Exercise) (a : Analysis) (q : List Char) :
    (0 < (e.testCases.getD []).length ∧ tests e a q = runTestCases (e.testCases.getD []) a q) ∨
      (e.testCases.getD [] = [] ∧ tests e a q = [runSolutionMatch standardThreshold e q]) := by
  unfold tests Strategy.ofExercise
  cases hcases : e.testCases with
  | none => exact .inr ⟨rfl, rfl⟩
  | some ts =>
    cases ts with
    | nil => exact .inr ⟨rfl, rfl⟩
    | cons t ts => exact .inl ⟨Nat.succ_pos _, rfl⟩

/-- The weight of a test is a share, or one that the exercise gives, brought into the range. -/
lemma weight_of_mem_tests {e : Exercise} {a : Analysis} {q : List Char} {r : TestResult}
    (h : r ∈ tests e a q) :
    IsShare r.weight ∨ ∃ t ∈ e.testCases.getD [], ∃ w ∈ t.weight, r.weight = clampWeight w := by
  obtain ⟨hpos, htests⟩ | ⟨-, htests⟩ := tests_cases e a q <;> rw [htests] at h
  · obtain ⟨t, ht, rfl⟩ := List.mem_map.1 h
    rw [weight_runTestCase]
    cases hw : t.weight with
    | none => exact .inl (isShare_equal hpos)
    | some w => exact .inr ⟨t, ht, w, hw, rfl⟩
  · rw [List.mem_singleton.1 h, weight_runSolutionMatch, one_eq]
    exact .inl isShare_one

/-- The weight of a test is a number from zero to one or no number at all. -/
lemma isShare_or_not_isNumber {e : Exercise} {a : Analysis} {q : List Char} {r : TestResult}
    (h : r ∈ tests e a q) : IsShare r.weight ∨ ¬ IsNumber r.weight := by
  obtain hshare | ⟨t, -, w, -, hweight⟩ := weight_of_mem_tests h
  · exact .inl hshare
  · rw [hweight]
    by_cases hw : IsNumber w
    · exact .inl (isShare_clampWeight hw)
    · rw [clampWeight_of_not_isNumber hw]
      exact .inr hw

end QueryTutor.Check
