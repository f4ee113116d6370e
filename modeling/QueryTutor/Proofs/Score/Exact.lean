import QueryTutor.Proofs.Rational
import QueryTutor.Proofs.Score.Share

/-!
# Scores in exact arithmetic

Where nothing is rounded before the end, the tests take from a query the failed share of the 40
points that they can cost.  Passing more of them never lowers the score, their order does not matter,
and they take nothing if all are passed or none has weight.
-/

namespace QueryTutor.Score

variable {tests tests' : List (Bool × ℚ)}

/-- The second results are those of the same tests, and all that was passed is passed again. -/
def PassesMore (tests tests' : List (Bool × ℚ)) : Prop :=
  List.Forall₂ (fun t t' => t'.2 = t.2 ∧ (t.1 = true → t'.1 = true)) tests tests'

/-! ## The share that is passed -/

/-- The weight of the tests that are passed. -/
def passedWeight (tests : List (Bool × ℚ)) : ℚ :=
  ((tests.filter (·.1)).map (·.2)).sum

/-- The weight of all tests. -/
def wholeWeight (tests : List (Bool × ℚ)) : ℚ :=
  (tests.map (·.2)).sum

lemma total_eq_sum (ws : List ℚ) : total ws = ws.sum := by
  have shift : ∀ s : ℚ, ws.foldl Arithmetic.add s = s + ws.sum := by
    induction ws with
    | nil => intro s; simp
    | cons w ws ih =>
      intro s
      rw [List.foldl_cons, ih, List.sum_cons, ← add_assoc]
      rfl
  have h := shift (Arithmetic.ofNat 0)
  rw [show (Arithmetic.ofNat 0 : ℚ) = 0 from Nat.cast_zero, zero_add] at h
  exact h

lemma passRatio_eq_div (tests : List (Bool × ℚ)) :
    passRatio tests =
      if 0 < wholeWeight tests then passedWeight tests / wholeWeight tests else 1 := by
  unfold passRatio
  simp only [total_eq_sum]
  show (if decide (((0 : ℕ) : ℚ) < wholeWeight tests) = true then _ else ((1 : ℕ) : ℚ)) = _
  simp only [Nat.cast_zero, Nat.cast_one, decide_eq_true_eq]
  rfl

lemma passedWeight_cons (t : Bool × ℚ) (tests : List (Bool × ℚ)) :
    passedWeight (t :: tests) = (if t.1 = true then t.2 else 0) + passedWeight tests := by
  obtain ⟨passed, w⟩ := t
  cases passed with
  | false => simp [passedWeight]
  | true => simp [passedWeight]

lemma wholeWeight_cons (t : Bool × ℚ) (tests : List (Bool × ℚ)) :
    wholeWeight (t :: tests) = t.2 + wholeWeight tests := by
  simp [wholeWeight]

/-- One more test passed adds its weight to what is passed and nothing to the whole. -/
lemma PassesMore.weights (hmore : PassesMore tests tests') (h : ∀ t ∈ tests, 0 ≤ t.2) :
    wholeWeight tests' = wholeWeight tests ∧ passedWeight tests ≤ passedWeight tests' := by
  induction hmore with
  | nil => exact ⟨rfl, le_rfl⟩
  | @cons t t' ts ts' hstep _ ih =>
    obtain ⟨hweight, hpass⟩ := hstep
    obtain ⟨ht, hts⟩ := List.forall_mem_cons.1 h
    obtain ⟨hwhole, hpassed⟩ := ih hts
    constructor
    · rw [wholeWeight_cons, wholeWeight_cons, hweight, hwhole]
    · have hone : (if t.1 = true then t.2 else 0) ≤ if t'.1 = true then t'.2 else 0 := by
        rw [hweight]
        split_ifs with h1 h2
        · exact le_rfl
        · exact absurd (hpass h1) h2
        · exact ht
        · exact le_rfl
      rw [passedWeight_cons, passedWeight_cons]
      exact add_le_add hone hpassed

lemma PassesMore.passRatio_le (hmore : PassesMore tests tests') (h : ∀ t ∈ tests, 0 ≤ t.2) :
    passRatio tests ≤ passRatio tests' := by
  obtain ⟨hwhole, hpassed⟩ := hmore.weights h
  rw [passRatio_eq_div, passRatio_eq_div, hwhole]
  split_ifs with hpos
  · exact div_le_div_of_nonneg_right hpassed hpos.le
  · exact le_rfl

lemma passRatio_perm (hperm : tests.Perm tests') : passRatio tests' = passRatio tests := by
  have hwhole : wholeWeight tests' = wholeWeight tests := (hperm.map _).sum_eq.symm
  have hpassed : passedWeight tests' = passedWeight tests :=
    ((hperm.filter _).map _).sum_eq.symm
  rw [passRatio_eq_div, passRatio_eq_div, hwhole, hpassed]

lemma passRatio_of_passed (h : ∀ t ∈ tests, t.1 = true) : passRatio tests = 1 := by
  have hall : passedWeight tests = wholeWeight tests := by
    rw [passedWeight, List.filter_eq_self.2 h]
    rfl
  rw [passRatio_eq_div, hall]
  split_ifs with hpos
  · exact div_self hpos.ne'
  · rfl

lemma passRatio_of_weightless (h : ∀ t ∈ tests, t.2 = 0) : passRatio tests = 1 := by
  have hzero : wholeWeight tests = 0 := by
    apply List.sum_eq_zero
    intro w hw
    obtain ⟨t, ht, rfl⟩ := List.mem_map.1 hw
    exact h t ht
  rw [passRatio_eq_div, hzero, if_neg (lt_irrefl 0)]

lemma passRatio_of_failed (hfailed : ∀ t ∈ tests, t.1 = false) (h : ∀ t ∈ tests, 0 ≤ t.2)
    (hsome : ∃ t ∈ tests, 0 < t.2) : passRatio tests = 0 := by
  have hnone : passedWeight tests = 0 := by
    rw [passedWeight, List.filter_eq_nil_iff.2 fun t ht => by simp [hfailed t ht]]
    rfl
  have hpos : 0 < wholeWeight tests := by
    obtain ⟨t, ht, hlt⟩ := hsome
    apply hlt.trans_le
    refine List.single_le_sum ?_ _ (List.mem_map_of_mem ht)
    intro w hw
    obtain ⟨t, ht, rfl⟩ := List.mem_map.1 hw
    exact h t ht
  rw [passRatio_eq_div, if_pos hpos, hnone, zero_div]

/-! ## From the share to the score -/

lemma atLeast_eq_max (bound x : ℚ) : Arithmetic.atLeast bound x = max bound x := by
  unfold Arithmetic.atLeast
  show (if decide (bound < x) = true then x else bound) = _
  simp only [decide_eq_true_eq]
  split_ifs with h
  · exact (max_eq_right h.le).symm
  · exact (max_eq_left (not_lt.1 h)).symm

lemma atMost_eq_min (bound x : ℚ) : Arithmetic.atMost bound x = min bound x := by
  unfold Arithmetic.atMost
  show (if decide (x < bound) = true then x else bound) = _
  simp only [decide_eq_true_eq]
  split_ifs with h
  · exact (min_eq_right h.le).symm
  · exact (min_eq_left (not_lt.1 h)).symm

/-- The score is what is left behind mistakes, missing elements and forbidden patterns, less the
failed share of the points for tests, kept between 0 and 100 and rounded with halves upwards. -/
lemma score_eq_floor (tests : List (Bool × ℚ)) (ms : List Mistake) (missing violations : ℕ) :
    score tests ms missing violations =
      ⌊max 0 (min 100 ((withoutTests ms missing violations : ℚ)
        - (1 - passRatio tests) * testShare)) + 1 / 2⌋₊ := by
  have hleft : ((full : ℕ) : ℚ) - (((1 : ℕ) : ℚ) - passRatio tests) * ((testShare : ℕ) : ℚ)
      - ((penalty ms : ℕ) : ℚ) - ((missing * faultCost : ℕ) : ℚ)
      - ((violations * faultCost : ℕ) : ℚ)
      = (withoutTests ms missing violations : ℚ) - (1 - passRatio tests) * testShare := by
    unfold withoutTests
    push_cast
    ring
  unfold score points
  rw [atLeast_eq_max, atMost_eq_min]
  show ⌊max ((0 : ℕ) : ℚ) (min ((full : ℕ) : ℚ) (((full : ℕ) : ℚ)
      - (((1 : ℕ) : ℚ) - passRatio tests) * ((testShare : ℕ) : ℚ) - ((penalty ms : ℕ) : ℚ)
      - ((missing * faultCost : ℕ) : ℚ) - ((violations * faultCost : ℕ) : ℚ))) + 1 / 2⌋₊ = _
  rw [hleft, Nat.cast_zero, show ((full : ℕ) : ℚ) = 100 by norm_num [full]]

/-- A larger share that is passed never lowers the score. -/
lemma score_le_of_passRatio_le (h : passRatio tests ≤ passRatio tests') (ms : List Mistake)
    (missing violations : ℕ) :
    score tests ms missing violations ≤ score tests' ms missing violations := by
  rw [score_eq_floor, score_eq_floor]
  apply Nat.floor_mono
  gcongr

lemma withoutTests_le (ms : List Mistake) (missing violations : ℕ) :
    withoutTests ms missing violations ≤ 100 := by
  unfold withoutTests full faultCost
  omega

/-- Where the tests cost a whole number of points, nothing is rounded. -/
lemma score_of_cost {cost : ℕ} (h : (1 - passRatio tests) * testShare = cost) (ms : List Mistake)
    (missing violations : ℕ) :
    (score tests ms missing violations : ℤ) = max 0 (withoutTests ms missing violations - cost) := by
  have hle := withoutTests_le ms missing violations
  have hleft : max 0 (min 100 ((withoutTests ms missing violations : ℚ) - cost))
      = ((max 0 (withoutTests ms missing violations - cost) : ℤ) : ℚ) := by
    rw [min_eq_right]
    · push_cast
      rfl
    · have : (withoutTests ms missing violations : ℚ) ≤ 100 := by exact_mod_cast hle
      have hcost : (0 : ℚ) ≤ cost := Nat.cast_nonneg cost
      linarith
  rw [score_eq_floor, h, hleft]
  obtain ⟨n, hn⟩ := Int.eq_ofNat_of_zero_le
    (le_max_left 0 (withoutTests ms missing violations - cost))
  rw [hn]
  norm_cast
  rw [Nat.floor_eq_iff (by positivity)]
  constructor <;> linarith

/-- In exact arithmetic passing more of the tests never lowers a score, and their order does not
matter.  They take nothing from it if all are passed or all weights are zero, and all the points for
tests if there is weight and none is passed. -/
theorem score_of_tests (h : ∀ t ∈ tests, 0 ≤ t.2) (ms : List Mistake) (missing violations : ℕ) :
    (∀ tests', PassesMore tests tests' →
      score tests ms missing violations ≤ score tests' ms missing violations) ∧
    (∀ tests', tests.Perm tests' →
      score tests' ms missing violations = score tests ms missing violations) ∧
    ((∀ t ∈ tests, t.1 = true) ∨ (∀ t ∈ tests, t.2 = 0) →
      (score tests ms missing violations : ℤ) = max 0 (withoutTests ms missing violations)) ∧
    ((∀ t ∈ tests, t.1 = false) → (∃ t ∈ tests, 0 < t.2) →
      (score tests ms missing violations : ℤ) =
        max 0 (withoutTests ms missing violations - testShare)) := by
  refine ⟨?_, ?_, ?_, ?_⟩
  · intro tests' hmore
    exact score_le_of_passRatio_le (hmore.passRatio_le h) ms missing violations
  · intro tests' hperm
    rw [score_eq_floor, score_eq_floor, passRatio_perm hperm]
  · intro hfree
    have hratio : passRatio tests = 1 := by
      rcases hfree with hpassed | hzero
      · exact passRatio_of_passed hpassed
      · exact passRatio_of_weightless hzero
    have hcost : (1 - passRatio tests) * testShare = (0 : ℕ) := by simp [hratio]
    have hscore := score_of_cost hcost ms missing violations
    simpa using hscore
  · intro hfailed hsome
    have hratio := passRatio_of_failed hfailed h hsome
    exact score_of_cost (by rw [hratio, sub_zero, one_mul]) ms missing violations

/-- Of two tests, one of which is failed, the other one is passed as well, and they are turned
around. -/
theorem score_of_tests_two :
    (∀ t ∈ [(false, (1 / 4 : ℚ)), (true, 3 / 4)], 0 ≤ t.2) ∧
      PassesMore [(false, 1 / 4), (true, 3 / 4)] [(true, 1 / 4), (true, 3 / 4)] ∧
      score [(false, (1 / 4 : ℚ)), (true, 3 / 4)] [] 1 0 ≤
        score [(true, (1 / 4 : ℚ)), (true, 3 / 4)] [] 1 0 ∧
      score [(true, (3 / 4 : ℚ)), (false, 1 / 4)] [] 1 0 =
        score [(false, (1 / 4 : ℚ)), (true, 3 / 4)] [] 1 0 ∧
      (score [(true, (1 / 4 : ℚ)), (true, 3 / 4)] [] 1 0 : ℤ) = 90 ∧
      (score [(false, (1 / 4 : ℚ)), (false, 3 / 4)] [] 1 0 : ℤ) = 50 := by
  have h : ∀ t ∈ [(false, (1 / 4 : ℚ)), (true, 3 / 4)], 0 ≤ t.2 := by norm_num
  have hmore : PassesMore [(false, 1 / 4), (true, 3 / 4)] [(true, 1 / 4), (true, 3 / 4)] :=
    .cons ⟨rfl, nofun⟩ (.cons ⟨rfl, id⟩ .nil)
  obtain ⟨more, perm, -, -⟩ := score_of_tests h [] 1 0
  have hpassed : ∀ t ∈ [(true, (1 / 4 : ℚ)), (true, 3 / 4)], 0 ≤ t.2 := by norm_num
  obtain ⟨-, -, passed, -⟩ := score_of_tests hpassed [] 1 0
  have hfailed : ∀ t ∈ [(false, (1 / 4 : ℚ)), (false, 3 / 4)], 0 ≤ t.2 := by norm_num
  obtain ⟨-, -, -, failed⟩ := score_of_tests hfailed [] 1 0
  exact ⟨h, hmore, more _ hmore, perm _ (.swap _ _ _), passed (.inl (by decide)),
    failed (by decide) ⟨_, List.mem_cons_self, by norm_num⟩⟩

end QueryTutor.Score
