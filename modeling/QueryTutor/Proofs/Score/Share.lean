import QueryTutor.Exercise.Reading
import QueryTutor.Proofs.Check.Weight
import QueryTutor.Proofs.Score.Points

/-!
# What tests cost

The share of the tests that is passed lies between zero and one, whatever they weigh, so that tests
cost between 0 and 40 points.
-/

namespace QueryTutor.Score
open Check Double

/-! ## Sums of weights -/

/-- A sum of shares, which does not grow any more once it has come to the top. -/
abbrev IsSum (x : Float) : Prop :=
  Within 0 (2 ^ 53) x

lemma fits_top : Fits (2 ^ 52) 1 :=
  ⟨by norm_num, by norm_num, by norm_num, .inl le_rfl⟩

lemma exact_top : Exact (2 ^ 53) := by
  have heq : ((2 ^ 52 : ℕ) : ℚ) * 2 ^ (1 : ℤ) = 2 ^ 53 := by norm_num
  rw [← heq]
  exact ⟨fits_top.rounded_eq, (abs_of_nonneg (by positivity)).trans_lt fits_top.lt_overflow⟩

/-- Above 53 places one more makes no difference, since the half is rounded to the even neighbour. -/
lemma rounded_above_top : rounded (2 ^ 53 + 1) = 2 ^ 53 := by
  have hlog : Int.log 2 (2 ^ 53 + 1 : ℚ) = 53 := by
    have hnat : Int.log 2 ((2 ^ 53 + 1 : ℕ) : ℚ) = 53 := by
      rw [Int.log_natCast]
      norm_num
    exact_mod_cast hnat
  have hplace : lastPlace (2 ^ 53 + 1) = 1 := by
    rw [lastPlace, abs_of_pos (by norm_num), hlog]
    rfl
  have hfloor : ⌊(2 ^ 53 + 1 : ℚ) / 2 ^ (1 : ℤ)⌋ = 2 ^ 52 := by
    rw [Int.floor_eq_iff]
    norm_num
  have heven : roundEven ((2 ^ 53 + 1 : ℚ) / 2 ^ (1 : ℤ)) = 2 ^ 52 := by
    rw [roundEven_of_eq (by rw [hfloor]; norm_num), hfloor]
    norm_num
  have hnear : nearest (2 ^ 53 + 1) = ((2 ^ 52 : ℕ) : ℚ) * 2 ^ (1 : ℤ) := by
    rw [nearest, hplace, heven]
    norm_num
  have heq := fits_top.rounded_eq
  rw [rounded, nearest_eq_self fits_top.mantissa_lt fits_top.le_exponent, ← hnear] at heq
  rw [rounded, heq, hnear]
  norm_num

lemma isSum_zero : IsSum (Float.ofNat 0) :=
  ⟨isFinite_zero, value_zero.ge, value_zero.trans_le (by norm_num)⟩

/-- A sum of shares with one more share is a sum of shares. -/
lemma IsSum.add {s w : Float} (hs : IsSum s) (hw : IsShare w) : IsSum (s + w) := by
  have hadd := rounds_add hs.isFinite hw.isFinite
  have hlower : 0 ≤ value (s + w) := by
    rw [hadd.value_eq, ← rounded_zero]
    exact rounded_mono (add_nonneg hs.lower hw.lower)
  have hupper : value (s + w) ≤ 2 ^ 53 := by
    rw [hadd.value_eq, ← rounded_above_top]
    exact rounded_mono (add_le_add hs.upper hw.upper)
  refine ⟨hadd.isNumber.isFinite ?_, hlower, hupper⟩
  rw [abs_of_nonneg hlower]
  exact hupper.trans_lt ((le_abs_self _).trans_lt exact_top.abs_lt)

/-- A share that is added to the larger of two sums, and maybe to the smaller one, keeps their order.
-/
lemma value_add_le {s s' w : Float} (hs : IsSum s) (hs' : IsSum s') (hw : IsShare w)
    (h : value s ≤ value s') :
    value s ≤ value (s' + w) ∧ value (s + w) ≤ value (s' + w) := by
  have hadd := rounds_add hs.isFinite hw.isFinite
  have hadd' := rounds_add hs'.isFinite hw.isFinite
  constructor
  · rw [hadd'.value_eq, ← hs.isFinite.rounded_eq]
    exact rounded_mono (by linarith [hw.lower])
  · rw [hadd.value_eq, hadd'.value_eq]
    exact rounded_mono (by linarith)

/-- The weight of the tests that are passed is at most that of all tests. -/
lemma foldl_add_le {tests : List (Bool × Float)} (h : ∀ t ∈ tests, IsShare t.2) {s s' : Float}
    (hs : IsSum s) (hs' : IsSum s') (hle : value s ≤ value s') :
    IsSum (((tests.filter (·.1)).map (·.2)).foldl (· + ·) s) ∧
      IsSum ((tests.map (·.2)).foldl (· + ·) s') ∧
      value (((tests.filter (·.1)).map (·.2)).foldl (· + ·) s)
        ≤ value ((tests.map (·.2)).foldl (· + ·) s') := by
  induction tests generalizing s s' with
  | nil => exact ⟨hs, hs', hle⟩
  | cons t tests ih =>
    obtain ⟨ht, htests⟩ := List.forall_mem_cons.1 h
    obtain ⟨hskip, htake⟩ := value_add_le hs hs' ht hle
    obtain ⟨passed, w⟩ := t
    cases passed with
    | false => exact ih htests hs (hs'.add ht) hskip
    | true => exact ih htests (hs.add ht) (hs'.add ht) htake

/-- A sum with something in it that is no number is none. -/
lemma not_isNumber_foldl_add {ws : List Float} {s : Float}
    (h : ¬ IsNumber s ∨ ∃ w ∈ ws, ¬ IsNumber w) : ¬ IsNumber (ws.foldl (· + ·) s) := by
  induction ws generalizing s with
  | nil => exact h.resolve_right fun ⟨w, hw, _⟩ => nomatch hw
  | cons w ws ih =>
    apply ih
    obtain h | ⟨x, hx, h⟩ := h
    · exact .inl (not_isNumber_add (.inl h))
    · obtain rfl | hx := List.mem_cons.1 hx
      · exact .inl (not_isNumber_add (.inr h))
      · exact .inr ⟨x, hx, h⟩

/-! ## The share that is passed -/

/-- One weight that is no number makes the share whole, whatever is passed. -/
theorem passRatio_of_not_isNumber {tests : List (Bool × Float)}
    (h : ∃ t ∈ tests, ¬ IsNumber t.2) : passRatio tests = Float.ofNat 1 := by
  obtain ⟨t, ht, hnot⟩ := h
  have hsum : ¬ IsNumber (total (tests.map (·.2))) :=
    not_isNumber_foldl_add (.inr ⟨t.2, List.mem_map_of_mem ht, hnot⟩)
  rw [passRatio]
  exact if_neg fun hlt => hsum (lt_iff.1 hlt).2.1

/-- An exercise as it arrives, with a test whose weight is no number and one with the full weight. -/
def unweighed : Value :=
  .object [("solution", .string "SELECT 1"),
    ("testCases", .list [
      .object [("name", .string "first"), ("shouldContain", .strings ["2"]),
        ("weight", .string "nan")],
      .object [("name", .string "second"), ("shouldContain", .strings ["3"]),
        ("weight", .whole 1)]])]

/-- The share of the tests that is passed lies between zero and one. -/
lemma isShare_passRatio {tests : List (Bool × Float)}
    (h : ∀ t ∈ tests, IsShare t.2 ∨ ¬ IsNumber t.2) : IsShare (passRatio tests) := by
  by_cases hall : ∀ t ∈ tests, IsShare t.2
  · obtain ⟨hpassed, htotal, hle⟩ := foldl_add_le hall isSum_zero isSum_zero le_rfl
    unfold passRatio
    dsimp only
    split_ifs with hpos
    · obtain ⟨-, -, hpos⟩ := lt_iff.1 hpos
      rw [show value (Arithmetic.ofNat 0) = 0 from value_zero] at hpos
      exact (rounds_div hpassed.isFinite htotal.isFinite hpos.ne').within exact_zero exact_one
        (div_nonneg hpassed.lower hpos.le) ((div_le_one hpos).2 hle)
    · exact isShare_one
  · push Not at hall
    obtain ⟨t, ht, hnot⟩ := hall
    rw [passRatio_of_not_isNumber ⟨t, ht, (h t ht).resolve_left hnot⟩]
    exact isShare_one

/-! ## Points -/

/-- What is left after the tests. -/
def afterTests (ratio : Float) : Float :=
  Float.ofNat full - (Float.ofNat 1 - ratio) * Float.ofNat testShare

/-- The tests cost between 0 and 40 points. -/
lemma within_afterTests {ratio : Float} (h : IsShare ratio) : Within 60 100 (afterTests ratio) := by
  have exact_nat : ∀ n : ℕ, n < 2 ^ 53 → Exact n := fun n hn => exact_natCast hn
  have hone : value (Float.ofNat 1) = 1 := by simpa using value_ofNat (n := 1) (by norm_num)
  have hshare : value (Float.ofNat testShare) = 40 := by
    simpa [testShare] using value_ofNat (n := testShare) (by norm_num [testShare])
  have hfailed : Within 0 1 (Float.ofNat 1 - ratio) := by
    refine (rounds_sub isShare_one.isFinite h.isFinite).within exact_zero exact_one ?_ ?_ <;>
      rw [hone] <;> linarith [h.lower, h.upper]
  have hlost : Within 0 40 ((Float.ofNat 1 - ratio) * Float.ofNat testShare) := by
    refine (rounds_mul hfailed.isFinite (isFinite_ofNat (by norm_num [testShare]))).within exact_zero
      (by exact_mod_cast exact_nat 40 (by norm_num)) ?_ ?_ <;> rw [hshare]
    · exact mul_nonneg hfailed.lower (by norm_num)
    · linarith [hfailed.upper]
  refine (rounds_sub isFinite_full hlost.isFinite).within
    (by exact_mod_cast exact_nat 60 (by norm_num)) (by exact_mod_cast exact_nat 100 (by norm_num))
    ?_ ?_ <;> rw [value_full] <;> linarith [hlost.lower, hlost.upper]

/-- A whole number of points is a score by itself. -/
lemma round_ofNat {n : ℕ} (h : n ≤ 100) : Arithmetic.round (Float.ofNat n) = n := by
  have hfin := within_ofNat (n := n) (by omega)
  have hv : value (Float.ofNat n) = n := value_ofNat (by omega)
  have hrange : InRange (Float.ofNat n) :=
    ⟨hfin.isFinite, hv ▸ Nat.cast_nonneg n, hv.trans_le (by exact_mod_cast h)⟩
  have hhalf : (n : ℚ) + 1 / 2 = ((2 * n + 1 : ℕ) : ℚ) * 2 ^ (-1 : ℤ) := by
    push_cast
    norm_num
    ring
  have hexact := exact_natCast_mul (n := 2 * n + 1) (by omega) (e := -1) (by norm_num) (by norm_num)
  have hround : rounded ((n : ℚ) + 1 / 2) = n + 1 / 2 := by
    rw [hhalf]
    exact hexact.rounded_eq
  rw [round_eq hrange, hv, hround, Nat.floor_eq_iff (by positivity)]
  constructor <;> linarith

/-- What is left of the points of a query after all deductions, clamped. -/
lemma value_clamp_sub {x : Float} (hx : Within 60 100 x) {a b c : ℕ} (ha : a ≤ 1000) (hb : b ≤ 1000)
    (hc : c ≤ 1000) :
    60 - (a + b + c : ℚ) ≤ value (clamp (x - Float.ofNat a - Float.ofNat b - Float.ofNat c)) ∧
      value (clamp (x - Float.ofNat a - Float.ofNat b - Float.ofNat c))
        ≤ max 0 (100 - (a + b + c : ℚ)) := by
  have hbounds : Within (60 : ℤ) (100 : ℤ) x := by exact_mod_cast hx
  have hsmall : ∀ k : ℤ, |k| ≤ 3000 → |k| < 2 ^ 52 := fun k hk => hk.trans_lt (by norm_num)
  have hleft := ((hbounds.sub_ofNat (n := a) (by omega) (by norm_num) (by norm_num)).sub_ofNat (n := b)
    (by omega) (hsmall _ (abs_le.2 (by omega))) (hsmall _ (abs_le.2 (by omega)))).sub_ofNat (n := c)
    (by omega) (hsmall _ (abs_le.2 (by omega))) (hsmall _ (abs_le.2 (by omega)))
  have hlower := hleft.lower
  have hupper := hleft.upper
  push_cast at hlower hupper
  rw [value_clamp hleft.isFinite.isNumber]
  constructor
  · exact le_max_of_le_right (le_min (by linarith [show (0 : ℚ) ≤ a + b + c by positivity])
      (by linarith))
  · exact max_le_max le_rfl ((min_le_right _ _).trans (by linarith))

/-- The points of a query that loses nothing by its tests, be they more than nothing or less. -/
def withoutTests (ms : List Mistake) (missing violations : ℕ) : ℤ :=
  full - penalty ms - faultCost * missing - faultCost * violations

/-- Points after deductions that leave at least `n` are rounded to `n` at least, and to `n` at most if
they leave at most that. -/
lemma round_clamp (x : Float) {n : ℕ} (hn : n ≤ 100) :
    ((n : ℚ) ≤ value (clamp x) → n ≤ Arithmetic.round (clamp x)) ∧
      (value (clamp x) ≤ n → Arithmetic.round (clamp x) ≤ n) := by
  have hv : value (Float.ofNat n) = n := value_ofNat (by omega)
  have hrange : InRange (Float.ofNat n) :=
    ⟨isFinite_ofNat (by omega), value_ofNat_nonneg n, hv.trans_le (by exact_mod_cast hn)⟩
  constructor
  · intro h
    have hround := round_mono hrange (clamp_inRange x) (hv.trans_le h)
    rwa [round_ofNat hn] at hround
  · intro h
    have hround := round_mono (clamp_inRange x) hrange (h.trans_eq hv.symm)
    rwa [round_ofNat hn] at hround

/-- The score of a query is at most what it would be without tests, and at most 40 points less. -/
lemma score_within {tests : List (Bool × Float)} (h : ∀ t ∈ tests, IsShare t.2 ∨ ¬ IsNumber t.2)
    (ms : List Mistake) (missing violations : ℕ) :
    max 0 (withoutTests ms missing violations - testShare) ≤ score tests ms missing violations ∧
      score tests ms missing violations ≤ max 0 (withoutTests ms missing violations) := by
  have hx := within_afterTests (isShare_passRatio h)
  have hscore : score tests ms missing violations = Arithmetic.round (clamp
      (afterTests (passRatio tests) - Float.ofNat (penalty ms) - Float.ofNat (missing * faultCost)
        - Float.ofNat (violations * faultCost))) := rfl
  rw [hscore]
  simp only [withoutTests, full, testShare, faultCost]
  generalize afterTests (passRatio tests) = x at hx
  generalize penalty ms = p
  constructor
  · obtain hlarge | hsmall := Nat.le_total 60 (p + missing * 10 + violations * 10)
    · omega
    · obtain ⟨hlower, -⟩ := value_clamp_sub hx (a := p) (b := missing * 10) (c := violations * 10)
        (by omega) (by omega) (by omega)
      have hround := (round_clamp _ (n := 60 - (p + missing * 10 + violations * 10)) (by omega)).1 (by
        rw [Nat.cast_sub hsmall]
        push_cast at hlower ⊢
        exact hlower)
      omega
  · -- large deductions are cut off, so that what remains is exact
    have hcut := clamp_sub_sub_sub_le (x := x) (min_le_left p 1000)
      (min_le_left (missing * 10) 1000) (min_le_left (violations * 10) 1000)
    obtain ⟨-, hupper⟩ := value_clamp_sub hx (min_le_right p 1000)
      (min_le_right (missing * 10) 1000) (min_le_right (violations * 10) 1000)
    have hround := (round_clamp _ (n := 100 - (p + missing * 10 + violations * 10)) (by omega)).2
      (hcut.trans (hupper.trans ?_))
    · omega
    · generalize hd : min p 1000 + min (missing * 10) 1000 + min (violations * 10) 1000 = d
      have hsame : 100 - (p + missing * 10 + violations * 10) = 100 - d := by omega
      rw [hsame, ← Nat.cast_add, ← Nat.cast_add, hd]
      obtain hle | hle := Nat.le_total d 100
      · rw [Nat.cast_sub hle]
        exact max_le (sub_nonneg.2 (by exact_mod_cast hle)) le_rfl
      · exact max_le (Nat.cast_nonneg _) ((sub_nonpos.2 (by exact_mod_cast hle)).trans
          (Nat.cast_nonneg _))

end QueryTutor.Score
