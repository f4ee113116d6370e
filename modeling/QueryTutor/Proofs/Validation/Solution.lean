import QueryTutor.Proofs.Check.SolutionMatch
import QueryTutor.Proofs.Text.Spacing
import QueryTutor.Proofs.Validation.Rules

/-!
# The model solution

A learner who hands in the model solution, in whatever layout, has all points.
-/

namespace QueryTutor.Validation
open Text

/-- Nothing is held against a raw query but what the tests may find: it passes the pre-check, no
mistake and no forbidden pattern is found in it, and no required element is missing. -/
structure IsFlawless (c : Catalog) (rules : Rules) (raw : List Char) (e : Exercise) : Prop where
  accepted : rejection? rules raw = none
  unmistaken : c.detect raw rules.heuristics (e.enabledChecks.getD []) = .ok []
  unforbidden : Check.metAmong raw (e.forbiddenPatterns.getD []) = .ok []
  complete : missing raw e = []

/-- What passes the pre-check opens a statement. -/
lemma opensStatement_of_accepted {rules : Rules} {raw : List Char}
    (h : rejection? rules raw = none) : Query.opensStatement (Query.prepared raw) = true := by
  have htrim : trim (Query.prepared raw) = Query.prepared raw := trim_trim _
  rw [rejection?, Option.or_eq_none_iff] at h
  have hcheck := h.2
  unfold Query.precheck at hcheck
  rw [htrim] at hcheck
  by_contra hnot
  have hopens : (!Query.opensStatement (Query.prepared raw)) = true := by simpa using hnot
  dsimp only at hcheck
  -- each rule before the one on statements turns the query away, and then this one does
  rw [if_pos hopens] at hcheck
  split at hcheck
  · cases hcheck
  · split at hcheck
    · cases hcheck
    · split at hcheck
      · cases hcheck
      · split at hcheck <;> cases hcheck

/-- The report on a query with nothing against it. -/
lemma validate_of_isFlawless {c : Catalog} {rules : Rules} {raw : String} {e : Exercise}
    (h : IsFlawless c rules raw.toList e) :
    validate c rules.options raw e = reportOf rules raw.toList e ⟨[], []⟩ := by
  have hfindings : findings c rules raw.toList e = .ok ⟨[], []⟩ := by
    simp [findings, h.unmistaken, h.unforbidden, bind, Except.bind, pure, Except.pure]
  rw [validate_eq, h.accepted, hfindings]

/-- An exercise without test cases is tested by comparing features. -/
lemma ofExercise_eq_solutionMatch {e : Exercise} (h : e.testCases.getD [] = []) :
    Check.Strategy.ofExercise e = .solutionMatch := by
  unfold Check.Strategy.ofExercise
  split
  case h_1 heq =>
    rw [heq] at h
    cases h
  case h_2 => rfl

/-- The test is passed by a query with the features of the solution if it has any, and by no query
else. -/
lemma tests_of_same {e : Exercise} (a : Analysis) {q : List Char} (htests : e.testCases.getD [] = [])
    (hsame : q = Query.prepared e.solution.toList) :
    (Check.tests e a q).map (fun t => (t.passed, t.weight))
      = [(!(Check.features q).isEmpty, 1.0)] := by
  simp only [Check.tests, ofExercise_eq_solutionMatch htests, Check.runSolutionMatch, ← hsame,
    List.map_cons, List.map_nil]
  cases hfeatures : Check.features q with
  | nil =>
    have hno : Check.matchesSolution Check.standardThreshold [] [] = false := by decide
    rw [hno]
    rfl
  | cons f fs =>
    rw [Check.matchesSolution_self (List.cons_ne_nil f fs)]
    rfl

/-- The score of a query that comes to the same text as the solution, with nothing against it. -/
lemma scoreOf_of_same {raw : List Char} {e : Exercise} (htests : e.testCases.getD [] = [])
    (hsame : Query.prepared raw = Query.prepared e.solution.toList) (hcomplete : missing raw e = []) :
    scoreOf raw e ⟨[], []⟩ = if Check.features (Query.prepared raw) = [] then 60 else 100 := by
  have hlow : Score.score [(false, (1.0 : Float))] [] 0 0 = 60 := by decide +kernel
  have hfull : Score.score [(true, (1.0 : Float))] [] 0 0 = 100 := by decide +kernel
  rw [scoreOf, tests_of_same _ htests hsame, hcomplete]
  split_ifs with h
  · rw [h]
    exact hlow
  · rw [List.isEmpty_eq_false_iff.2 h]
    exact hfull

/-- A query with nothing against it passes by its score. -/
lemma isValid_iff_of_flawless (rules : Rules) (raw : List Char) (e : Exercise) :
    (reportOf rules raw e ⟨[], []⟩).isValid = true ↔ rules.mark ≤ scoreOf raw e ⟨[], []⟩ := by
  refine (passes_iff _ _ _).trans (and_iff_left ?_)
  nofun

/-- A query with nothing against it raises an issue by its score only. -/
lemma issue_eq_none_iff (rules : Rules) {raw : List Char} {e : Exercise} (h : missing raw e = []) :
    (reportOf rules raw e ⟨[], []⟩).issue = none ↔ rules.mark ≤ scoreOf raw e ⟨[], []⟩ := by
  rw [missing] at h
  simp only [reportOf, Feedback.issue?, Verdict.ofFaults, h]
  have hlt : Quantity.lt (.whole (scoreOf raw e ⟨[], []⟩)) (.whole rules.mark) = true ↔
      (scoreOf raw e ⟨[], []⟩ : Int) < rules.mark :=
    decide_eq_true_iff
  rw [← not_lt]
  split_ifs with hlow
  · exact iff_of_false not_false (not_not.2 (hlt.1 hlow))
  · exact iff_of_true rfl fun h => hlow (hlt.2 h)

/-- A query that comes to the same text as the solution, and against which nothing is held, has all
points, passes and raises no issue.  A statement that opens with `with` has to have a feature. -/
theorem validate_solution {c : Catalog} {rules : Rules} {raw : String} {e : Exercise}
    (htests : e.testCases.getD [] = [])
    (hsame : Query.prepared raw.toList = Query.prepared e.solution.toList)
    (hflawless : IsFlawless c rules raw.toList e) (hmark : rules.mark ≤ 100)
    (hfeatures : Query.opensWith "with" (Query.prepared e.solution.toList) = true →
      Check.features (Query.prepared e.solution.toList) ≠ []) :
    (validate c rules.options raw e).score = 100 ∧
      (validate c rules.options raw e).isValid = true ∧
      (validate c rules.options raw e).issue = none := by
  have hne : Check.features (Query.prepared raw.toList) ≠ [] := by
    cases hwith : Query.opensWith "with" (Query.prepared raw.toList) with
    | true =>
      rw [hsame] at hwith ⊢
      exact hfeatures hwith
    | false => exact Check.features_ne_nil (opensStatement_of_accepted hflawless.accepted) hwith
  have hscore : scoreOf raw.toList e ⟨[], []⟩ = 100 := by
    rw [scoreOf_of_same htests hsame hflawless.complete, if_neg hne]
  have hpass : rules.mark ≤ scoreOf raw.toList e ⟨[], []⟩ := by
    rw [hscore]
    exact_mod_cast hmark
  rw [validate_of_isFlawless hflawless]
  exact ⟨hscore, (isValid_iff_of_flawless _ _ _).2 hpass,
    (issue_eq_none_iff _ hflawless.complete).2 hpass⟩

/-- The model solution itself, written in small letters, has all points. -/
theorem validate_solution_orders :
    Query.prepared "select name from orders;".toList
        = Query.prepared "SELECT name FROM orders".toList ∧
      IsFlawless ⟨Catalog.standard.mistakes.take 2⟩ ⟨false, 70, some 10000⟩
        "select name from orders;".toList { solution := "SELECT name FROM orders" } ∧
      Query.opensWith "with" (Query.prepared "SELECT name FROM orders".toList) = false ∧
      (validate ⟨Catalog.standard.mistakes.take 2⟩ (Rules.mk false 70 (some 10000)).options
        "select name from orders;" { solution := "SELECT name FROM orders" }).score = 100 := by
  have hraw : Query.prepared "select name from orders;".toList
      = "select name from orders".toList := by
    decide +kernel
  have hsolution : Query.prepared "SELECT name FROM orders".toList
      = "select name from orders".toList := by
    decide +kernel
  have hflawless : IsFlawless ⟨Catalog.standard.mistakes.take 2⟩ ⟨false, 70, some 10000⟩
      "select name from orders;".toList { solution := "SELECT name FROM orders" } := by
    refine ⟨?_, by decide +kernel, rfl, rfl⟩
    rw [rejection?, hraw]
    decide +kernel
  have hwith : Query.opensWith "with" (Query.prepared "SELECT name FROM orders".toList) = false := by
    rw [hsolution]
    decide +kernel
  have hfull := @validate_solution _ _ _ { solution := "SELECT name FROM orders" } rfl
    (hraw.trans hsolution.symm) hflawless (by decide)
    fun h => absurd (hwith.symm.trans h) Bool.false_ne_true
  exact ⟨hraw.trans hsolution.symm, hflawless, hwith, hfull.1⟩

/-- A statement that opens with `with` and has no feature does not match itself. -/
theorem validate_featureless :
    IsFlawless ⟨Catalog.standard.mistakes.take 2⟩ ⟨false, 70, some 10000⟩ "WITH totals".toList
        { solution := "WITH totals" } ∧
      (validate ⟨Catalog.standard.mistakes.take 2⟩ (Rules.mk false 70 (some 10000)).options
        "WITH totals" { solution := "WITH totals" }).score = 60 ∧
      (validate ⟨Catalog.standard.mistakes.take 2⟩ (Rules.mk false 70 (some 10000)).options
        "WITH totals" { solution := "WITH totals" }).isValid ≠ true ∧
      (validate ⟨Catalog.standard.mistakes.take 2⟩ (Rules.mk false 70 (some 10000)).options
        "WITH totals" { solution := "WITH totals" }).issue ≠ none := by
  have hprepared : Query.prepared "WITH totals".toList = "with totals".toList := by decide +kernel
  have hflawless : IsFlawless ⟨Catalog.standard.mistakes.take 2⟩ ⟨false, 70, some 10000⟩
      "WITH totals".toList { solution := "WITH totals" } := by
    refine ⟨?_, by decide +kernel, rfl, rfl⟩
    rw [rejection?, hprepared]
    decide +kernel
  have hscore : scoreOf "WITH totals".toList { solution := "WITH totals" } ⟨[], []⟩
      = if Check.features (Query.prepared "WITH totals".toList) = [] then 60 else 100 :=
    scoreOf_of_same rfl rfl rfl
  rw [hprepared, if_pos (by decide +kernel)] at hscore
  rw [validate_of_isFlawless hflawless]
  refine ⟨hflawless, hscore, fun h => ?_, fun h => ?_⟩
  · have hpass := (isValid_iff_of_flawless _ _ _).1 h
    rw [hscore] at hpass
    exact absurd hpass (by decide)
  · have hpass := (issue_eq_none_iff _ hflawless.complete).1 h
    rw [hscore] at hpass
    exact absurd hpass (by decide)

end QueryTutor.Validation
