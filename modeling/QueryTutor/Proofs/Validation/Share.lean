import QueryTutor.Exercise.Reading
import QueryTutor.Proofs.Score.Share
import QueryTutor.Proofs.Validation.Accepted

/-!
# What tests cost a query

Whatever the test cases of an exercise weigh, they take between 0 and 40 points from what mistakes,
missing elements and forbidden patterns leave.
-/

namespace QueryTutor.Validation

/-- A raw query passes the pre-check, by a limit and a mark that numbers can be compared with. -/
structure Accepts (o : Options) (raw : List Char) : Prop where
  exists_limit : ∃ limit, limitOf o.limit = .ok limit ∧ Query.checkLength limit raw = none ∧
    Query.precheck limit (Query.prepared raw) = none
  exists_mark : ∃ mark, markOf o.mark = .ok mark

lemma accepts_of_rejection? {rules : Rules} {raw : List Char} (h : rejection? rules raw = none) :
    Accepts rules.options raw := by
  obtain ⟨hlength, hprecheck⟩ := Option.or_eq_none_iff.1 h
  refine ⟨⟨rules.longest, ?_, hlength, hprecheck⟩, ⟨_, rfl⟩⟩
  obtain ⟨-, -, limit⟩ := rules
  cases limit <;> rfl

section Accepted

variable {ds : List Mistake} {c : Catalog} {o : Options} {raw : String} {e : Exercise}

/-- A query that passes the pre-check is graded, for every exercise whose forbidden patterns are not
refused. -/
lemma graded_of_accepts (hc : Catalog.ofList? ds = .ok c)
    (he : Exercise.refusePatterns e.forbiddenPatterns = none) (h : Accepts o raw.toList) :
    (validate c o raw e).wellFormed = true ∧
      ∃ required forbidden, (validate c o raw e).required = some required ∧
        (validate c o raw e).forbidden = some forbidden ∧
        (validate c o raw e).score = Score.score
          ((Check.tests e (Analysis.ofText (Query.prepared raw.toList))
            (Query.prepared raw.toList)).map fun t => (t.passed, t.weight))
          (validate c o raw e).mistakes required.faults.length forbidden.faults.length := by
  obtain ⟨limit, hlimit, hlength, hprecheck⟩ := h.exists_limit
  obtain ⟨mark, hmark⟩ := h.exists_mark
  obtain ⟨ms, hms⟩ := Detection.exists_of_isOk
    (Detection.isOk_detect hc raw.toList o.heuristics (e.enabledChecks.getD []))
  obtain ⟨fs, hfs⟩ := Detection.exists_of_isOk
    ((Detection.isOk_metAmong raw.toList).2 (Option.map_eq_none_iff.1 he))
  simp only [validate, run, hlimit, hlength, hprecheck, grade, hms, searching, Check.forbidden, hfs,
    hmark, bind, Except.bind, Except.mapError, Except.map]
  exact ⟨rfl, _, _, rfl, rfl, rfl⟩

/-- A query that passes the pre-check gets at most the points that mistakes, missing elements and
forbidden patterns leave, and at most 40 points less, but never less than none. -/
theorem score_validate_within (hc : Catalog.ofList? ds = .ok c)
    (he : Exercise.refusePatterns e.forbiddenPatterns = none) (h : Accepts o raw.toList) :
    (validate c o raw e).wellFormed = true ∧
      ∃ required forbidden, (validate c o raw e).required = some required ∧
        (validate c o raw e).forbidden = some forbidden ∧
        max 0 (Score.withoutTests (validate c o raw e).mistakes required.faults.length
            forbidden.faults.length - 40) ≤ (validate c o raw e).score ∧
        (validate c o raw e).score ≤ max 0 (Score.withoutTests (validate c o raw e).mistakes
          required.faults.length forbidden.faults.length) := by
  obtain ⟨hgraded, required, forbidden, hrequired, hforbidden, hscore⟩ := graded_of_accepts hc he h
  refine ⟨hgraded, required, forbidden, hrequired, hforbidden, ?_⟩
  rw [hscore]
  refine Score.score_within (fun t ht => ?_) _ _ _
  obtain ⟨r, hr, rfl⟩ := List.mem_map.1 ht
  exact Check.isShare_or_not_isNumber hr

end Accepted

/-- An exercise with one test whose weight is no number. -/
def weightless : Exercise where
  solution := "SELECT 1"
  testCases := some [⟨"one", some ["2"], none, none, some (0.0 / 0.0)⟩]

/-- A selection that fails a test without a weight. -/
theorem score_selection_within :
    Catalog.ofList? Catalog.standard.mistakes = .ok Catalog.standard ∧
      Exercise.refusePatterns weightless.forbiddenPatterns = none ∧
      Accepts standardRules.options "SELECT 1".toList ∧
      (validate .standard standardRules.options "SELECT 1" weightless).wellFormed = true ∧
      ∃ required forbidden,
        (validate .standard standardRules.options "SELECT 1" weightless).required = some required ∧
        (validate .standard standardRules.options "SELECT 1" weightless).forbidden
          = some forbidden ∧
        max 0 (Score.withoutTests
            (validate .standard standardRules.options "SELECT 1" weightless).mistakes
            required.faults.length forbidden.faults.length - 40)
          ≤ (validate .standard standardRules.options "SELECT 1" weightless).score ∧
        (validate .standard standardRules.options "SELECT 1" weightless).score
          ≤ max 0 (Score.withoutTests
            (validate .standard standardRules.options "SELECT 1" weightless).mistakes
            required.faults.length forbidden.faults.length) := by
  have haccepts : Accepts standardRules.options "SELECT 1".toList :=
    accepts_of_rejection? (comesTo_selection.accepted (by decide +kernel) (by decide +kernel))
  exact ⟨Catalog.ofList?_standard, rfl, haccepts,
    score_validate_within Catalog.ofList?_standard rfl haccepts⟩

end QueryTutor.Validation
