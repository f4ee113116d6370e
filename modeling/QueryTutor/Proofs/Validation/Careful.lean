import QueryTutor.Proofs.Careful.Stage
import QueryTutor.Proofs.Catalog.Standard
import QueryTutor.Proofs.Exercise.Encoding

/-!
# Validations that end

A validation in which every operation may fail that is not defined everywhere comes to the same as a
validation.  With a catalog that has been made and an exercise that has been read, none of them
fails, so that no learner is told of an internal error.
-/

namespace QueryTutor.Careful

/-- The failure that a fault comes to. -/
def Failure.ofFault : Fault → Failure
  | .pattern e => .pattern e
  | .incomparable => .incomparable

/-- The report on a query that passed the pre-check and has the canonical form `q`. -/
def grade (c : Catalog) (o : Options) (raw q : List Char) (e : Exercise) :
    Except Failure Report := do
  let analysis := Analysis.ofText q
  let mistakes ← (c.detect raw o.heuristics (e.enabledChecks.getD [])).mapError .pattern
  let tests ← tests e analysis q
  let required := Check.required e analysis q
  let forbidden ← (Check.forbidden e raw).mapError .pattern
  let score ← score (tests.map fun t => (t.passed, t.weight)) mistakes required.faults.length
    forbidden.faults.length
  let mark ← (Validation.markOf o.mark).mapError .ofFault
  let issue ← issue? mistakes required forbidden (.whole score) mark
  let hints ← hints e analysis mistakes
  let nextSteps ← nextSteps e analysis mistakes (.whole score) mark
  let executionSteps ← executionSteps raw analysis
  return {
    isValid := Score.passes (.whole score) mistakes mark
    score
    issue
    mistakes
    hints
    nextSteps
    executionSteps
    tests
    wellFormed := true
    analysis
    required := some required
    forbidden := some forbidden }

/-- The report on a raw query, or what failed. -/
def run (c : Catalog) (o : Options) (raw : List Char) (e : Exercise) : Except Failure Report := do
  let limit ← (Validation.limitOf o.limit).mapError .ofFault
  match Query.checkLength limit raw with
  | some r => return .rejection r.message Report.rejectionImpact
  | none =>
    let q := Query.prepared raw
    match Query.precheck limit q with
    | some r => return .rejection r.message Report.rejectionImpact
    | none => grade c o raw q e

lemma grade_eq (c : Catalog) (o : Options) (raw q : List Char) (e : Exercise) :
    grade c o raw q e = (Validation.grade c o raw q e).mapError .ofFault := by
  simp only [grade, Validation.grade, tests_eq, score_eq, issue?_eq, hints_eq, nextSteps_eq,
    executionSteps_eq, Validation.searching, bind, Except.bind]
  cases c.detect raw o.heuristics (e.enabledChecks.getD []) with
  | error x => rfl
  | ok ms =>
    cases Check.forbidden e raw with
    | error x => rfl
    | ok verdict =>
      cases Validation.markOf o.mark with
      | error x => rfl
      | ok mark => rfl

/-- No operation fails but the search for patterns and the comparison with limit and mark. -/
lemma run_eq (c : Catalog) (o : Options) (raw : List Char) (e : Exercise) :
    run c o raw e = (Validation.run c o raw e).mapError .ofFault := by
  simp only [run, Validation.run, bind, Except.bind]
  cases Validation.limitOf o.limit with
  | error x => rfl
  | ok limit =>
    simp only [Except.mapError]
    cases Query.checkLength limit raw with
    | some r => rfl
    | none =>
      cases Query.precheck limit (Query.prepared raw) with
      | some r => rfl
      | none => exact grade_eq c o raw _ e

section Completion

variable {ds : List Mistake} {c : Catalog} {o : Options} {e : Exercise}

/-- The options set a mark, and a limit or none, that numbers can be compared with. -/
structure Comparable (o : Options) : Prop where
  mark : ∃ mark, o.mark = .quantity mark
  limit : o.limit ≠ .unusable

lemma grade_ends (hc : Catalog.ofList? ds = .ok c)
    (he : Exercise.refusePatterns e.forbiddenPatterns = none) (ho : Comparable o)
    (raw q : List Char) :
    ∃ r, Validation.grade c o raw q e = .ok r ∧ r.wellFormed = true := by
  obtain ⟨mark, hmark⟩ := ho.mark
  obtain ⟨ms, hms⟩ := Detection.exists_of_isOk
    (Detection.isOk_detect hc raw o.heuristics (e.enabledChecks.getD []))
  obtain ⟨fs, hfs⟩ := Detection.exists_of_isOk
    ((Detection.isOk_metAmong raw).2 (Option.map_eq_none_iff.1 he))
  simp only [Validation.grade, hms, Validation.searching, Check.forbidden, hfs, hmark, bind,
    Except.bind, Except.mapError, Except.map]
  exact ⟨_, rfl, rfl⟩

lemma rejection_ne_internalError (message : String) :
    Report.rejection message Report.rejectionImpact ≠ .internalError := by
  intro h
  have himpact : Report.rejectionImpact
      = "This error will cause your query to fail or return unexpected results." :=
    Option.some.inj (congrArg (fun r => r.issue.map (·.impact)) h)
  exact absurd himpact (by decide)

lemma ne_internalError_of_wellFormed {r : Report} (h : r.wellFormed = true) :
    r ≠ .internalError := by
  rintro rfl
  cases h

lemma run_ends (hc : Catalog.ofList? ds = .ok c)
    (he : Exercise.refusePatterns e.forbiddenPatterns = none) (ho : Comparable o)
    (raw : List Char) : ∃ r, Validation.run c o raw e = .ok r ∧ r ≠ .internalError := by
  obtain ⟨limit, hlimit⟩ : ∃ limit, Validation.limitOf o.limit = .ok limit := by
    cases h : o.limit with
    | quantity q => exact ⟨some q, rfl⟩
    | absent => exact ⟨none, rfl⟩
    | unusable => exact absurd h ho.limit
  simp only [Validation.run, hlimit, bind, Except.bind]
  cases Query.checkLength limit raw with
  | some r => exact ⟨_, rfl, rejection_ne_internalError _⟩
  | none =>
    cases Query.precheck limit (Query.prepared raw) with
    | some r => exact ⟨_, rfl, rejection_ne_internalError _⟩
    | none =>
      obtain ⟨r, hr, hgraded⟩ := grade_ends hc he ho raw (Query.prepared raw)
      exact ⟨r, hr, ne_internalError_of_wellFormed hgraded⟩

/-- With every catalog that mistakes make and every exercise that is read, no operation fails on any
query: a validation ends with a report, which is not that of an internal error. -/
theorem run_completes {v : Value} (hc : Catalog.ofList? ds = .ok c) (he : Exercise.read v = .ok e)
    (ho : Comparable o) (raw : String) :
    ∃ r, run c o raw.toList e = .ok r ∧ validate c o raw e = r ∧ r ≠ .internalError := by
  obtain ⟨r, hr, hne⟩ := run_ends hc (Exercise.admissible_of_read he).patterns ho raw.toList
  refine ⟨r, ?_, ?_, hne⟩
  · rw [run_eq, hr]
    rfl
  · rw [validate, hr]

end Completion

/-- A deletion of everything is graded by the standard catalog, for an exercise that has been read. -/
theorem run_completes_deletion :
    Catalog.ofList? Catalog.standard.mistakes = .ok .standard ∧
      Exercise.read Exercise.Sample.selectColumns.write = .ok Exercise.Sample.selectColumns ∧
        Comparable {} ∧
          ∃ r, run .standard {} "DELETE FROM users".toList Exercise.Sample.selectColumns = .ok r ∧
            validate .standard {} "DELETE FROM users" Exercise.Sample.selectColumns = r ∧
              r ≠ .internalError := by
  have hread : Exercise.read Exercise.Sample.selectColumns.write
      = .ok Exercise.Sample.selectColumns := by
    rw [← Exercise.writeAs_outerNames]
    exact Exercise.read_writeAs _ ⟨by decide +kernel, by decide +kernel⟩
  have hoptions : Comparable {} := ⟨⟨_, rfl⟩, nofun⟩
  exact ⟨Catalog.ofList?_standard, hread, hoptions,
    run_completes Catalog.ofList?_standard hread hoptions _⟩

end QueryTutor.Careful
