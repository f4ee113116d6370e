import QueryTutor.Proofs.Detection
import QueryTutor.Validation

/-!
# Rules

Options whose mark and limit are whole numbers, and the two ways in which a validation by such
rules can end: the query is turned away, or it is graded.
-/

namespace QueryTutor.Validation

/-- What queries are held to: heuristic mistakes count, the mark to reach, and the limit of length
if there is one. -/
structure Rules where
  heuristics : Bool
  mark : Int
  limit : Option Int
  deriving DecidableEq, Repr

/-- The limit of length as a quantity. -/
def Rules.longest (rules : Rules) : Option Quantity :=
  rules.limit.map .whole

/-- The options that set the rules. -/
def Rules.options (rules : Rules) : Options where
  heuristics := rules.heuristics
  mark := .quantity (.whole rules.mark)
  limit := (rules.limit.map fun n => .quantity (.whole n)).getD .absent

/-- The rule that a raw query breaks before it is graded. -/
def rejection? (rules : Rules) (raw : List Char) : Option Query.Rejection :=
  (Query.checkLength rules.longest raw).or (Query.precheck rules.longest (Query.prepared raw))

/-- What is found in a query before it is graded. -/
structure Findings where
  mistakes : List Mistake
  forbidden : List String

/-- The mistakes of a catalog and the forbidden patterns of an exercise that are found in a raw
query. -/
def findings (c : Catalog) (rules : Rules) (raw : List Char) (e : Exercise) :
    Except Pattern.Error Findings := do
  let mistakes ← c.detect raw rules.heuristics (e.enabledChecks.getD [])
  let forbidden ← Check.metAmong raw (e.forbiddenPatterns.getD [])
  return ⟨mistakes, forbidden⟩

/-- What is found is what detection finds and the forbidden patterns that are met. -/
lemma findings_eq_ok {c : Catalog} {rules : Rules} {raw : List Char} {e : Exercise} {f : Findings}
    (h : findings c rules raw e = .ok f) :
    c.detect raw rules.heuristics (e.enabledChecks.getD []) = .ok f.mistakes ∧
      Check.metAmong raw (e.forbiddenPatterns.getD []) = .ok f.forbidden := by
  rw [findings] at h
  cases hd : c.detect raw rules.heuristics (e.enabledChecks.getD []) with
  | error x => simp [hd, bind, Except.bind] at h
  | ok ms =>
    cases hm : Check.metAmong raw (e.forbiddenPatterns.getD []) with
    | error x => simp [hd, hm, bind, Except.bind] at h
    | ok fs =>
      simp only [hd, hm, bind, Except.bind, pure, Except.pure, Except.ok.injEq] at h
      rw [← h]
      exact ⟨rfl, rfl⟩

/-- The elements that an exercise requires and a raw query lacks. -/
def missing (raw : List Char) (e : Exercise) : List String :=
  let q := Query.prepared raw
  (Check.required e (Analysis.ofText q) q).faults

/-- The score of a raw query with these findings. -/
def scoreOf (raw : List Char) (e : Exercise) (f : Findings) : Nat :=
  let q := Query.prepared raw
  Score.score ((Check.tests e (Analysis.ofText q) q).map fun t => (t.passed, t.weight)) f.mistakes
    (missing raw e).length f.forbidden.length

/-- The report on a raw query with these findings. -/
def reportOf (rules : Rules) (raw : List Char) (e : Exercise) (f : Findings) : Report :=
  let q := Query.prepared raw
  let analysis := Analysis.ofText q
  let required := Check.required e analysis q
  let forbidden := Verdict.ofFaults f.forbidden
  let score := Quantity.whole (scoreOf raw e f)
  let mark := Quantity.whole rules.mark
  { isValid := Score.passes score f.mistakes mark
    score := scoreOf raw e f
    issue := Feedback.issue? f.mistakes required forbidden score mark
    mistakes := f.mistakes
    hints := Feedback.hints e analysis f.mistakes
    nextSteps := Feedback.nextSteps e analysis f.mistakes score mark
    executionSteps := Feedback.executionSteps raw analysis
    tests := Check.tests e analysis q
    wellFormed := true
    analysis
    required := some required
    forbidden := some forbidden }

/-- A score passes if it reaches the mark and no mistake is critical. -/
lemma passes_iff (score : Nat) (ms : List Mistake) (mark : Int) :
    Score.passes (.whole score) ms (.whole mark) = true ↔
      mark ≤ score ∧ ∀ d ∈ ms, d.severity ≠ .critical := by
  simp [Score.passes, Score.hasCritical, Quantity.le]

/-- A validation by rules turns a query away, fails on an unreadable pattern, or grades it. -/
lemma validate_eq (c : Catalog) (rules : Rules) (raw : String) (e : Exercise) :
    validate c rules.options raw e =
      match rejection? rules raw.toList with
      | some r => .rejection r.message Report.rejectionImpact
      | none =>
        match findings c rules raw.toList e with
        | .error _ => .internalError
        | .ok f => reportOf rules raw.toList e f := by
  have hlimit : limitOf rules.options.limit = .ok rules.longest := by
    obtain ⟨-, -, limit⟩ := rules
    cases limit <;> rfl
  simp only [validate, run, hlimit, rejection?, bind, Except.bind]
  cases Query.checkLength rules.longest raw.toList with
  | some r => rfl
  | none =>
    rw [Option.none_or]
    cases Query.precheck rules.longest (Query.prepared raw.toList) with
    | some r => rfl
    | none =>
      simp only [grade, findings, searching, Check.forbidden, bind, Except.bind]
      have hsame : rules.options.heuristics = rules.heuristics := rfl
      rw [hsame]
      cases c.detect raw.toList rules.heuristics (e.enabledChecks.getD []) with
      | error x => rfl
      | ok ms =>
        cases Check.metAmong raw.toList (e.forbiddenPatterns.getD []) with
        | error x => rfl
        | ok fs => rfl

end QueryTutor.Validation
