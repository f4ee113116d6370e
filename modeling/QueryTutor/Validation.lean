import QueryTutor.Check.Forbidden
import QueryTutor.Options
import QueryTutor.Query.Precheck
import QueryTutor.Report.Basic
import QueryTutor.Score

/-!
# Validation

From a raw query and an exercise to a report: pre-check, analysis, detection of mistakes, checks,
score and feedback.
-/

namespace QueryTutor

/-- What can go wrong inside a validation. -/
inductive Fault where
  | pattern (e : Pattern.Error)
  | incomparable
  deriving DecidableEq, Repr

namespace Validation

/-- The longest query that is accepted, if there is a limit. -/
def limitOf : Setting → Except Fault (Option Quantity)
  | .quantity q => .ok (some q)
  | .absent => .ok none
  | .unusable => .error .incomparable

/-- The score from which a query passes. -/
def markOf : Setting → Except Fault Quantity
  | .quantity q => .ok q
  | _ => .error .incomparable

/-- A step that can meet an unreadable pattern. -/
def searching {α : Type} (x : Except Pattern.Error α) : Except Fault α :=
  x.mapError .pattern

/-- The report on a query that passed the pre-check and has the canonical form `q`. -/
def grade (c : Catalog) (o : Options) (raw q : List Char) (e : Exercise) : Except Fault Report := do
  let analysis := Analysis.ofText q
  let mistakes ← searching (c.detect raw o.heuristics (e.enabledChecks.getD []))
  let tests := Check.tests e analysis q
  let required := Check.required e analysis q
  let forbidden ← searching (Check.forbidden e raw)
  let score := Score.score (tests.map fun t => (t.passed, t.weight)) mistakes required.faults.length
    forbidden.faults.length
  let mark ← markOf o.mark
  return {
    isValid := Score.passes (.whole score) mistakes mark
    score
    issue := Feedback.issue? mistakes required forbidden (.whole score) mark
    mistakes
    hints := Feedback.hints e analysis mistakes
    nextSteps := Feedback.nextSteps e analysis mistakes (.whole score) mark
    executionSteps := Feedback.executionSteps raw analysis
    tests
    wellFormed := true
    analysis
    required := some required
    forbidden := some forbidden }

/-- The report on a raw query, or what went wrong. -/
def run (c : Catalog) (o : Options) (raw : List Char) (e : Exercise) : Except Fault Report := do
  let limit ← limitOf o.limit
  match Query.checkLength limit raw with
  | some r => return .rejection r.message Report.rejectionImpact
  | none =>
    let q := Query.prepared raw
    match Query.precheck limit q with
    | some r => return .rejection r.message Report.rejectionImpact
    | none => grade c o raw q e

end Validation

/-- The report on a raw query. -/
def validate (c : Catalog) (o : Options) (raw : String) (e : Exercise) : Report :=
  match Validation.run c o raw.toList e with
  | .ok r => r
  | .error _ => .internalError

end QueryTutor
