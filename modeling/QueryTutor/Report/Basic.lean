import QueryTutor.Check.SolutionMatch
import QueryTutor.Feedback.ExecutionStep
import QueryTutor.Feedback.Hint
import QueryTutor.Feedback.Issue
import QueryTutor.Feedback.NextStep

/-!
# Reports

Everything a learner is told about a query.
-/

namespace QueryTutor

/-- What a learner is told about a query. -/
structure Report where
  isValid : Bool
  score : Nat
  issue : Option Feedback.Issue
  mistakes : List Mistake := []
  hints : List String
  nextSteps : List String
  executionSteps : List Feedback.ExecutionStep := []
  tests : List Check.TestResult := []
  wellFormed : Bool
  analysis : Analysis := {}
  required : Option Verdict := none
  forbidden : Option Verdict := none
  deriving Repr

namespace Report

/-- The mistake that is explained. -/
def mainMistake? (r : Report) : Option Mistake :=
  r.mistakes.head?

/-- What it means that a query cannot run. -/
def rejectionImpact : String :=
  "Syntax errors prevent your query from running at all. The database will reject it immediately."

/-- The report on a query that is turned away. -/
def rejection (message : String) (impact : String) : Report where
  isValid := false
  score := 0
  issue := some ⟨message, impact⟩
  hints := Feedback.rejectionHints message
  nextSteps := Feedback.rejectionSteps
  wellFormed := false

/-- The report on a query that could not be looked into. -/
def internalError : Report :=
  rejection "The query could not be analyzed. Try simplifying it and run it again."
    "This error will cause your query to fail or return unexpected results."

end Report

end QueryTutor
