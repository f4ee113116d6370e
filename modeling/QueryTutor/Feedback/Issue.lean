import QueryTutor.Check.Verdict
import QueryTutor.Mistake.Basic
import QueryTutor.Quantity

/-!
# The issue

The one thing a learner is told about first, and why it matters.
-/

namespace QueryTutor.Feedback

/-- What is wrong with a query, and what it leads to. -/
structure Issue where
  issue : String
  impact : String
  deriving DecidableEq, Repr

/-- The issue of a query: its first mistake, else the first missing element, else the first
forbidden pattern, else that its score is below the mark. -/
def issue? (ms : List Mistake) (required forbidden : Verdict) (score mark : Quantity) :
    Option Issue :=
  match ms, required.faults, forbidden.faults with
  | d :: _, _, _ => some ⟨d.issue, d.impact⟩
  | [], element :: _, _ =>
    some ⟨"Missing required element: " ++ element,
      "Incomplete queries may not return the expected results or may fail entirely in production."⟩
  | [], [], pattern :: _ =>
    some ⟨"Forbidden pattern detected: " ++ pattern,
      "This pattern is discouraged for this exercise to teach best practices."⟩
  | [], [], [] =>
    if score.lt mark then
      some ⟨"Your query structure differs significantly from the expected solution.",
        "While your query might work, following the expected pattern helps build consistent SQL "
          ++ "skills."⟩
    else none

end QueryTutor.Feedback
