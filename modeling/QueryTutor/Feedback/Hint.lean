import QueryTutor.Analysis.Basic
import QueryTutor.Exercise.Basic
import QueryTutor.Mistake.Basic
import QueryTutor.Query.Comment
import QueryTutor.Text.Line

/-!
# Hints

Four hints, the vaguest first.  Each speaks of the first mistake if there is one, else it is the
author's hint of that level, else it is made from the model solution.
-/

namespace QueryTutor.Feedback

open Text

/-- What to look at for each category of mistakes. -/
def focus : Category → String
  | .performance => "selecting data"
  | .security => "handling input"
  | .correctness => "structuring your logic"
  | .dataIntegrity => "modifying rows"
  | .style => "writing your SQL"

/-- The longest example that is shown whole. -/
def previewLength : Nat := 50

/-- The text, cut short with dots if it is long. -/
def preview (s : String) : String :=
  let t := s.toList
  if t.length ≤ previewLength then s else String.ofList (t.take previewLength) ++ "..."

/-- The author's hint of a level, if it has text. -/
def authored? (e : Exercise) (level : Nat) : Option String :=
  e.hints[level]?.filter fun h => !isBlankText h.toList

/-- A nudge towards the first clause that the solution has and the query has not. -/
def nudge? (query solution : Analysis) : Option String :=
  if solution.hasWhere && !query.hasWhere then
    some "Consider whether you need to filter your results in some way."
  else if solution.hasJoin && !query.hasJoin then
    some "Does the answer need data from more than one table?"
  else if solution.hasGroupBy && !query.hasGroupBy then
    some "Think about whether the results should be summarized per group."
  else none

/-- The first line of the solution that has text. -/
def firstSolutionLine (e : Exercise) : String :=
  let t := e.solution.toList
  String.ofList (trim (((lines t).find? fun l => !isBlankText l).getD t))

/-- The hints about a mistake. -/
def mistakeHints (d : Mistake) : List String :=
  ["Think about " ++ d.category.name
      ++ " best practices. What might be inefficient or risky in your query?",
    "Your query has a " ++ d.category.name ++ " issue. Look at how you're " ++ focus d.category
      ++ ".",
    "Issue detected: " ++ d.name ++ ". " ++ d.correction,
    "Instead of patterns like \"" ++ preview d.wrong ++ "\", try \"" ++ preview d.right ++ "\""]

/-- The hints about an exercise, for a query of which no mistake is known. -/
def exerciseHints (e : Exercise) (a : Analysis) : List String :=
  let solution := Query.prepared e.solution.toList
  let tables := (Analysis.tableNames solution).map String.ofList
  let tableHint :=
    if tables.isEmpty then "Check that every column you need comes from the table you are querying."
    else "Make sure you're using the correct table(s): " ++ ", ".intercalate tables
  [((nudge? a (Analysis.ofText solution)).or (authored? e 0)).getD
      "Review the basic structure of your query. Is something missing or in the wrong order?",
    (authored? e 1).getD "Compare the clauses in your query with what the problem asks for.",
    (authored? e 2).getD tableHint,
    (authored? e 3).getD ("Your query should start similar to: " ++ firstSolutionLine e)]

/-- The hints for a query with this analysis and these mistakes. -/
def hints (e : Exercise) (a : Analysis) (ms : List Mistake) : List String :=
  match ms with
  | d :: _ => mistakeHints d
  | [] => exerciseHints e a

/-- The hints for a query that was turned away. -/
def rejectionHints (message : String) : List String :=
  ["Check for typos in SQL keywords.",
    "Make sure all parentheses and quotes are properly matched.",
    "Verify that your query follows standard SQL syntax.",
    "The error is: " ++ message]

end QueryTutor.Feedback
