import QueryTutor.Analysis.Basic
import QueryTutor.Exercise.Basic
import QueryTutor.Mistake.Basic
import QueryTutor.Quantity

/-!
# Next steps

Advice on how to go on, by the band that the score lies in.
-/

namespace QueryTutor.Feedback

/-- The advice for a query with this score, at most five lines. -/
def nextSteps (e : Exercise) (a : Analysis) (ms : List Mistake) (score mark : Quantity) :
    List String :=
  let about := fun (f : Mistake → String) => (ms.head?.map f).toList
  let steps :=
    if Quantity.le (.whole 90) score then
      ["Great work! Try optimizing your query further or add comments explaining your approach.",
        "Consider edge cases: what happens with NULL values or empty results?"]
        ++ about fun d => "Polish: " ++ d.prevention
    else if mark.le score then
      ["Your query works but could be improved. Review any warnings above."]
        ++ (about fun d => "Fix the " ++ d.name ++ " issue for better " ++ d.category.name ++ ".")
        ++ ["Try running EXPLAIN on your query to understand its execution plan."]
    else if Quantity.le (.whole 50) score then
      ["You're on the right track. Focus on the hints provided.",
        "Review the lesson content about SQL query structure."]
        ++ (if a.hasSelect then [] else ["Make sure your query starts with SELECT."])
        ++ (if a.hasFrom then [] else ["Add a FROM clause to specify which table to query."])
        ++ about fun d => "Fix the " ++ d.name ++ " issue first."
    else
      ["Start with the basic structure: SELECT columns FROM table",
        if e.description.isEmpty then "Read through the exercise description again carefully."
        else "Read the exercise again carefully: " ++ e.description,
        "Use the starter code as a foundation and modify it step by step.",
        "Check the first hint for guidance on what approach to take."]
  steps.take 5

/-- The advice for a query that was turned away. -/
def rejectionSteps : List String :=
  ["Fix the syntax error first.", "Try a simpler version of your query.",
    "Use the starter code as a reference."]

end QueryTutor.Feedback
