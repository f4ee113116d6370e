/-!
# Exercises

What a learner is asked for, with a model solution and the checks that a query has to pass.
-/

namespace QueryTutor

/-- A column of a table that an exercise works on. -/
structure Exercise.Column where
  name : String
  type : String
  nullable : Option Bool
  deriving DecidableEq, Repr

/-- A table that an exercise works on. -/
structure Exercise.Table where
  name : String
  columns : List Exercise.Column
  deriving DecidableEq, Repr

/-- A check of a query with a weight of its own. -/
structure Exercise.TestCase where
  name : String
  shouldContain : Option (List String)
  shouldNotContain : Option (List String)
  expectedColumns : Option (List String)
  weight : Option Float
  deriving Repr

/-- An exercise.  Heuristic mistakes are looked for if the exercise enables them by name. -/
structure Exercise where
  title : String := ""
  description : String := ""
  starterCode : String := ""
  solution : String
  hints : List String := []
  language : String := "sql"
  testCases : Option (List Exercise.TestCase) := none
  tables : Option (List Exercise.Table) := none
  requiredClauses : Option (List String) := none
  forbiddenPatterns : Option (List String) := none
  expectedTables : Option (List String) := none
  expectedColumns : Option (List String) := none
  enabledChecks : Option (List String) := none
  deriving Repr

end QueryTutor
