import QueryTutor.Check.TestCase
import QueryTutor.Query.Comment

/-!
# Solution match

Comparing a query with the model solution by the features that both have: keywords, tables and
columns.
-/

namespace QueryTutor.Check

open Text

/-- The keywords that count as features. -/
def featureKeywords : List String :=
  ["SELECT", "FROM", "WHERE", "JOIN", "LEFT", "RIGHT", "INNER", "OUTER", "GROUP BY", "ORDER BY",
    "HAVING", "INSERT", "UPDATE", "DELETE", "CREATE", "TABLE", "INDEX", "DROP", "ALTER", "AND", "OR",
    "NOT", "IN", "BETWEEN", "LIKE", "IS NULL", "IS NOT NULL", "COUNT", "SUM", "AVG", "MAX", "MIN",
    "DISTINCT", "AS", "ON", "LIMIT", "OFFSET"]

/-- The features of a canonical text; of two that differ in letter case only, the first counts. -/
def features (q : List Char) : List (List Char) :=
  let keywords := (featureKeywords.map String.toList).filter fun k => Phrase.occurs k q
  firstSeenBy lower (keywords ++ Analysis.tableNames q ++ Analysis.columnNames q)

/-- How many of the features of the solution are among those of the query, letter case apart. -/
def sharedFeatures (solution query : List (List Char)) : Nat :=
  (solution.filter fun f => (query.map lower).contains (lower f)).length

/-- The share of the features of the solution that the query has. -/
def matchRatio {R : Type} [Arithmetic R] (solution query : List (List Char)) : R :=
  if solution.isEmpty then Arithmetic.ofNat 0
  else Arithmetic.quotient (sharedFeatures solution query) solution.length

/-- The query has enough of the features of the solution. -/
def matchesSolution {R : Type} [Arithmetic R] (threshold : R) (solution query : List (List Char)) :
    Bool :=
  Arithmetic.le threshold (matchRatio solution query)

/-- The share of features that has to match unless another one is asked for. -/
def standardThreshold : Float := 0.7

/-- The outcome of comparing a canonical query with the model solution. -/
def runSolutionMatch (threshold : Float) (e : Exercise) (q : List Char) : TestResult :=
  let solution := features (Query.prepared e.solution.toList)
  let query := features q
  if matchesSolution threshold solution query then
    ⟨"Solution Match", true, "Query structure matches expected solution", 1.0⟩
  else
    let ratio : Float := matchRatio solution query
    let percent := Arithmetic.round (Arithmetic.mul ratio (Arithmetic.ofNat 100))
    ⟨"Solution Match", false, "Query matches " ++ toString percent ++ "% of expected elements", 1.0⟩

/-- How a query is tested: by the test cases of the exercise, or against its solution if it has
none. -/
inductive Strategy where
  | testCases (ts : List Exercise.TestCase)
  | solutionMatch

/-- The name of a strategy. -/
def Strategy.name : Strategy → String
  | testCases _ => "test-cases"
  | solutionMatch => "solution-match"

/-- The strategy that an exercise asks for. -/
def Strategy.ofExercise (e : Exercise) : Strategy :=
  match e.testCases with
  | some (t :: ts) => testCases (t :: ts)
  | _ => solutionMatch

/-- The outcomes of the tests of an exercise for a canonical query with its analysis. -/
def tests (e : Exercise) (a : Analysis) (q : List Char) : List TestResult :=
  match Strategy.ofExercise e with
  | .testCases ts => runTestCases ts a q
  | .solutionMatch => [runSolutionMatch standardThreshold e q]

end QueryTutor.Check
