import QueryTutor.Arithmetic
import QueryTutor.Check.Required

/-!
# Test cases

The checks that an exercise brings along, each with a weight.
-/

namespace QueryTutor.Check

/-- The outcome of a test. -/
structure TestResult where
  name : String
  passed : Bool
  message : String
  weight : Float
  deriving Repr

/-- A weight brought into the range from zero to one. -/
def clampWeight (w : Float) : Float :=
  let low := if Float.lt w 0.0 then 0.0 else w
  if Float.lt 1.0 low then 1.0 else low

/-- What a query, given in canonical form with its analysis, fails in a test case, and how the
learner is told. -/
def testFault? (t : Exercise.TestCase) (a : Analysis) (q : List Char) : Option String :=
  let missing := ((t.shouldContain.getD []).find? fun s => !containsSnippet s q).map fun s =>
    "Missing required element: \"" ++ s ++ "\""
  let present := ((t.shouldNotContain.getD []).find? fun s => containsSnippet s q).map fun s =>
    "Should not contain: \"" ++ s ++ "\""
  let column := ((t.expectedColumns.getD []).find? fun c => !hasName a.columns c).map fun c =>
    "Missing expected column: \"" ++ c ++ "\""
  missing <|> present <|> column

/-- The outcome of one test case, which has the given weight if it names none itself. -/
def runTestCase (a : Analysis) (q : List Char) (standard : Float) (t : Exercise.TestCase) :
    TestResult :=
  let weight := match t.weight with
    | some w => clampWeight w
    | none => standard
  match testFault? t a q with
  | some fault => ⟨t.name, false, fault, weight⟩
  | none => ⟨t.name, true, "Test passed", weight⟩

/-- The outcomes of the test cases; those without a weight have an equal share. -/
def runTestCases (ts : List Exercise.TestCase) (a : Analysis) (q : List Char) : List TestResult :=
  ts.map (runTestCase a q (1.0 / Float.ofNat ts.length))

end QueryTutor.Check
