import QueryTutor.Analysis.Writing
import QueryTutor.Report.Basic

/-!
# Writing reports

Everything a learner is told about a query, as it is told to others.
-/

namespace QueryTutor

/-- A step of the execution of a query. -/
def Feedback.ExecutionStep.write (s : Feedback.ExecutionStep) : Value :=
  .object
    [("step", .whole s.number),
      ("operation", .string s.operation.name),
      ("description", .string s.description),
      ("clause", .string s.clause)]

/-- The outcome of a test. -/
def Check.TestResult.write (t : Check.TestResult) : Value :=
  .object
    [("name", .string t.name),
      ("passed", .bool t.passed),
      ("message", .string t.message),
      ("weight", .real t.weight)]

/-- A verdict, with its faults under the given name. -/
def Verdict.write (faults : String) (v : Verdict) : Value :=
  .object [("passed", .bool v.passed), (faults, .strings v.faults)]

/-- The verdict on required elements. -/
def Verdict.writeRequired : Verdict → Value :=
  Verdict.write "missing"

/-- The verdict on forbidden patterns. -/
def Verdict.writeForbidden : Verdict → Value :=
  Verdict.write "violations"

/-- A report with all its parts, where each mistake is told as `mistake` says. -/
def Report.write (mistake : Mistake → Value) (r : Report) : Value :=
  .object
    [("isValid", .bool r.isValid),
      ("score", .whole r.score),
      ("issue", .ofOption (fun i => .string i.issue) r.issue),
      ("realWorldImpact", .ofOption (fun i => .string i.impact) r.issue),
      ("commonMistakeDetected", .ofOption mistake r.mainMistake?),
      ("detectedMistakes", .list (r.mistakes.map mistake)),
      ("hints", .strings r.hints),
      ("nextSteps", .strings r.nextSteps),
      ("executionSteps", .list (r.executionSteps.map Feedback.ExecutionStep.write)),
      ("testResults", .list (r.tests.map Check.TestResult.write)),
      ("syntaxValid", .bool r.wellFormed),
      ("structureAnalysis", r.analysis.write),
      ("requiredCheck", .ofOption Verdict.writeRequired r.required),
      ("forbiddenCheck", .ofOption Verdict.writeForbidden r.forbidden)]

end QueryTutor
