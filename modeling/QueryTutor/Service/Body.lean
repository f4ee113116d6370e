import QueryTutor.Exercise.Writing
import QueryTutor.Mistake.Writing
import QueryTutor.Reading.Problem
import QueryTutor.Report.Writing

/-!
# Bodies

What the service sends back.
-/

namespace QueryTutor.Service

/-- What is sent back. -/
inductive Body where
  | health (version : String)
  | report (r : Report)
  | mistakes (ms : List Mistake)
  | mistake (d : Mistake)
  | samples (es : List (String × Exercise))
  | sample (slug : String) (e : Exercise)
  | detail (text : String)
  | problems (ps : List Problem)

/-- A body as it is told to others; in a report each mistake is told as `mistake` says. -/
def Body.write (mistake : Mistake → Value) : Body → Value
  | health version =>
    .object
      [("status", .string "healthy"),
        ("service", .string "SQLCoach API"),
        ("version", .string version)]
  | report r => r.write mistake
  | mistakes ms => .list (ms.map Mistake.write)
  | .mistake d => d.write
  | samples es => .list (es.map fun (slug, e) => e.writeSummary slug)
  | sample slug e => e.writeSummary slug
  | detail text => .object [("detail", .string text)]
  | problems ps => .strings (ps.map Problem.message)

end QueryTutor.Service
