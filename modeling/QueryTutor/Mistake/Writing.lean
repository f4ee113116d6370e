import QueryTutor.Mistake.Basic
import QueryTutor.Value

/-!
# Writing mistakes

Mistakes as they are told to others, under the names by which they are read.
-/

namespace QueryTutor.Mistake

/-- A mistake with all its fields. -/
def write (d : Mistake) : Value :=
  .object
    [("id", .string d.id),
      ("name", .string d.name),
      ("detectionPatterns", .strings d.patterns),
      ("issue", .string d.issue),
      ("correction", .string d.correction),
      ("realWorldImpact", .string d.impact),
      ("prevention", .string d.prevention),
      ("example", .object [("wrong", .string d.wrong), ("right", .string d.right)]),
      ("severity", .string d.severity.name),
      ("category", .string d.category.name),
      ("heuristic", .bool d.heuristic)]

end QueryTutor.Mistake
