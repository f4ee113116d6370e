import QueryTutor.Mistake.Catalog
import QueryTutor.Reading.Basic

/-!
# Reading mistakes

Mistakes as they arrive from outside.
-/

namespace QueryTutor.Mistake

open Reading

/-- The refusal of patterns: there must be some, and all must be readable. -/
def refusePatterns (sources : List String) : Option Refusal :=
  if sources.isEmpty then
    some (refusal "A mistake definition needs at least one detection pattern")
  else
    (Catalog.firstBadPattern? sources).map fun (source, cause) =>
      let told := cause.message source.toList
      match cause with
      | .malformed _ _ =>
        let shown := String.ofList (Text.quoted source.toList)
        refusal ("Invalid detection pattern " ++ shown ++ ": " ++ told)
      | .exclusiveFlags => refusal told
      | .countTooLarge => .stopped cause

/-- The wrong and the right way to write a query. -/
def readExample : Value → Reading (String × String) :=
  object fun fields =>
    Prod.mk <$> required fields (key "wrong") string <*> required fields (key "right") string

/-- A mistake. -/
def read : Value → Reading Mistake :=
  object fun fields =>
    let text := fun k => required fields k string
    (fun id name patterns issue correction impact prevention (wrong, right) severity category
        heuristic =>
      { id, name, patterns, issue, correction, impact, prevention, wrong, right, severity, category,
        heuristic : Mistake })
      <$> text (key "id")
      <*> text (key "name")
      <*> required fields ⟨"detectionPatterns", "detection_patterns"⟩
        (fun v => (listOr .notTuple string v).check refusePatterns)
      <*> text (key "issue")
      <*> text (key "correction")
      <*> text ⟨"realWorldImpact", "real_world_impact"⟩
      <*> text (key "prevention")
      <*> required fields (key "example") readExample
      <*> required fields (key "severity") (oneOf Severity.all Severity.name)
      <*> required fields (key "category") (oneOf Category.all Category.name)
      <*> withDefault fields (key "heuristic") false bool

end QueryTutor.Mistake
