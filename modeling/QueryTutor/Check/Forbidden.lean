import QueryTutor.Check.Verdict
import QueryTutor.Exercise.Basic
import QueryTutor.Mistake.Catalog

/-!
# Forbidden patterns

The patterns that an exercise forbids.  They are looked for in the raw query, as those of mistakes
are.
-/

namespace QueryTutor.Check

/-- Those of the patterns that are met in a raw query. -/
def metAmong (q : List Char) : List String → Except Pattern.Error (List String)
  | [] => .ok []
  | source :: sources => do
    let met ← Pattern.occursIn source detectionMode q
    let rest ← metAmong q sources
    return if met then source :: rest else rest

/-- The forbidden patterns of an exercise that a raw query meets. -/
def forbidden (e : Exercise) (q : List Char) : Except Pattern.Error Verdict :=
  (metAmong q (e.forbiddenPatterns.getD [])).map .ofFaults

end QueryTutor.Check
