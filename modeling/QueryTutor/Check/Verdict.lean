/-!
# Verdicts

The outcome of a check that lists what it found wrong.
-/

namespace QueryTutor

/-- Whether a check is passed, and what stands against it. -/
structure Verdict where
  passed : Bool
  faults : List String
  deriving DecidableEq, Repr

/-- The verdict on a list of faults: passed if there are none. -/
def Verdict.ofFaults (faults : List String) : Verdict :=
  ⟨faults.isEmpty, faults⟩

end QueryTutor
