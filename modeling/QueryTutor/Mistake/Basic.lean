/-!
# Mistakes

Known mistakes in queries: how they are recognised, how bad they are, and what a learner is told
about them.
-/

namespace QueryTutor

/-- How bad a mistake is. -/
inductive Severity where
  | low
  | medium
  | high
  | critical
  deriving DecidableEq, Repr

namespace Severity

/-- All severities. -/
def all : List Severity :=
  [low, medium, high, critical]

/-- The name of a severity. -/
def name : Severity → String
  | low => "low"
  | medium => "medium"
  | high => "high"
  | critical => "critical"

/-- The severity of a name. -/
def ofName? (s : String) : Option Severity :=
  all.find? (·.name == s)

end Severity

/-- What a mistake is about. -/
inductive Category where
  | performance
  | security
  | correctness
  | style
  | dataIntegrity
  deriving DecidableEq, Repr

namespace Category

/-- All categories. -/
def all : List Category :=
  [performance, security, correctness, style, dataIntegrity]

/-- The name of a category. -/
def name : Category → String
  | performance => "performance"
  | security => "security"
  | correctness => "correctness"
  | style => "style"
  | dataIntegrity => "data-integrity"

/-- The category of a name. -/
def ofName? (s : String) : Option Category :=
  all.find? (·.name == s)

end Category

/-- A known mistake.  A heuristic one is often wrong and is only looked for on request. -/
structure Mistake where
  id : String
  name : String
  patterns : List String
  issue : String
  correction : String
  impact : String
  prevention : String
  wrong : String
  right : String
  severity : Severity
  category : Category
  heuristic : Bool := false
  deriving DecidableEq, Repr

end QueryTutor
