import QueryTutor.Analysis.Basic
import QueryTutor.Query.Comment

/-!
# Execution steps

The clauses of a query in the order in which a database works on them.
-/

namespace QueryTutor.Feedback

/-- What a database does with one clause. -/
inductive Operation where
  | source
  | join
  | filter
  | group
  | select
  | sort
  | limit
  deriving DecidableEq, Repr

namespace Operation

/-- The operations in the order in which they are done. -/
def all : List Operation :=
  [source, join, filter, group, select, sort, limit]

/-- The keywords of the clause that an operation works on. -/
def name : Operation → String
  | source => "FROM"
  | join => "JOIN"
  | filter => "WHERE"
  | group => "GROUP BY"
  | select => "SELECT"
  | sort => "ORDER BY"
  | limit => "LIMIT"

/-- The query has the clause that an operation works on. -/
def isPresent (a : Analysis) : Operation → Bool
  | source => a.hasFrom
  | join => a.hasJoin
  | filter => a.hasWhere
  | group => a.hasGroupBy
  | select => a.hasSelect
  | sort => a.hasOrderBy
  | limit => a.hasLimit

/-- Names with commas between them, or other words if there is nothing to show. -/
def listed (names : List String) (otherwise : String) : String :=
  let shown := ", ".intercalate names
  if shown.isEmpty then otherwise else shown

/-- What the learner is told about an operation. -/
def description (a : Analysis) : Operation → String
  | source => "Load data from table(s): " ++ listed a.tables "specified table"
  | join => "Combine rows from multiple tables based on join conditions"
  | filter => "Filter rows based on conditions"
  | group => "Group rows for aggregation"
  | select => "Select columns: " ++ listed a.columns "*"
  | sort => "Sort the results"
  | limit => "Limit the number of returned rows"

end Operation

/-- One numbered step and the clause it works on. -/
structure ExecutionStep where
  number : Nat
  operation : Operation
  description : String
  clause : String
  deriving DecidableEq, Repr

/-- The steps for operations, the first of which has the number `n`. -/
def stepsFrom (a : Analysis) (shown : List Char) (n : Nat) : List Operation → List ExecutionStep
  | [] => []
  | o :: os =>
    ⟨n, o, o.description a, String.ofList (Analysis.extractClause o.name.toList shown)⟩
      :: stepsFrom a shown (n + 1) os

/-- The steps of a raw query with this analysis. -/
def executionSteps (raw : List Char) (a : Analysis) : List ExecutionStep :=
  stepsFrom a (Query.collapsed raw) 1 (Operation.all.filter (·.isPresent a))

end QueryTutor.Feedback
