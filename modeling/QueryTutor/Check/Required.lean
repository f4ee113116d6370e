import QueryTutor.Analysis.Basic
import QueryTutor.Check.Verdict
import QueryTutor.Exercise.Basic
import QueryTutor.Query.Canonical

/-!
# Required elements

The clauses, tables and columns that an exercise asks for.
-/

namespace QueryTutor.Check

open Text

/-- A canonical text has the canonical form of a snippet in it. -/
def containsSnippet (snippet : String) (q : List Char) : Bool :=
  holds (· == ·) (Query.canonical snippet.toList) q

/-- One of the names is the given one, letter case apart. -/
def hasName (names : List String) (name : String) : Bool :=
  (names.map fun n => lower n.toList).contains (lower name.toList)

/-- What an exercise requires and a query, given in canonical form with its analysis, lacks. -/
def required (e : Exercise) (a : Analysis) (q : List Char) : Verdict :=
  .ofFaults
    ((e.requiredClauses.getD []).filter (fun c => !containsSnippet c q)
      ++ ((e.expectedTables.getD []).filter fun t => !hasName a.tables t).map ("table: " ++ ·)
      ++ ((e.expectedColumns.getD []).filter fun c => !hasName a.columns c).map ("column: " ++ ·))

end QueryTutor.Check
