import QueryTutor.Exercise.Basic
import QueryTutor.Mistake.Catalog
import QueryTutor.Reading.Basic
import QueryTutor.Text.Blank

/-!
# Reading exercises

Exercises as they arrive from outside.
-/

namespace QueryTutor.Exercise

open Reading

/-- A list of texts that may be absent. -/
def texts (fields : List (String × Value)) (k : Key) : Reading (Option (List String)) :=
  optionally fields k (list string)

/-- A column of a table. -/
def readColumn : Value → Reading Column :=
  object fun fields =>
    Column.mk <$> required fields (key "name") string
      <*> required fields (key "type") string
      <*> optionally fields (key "nullable") bool

/-- A table. -/
def readTable : Value → Reading Table :=
  object fun fields =>
    Table.mk <$> required fields (key "name") string
      <*> withDefault fields (key "columns") [] (list readColumn)

/-- The tables that an exercise works on. -/
def readTables : Value → Reading (List Table) :=
  object fun fields => withDefault fields (key "tables") [] (list readTable)

/-- A test case. -/
def readTestCase : Value → Reading TestCase :=
  object fun fields =>
    TestCase.mk <$> required fields (key "name") string
      <*> texts fields ⟨"shouldContain", "should_contain"⟩
      <*> texts fields ⟨"shouldNotContain", "should_not_contain"⟩
      <*> texts fields ⟨"expectedColumns", "expected_columns"⟩
      <*> optionally fields (key "weight") real

/-- The refusal of a model solution: it must have text. -/
def refuseSolution (s : String) : Option Refusal :=
  if Text.isBlankText s.toList then some (refusal "Exercise solution must not be empty") else none

/-- The refusal of forbidden patterns: all must be readable. -/
def refusePatterns (sources : Option (List String)) : Option Refusal :=
  (Catalog.firstBadPattern? (sources.getD [])).map fun (source, cause) =>
    let told := cause.message source.toList
    match cause with
    | .malformed _ _ =>
      refusal
        ("Forbidden pattern " ++ String.ofList (Text.quoted source.toList) ++ " does not compile: "
          ++ told)
    | .exclusiveFlags => refusal told
    | .countTooLarge => .stopped cause

/-- An exercise. -/
def read : Value → Reading Exercise :=
  object fun fields =>
    let text := fun k (default : String) => withDefault fields k default string
    Exercise.mk <$> text (key "title") ""
      <*> text (key "description") ""
      <*> text ⟨"starterCode", "starter_code"⟩ ""
      <*> required fields (key "solution") (fun v => (string v).check refuseSolution)
      <*> withDefault fields (key "hints") [] (list string)
      <*> text (key "language") "sql"
      <*> optionally fields ⟨"testCases", "test_cases"⟩ (list readTestCase)
      <*> optionally fields ⟨"schema", "table_schema"⟩ readTables
      <*> texts fields ⟨"requiredClauses", "required_clauses"⟩
      <*> withDefault fields ⟨"forbiddenPatterns", "forbidden_patterns"⟩ none
        (fun v => (nullable (list string) v).check refusePatterns)
      <*> texts fields ⟨"expectedTables", "expected_tables"⟩
      <*> texts fields ⟨"expectedColumns", "expected_columns"⟩
      <*> texts fields ⟨"enabledChecks", "enabled_checks"⟩

end QueryTutor.Exercise
