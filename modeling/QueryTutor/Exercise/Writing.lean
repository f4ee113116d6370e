import QueryTutor.Exercise.Basic
import QueryTutor.Value

/-!
# Writing exercises

Exercises as they are told to others, under the names by which they are read.
-/

namespace QueryTutor.Exercise

/-- A list of texts, or null. -/
def writeTexts (ss : Option (List String)) : Value :=
  .ofOption .strings ss

/-- A column of a table. -/
def Column.write (c : Column) : Value :=
  .object
    [("name", .string c.name), ("type", .string c.type), ("nullable", .ofOption .bool c.nullable)]

/-- A table. -/
def Table.write (t : Table) : Value :=
  .object [("name", .string t.name), ("columns", .list (t.columns.map Column.write))]

/-- The tables that an exercise works on. -/
def writeTables (ts : List Table) : Value :=
  .object [("tables", .list (ts.map Table.write))]

/-- A test case. -/
def TestCase.write (t : TestCase) : Value :=
  .object
    [("name", .string t.name),
      ("shouldContain", writeTexts t.shouldContain),
      ("shouldNotContain", writeTexts t.shouldNotContain),
      ("expectedColumns", writeTexts t.expectedColumns),
      ("weight", .ofOption .real t.weight)]

/-- An exercise with all its fields. -/
def write (e : Exercise) : Value :=
  .object
    [("title", .string e.title),
      ("description", .string e.description),
      ("starterCode", .string e.starterCode),
      ("solution", .string e.solution),
      ("hints", .strings e.hints),
      ("language", .string e.language),
      ("testCases", .ofOption (fun ts => .list (ts.map TestCase.write)) e.testCases),
      ("schema", .ofOption writeTables e.tables),
      ("requiredClauses", writeTexts e.requiredClauses),
      ("forbiddenPatterns", writeTexts e.forbiddenPatterns),
      ("expectedTables", writeTexts e.expectedTables),
      ("expectedColumns", writeTexts e.expectedColumns),
      ("enabledChecks", writeTexts e.enabledChecks)]

/-- What a learner is shown of the exercise of a name: not its solution. -/
def writeSummary (slug : String) (e : Exercise) : Value :=
  .object
    [("slug", .string slug),
      ("title", .string e.title),
      ("description", .string e.description),
      ("starterCode", .string e.starterCode),
      ("language", .string e.language),
      ("schema", .ofOption writeTables e.tables)]

end QueryTutor.Exercise
