import QueryTutor.Analysis.Reading

/-!
# Writing analyses

What a query consists of, as it is told to others.
-/

namespace QueryTutor.Analysis

/-- An analysis with all its parts. -/
def write (a : Analysis) : Value :=
  .object
    [("hasSelect", .bool a.hasSelect),
      ("hasFrom", .bool a.hasFrom),
      ("hasWhere", .bool a.hasWhere),
      ("hasJoin", .bool a.hasJoin),
      ("hasGroupBy", .bool a.hasGroupBy),
      ("hasOrderBy", .bool a.hasOrderBy),
      ("hasLimit", .bool a.hasLimit),
      ("hasAggregate", .bool a.hasAggregate),
      ("tables", .strings a.tables),
      ("columns", .strings a.columns),
      ("estimatedComplexity", .string a.complexity.name)]

end QueryTutor.Analysis
