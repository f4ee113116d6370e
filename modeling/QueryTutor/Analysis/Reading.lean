import QueryTutor.Analysis.Basic
import QueryTutor.Reading.Basic

/-!
# Reading analyses

What a query consists of, as it is told from outside.
-/

namespace QueryTutor

open Reading

namespace Complexity

/-- All degrees. -/
def all : List Complexity :=
  [simple, moderate, complex]

/-- The name of a degree. -/
def name : Complexity → String
  | simple => "simple"
  | moderate => "moderate"
  | complex => "complex"

end Complexity

/-- An analysis, all parts of which may be left out. -/
def Analysis.read : Value → Reading Analysis :=
  object fun fields =>
    let flag := fun k => withDefault fields k false bool
    Analysis.mk <$> flag ⟨"hasSelect", "has_select"⟩
      <*> flag ⟨"hasFrom", "has_from"⟩
      <*> flag ⟨"hasWhere", "has_where"⟩
      <*> flag ⟨"hasJoin", "has_join"⟩
      <*> flag ⟨"hasGroupBy", "has_group_by"⟩
      <*> flag ⟨"hasOrderBy", "has_order_by"⟩
      <*> flag ⟨"hasLimit", "has_limit"⟩
      <*> flag ⟨"hasAggregate", "has_aggregate"⟩
      <*> withDefault fields (key "tables") [] (list string)
      <*> withDefault fields (key "columns") [] (list string)
      <*> withDefault fields ⟨"estimatedComplexity", "estimated_complexity"⟩ .simple
        (oneOf Complexity.all Complexity.name)

end QueryTutor
