import QueryTutor.Quantity
import QueryTutor.Score
import QueryTutor.Value

/-!
# Options

How queries are validated, as it is set from outside.
-/

namespace QueryTutor

/-- A limit or mark: a number, nothing, or something that cannot be compared. -/
inductive Setting where
  | quantity (q : Quantity)
  | absent
  | unusable

/-- The setting that a value stands for. -/
def Setting.ofValue : Value → Setting
  | .null => .absent
  | .bool b => .quantity (.whole (if b then 1 else 0))
  | .whole n => .quantity (.whole n)
  | .real x => .quantity (.real x)
  | _ => .unusable

/-- How queries are validated. -/
structure Options where
  heuristics : Bool := false
  mark : Setting := .quantity (.whole Score.standardMark)
  limit : Setting := .quantity (.whole 10000)

/-- The options, with those that the fields give in place of the former ones. -/
def Options.override (o : Options) (fields : List (String × Value)) : Options :=
  let setting := fun (name : String) (former : Setting) =>
    ((Value.field? fields name).map Setting.ofValue).getD former
  { heuristics := ((Value.field? fields "heuristicChecks").map Value.counts).getD o.heuristics
    mark := setting "passingScore" o.mark
    limit := setting "maxQueryLength" o.limit }

end QueryTutor
