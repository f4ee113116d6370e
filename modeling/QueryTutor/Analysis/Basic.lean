import QueryTutor.Analysis.Column
import QueryTutor.Analysis.Table

/-!
# Analysis

What a query consists of: the clauses that are present, its tables and columns, and how involved it
is.
-/

namespace QueryTutor

open Text

/-- How involved a query is. -/
inductive Complexity where
  | simple
  | moderate
  | complex
  deriving DecidableEq, Repr, Inhabited

/-- What a query consists of. -/
structure Analysis where
  hasSelect : Bool := false
  hasFrom : Bool := false
  hasWhere : Bool := false
  hasJoin : Bool := false
  hasGroupBy : Bool := false
  hasOrderBy : Bool := false
  hasLimit : Bool := false
  hasAggregate : Bool := false
  tables : List String := []
  columns : List String := []
  complexity : Complexity := .simple
  deriving DecidableEq, Repr

namespace Analysis

/-- The functions that summarise a group of rows. -/
def aggregates : List String :=
  ["count", "sum", "avg", "max", "min"]

/-- What stands behind the opening parenthesis of an aggregate call that begins here. -/
def aggregateAt? (before : Option Char) (t : List Char) : Option (List Char) :=
  if Phrase.continuesWord before then none
  else aggregates.findSome? fun f =>
    (Phrase.strip? f.toList t).bind fun rest =>
      match rest.dropWhile isBlank with
      | '(' :: r => some r
      | _ => none

/-- The text calls an aggregate somewhere. -/
def callsAggregate (t : List Char) : Bool :=
  (Phrase.findFrom aggregateAt? none t).isSome

/-- How many places of the text, which stands behind the character `before`, a phrase begins at. -/
def countFrom (phrase : List Char) (before : Option Char) : List Char → Nat
  | [] => 0
  | c :: r =>
    (if (Phrase.wholeAt? phrase before (c :: r)).isSome then 1 else 0) + countFrom phrase (some c) r

/-- Points for a feature that is present. -/
def pointsFor (points : Nat) (present : Bool) : Nat :=
  if present then points else 0

/-- How involved a query with these features is. -/
def estimate (join groupBy aggregate nested : Bool) (tableCount : Int) : Complexity :=
  let points := pointsFor 2 join + pointsFor 1 groupBy + pointsFor 1 aggregate + pointsFor 2 nested
    + pointsFor 1 (tableCount > 2)
  if 4 ≤ points then .complex else if 2 ≤ points then .moderate else .simple

/-- What the text of a query consists of. -/
def ofText (q : List Char) : Analysis :=
  let has := fun phrase : String => Phrase.occurs phrase.toList q
  let names := tableNames q
  let hasJoin := has "join"
  let hasGroupBy := has "group by"
  let hasAggregate := callsAggregate q
  let nested := countFrom "select".toList none q > 1
  { hasSelect := has "select"
    hasFrom := has "from"
    hasWhere := has "where"
    hasJoin
    hasGroupBy
    hasOrderBy := has "order by"
    hasLimit := has "limit"
    hasAggregate
    tables := names.map String.ofList
    columns := (columnNames q).map String.ofList
    complexity := estimate hasJoin hasGroupBy hasAggregate nested names.length }

end Analysis

end QueryTutor
