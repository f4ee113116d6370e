import QueryTutor.Query.Outline.Join
import QueryTutor.Query.Outline.Pair
import QueryTutor.Query.Outline.Phrase
import QueryTutor.Query.Statement

/-!
# Outlines of statements

From the tokens of a statement to its outline.  Comments that follow each other are gathered first,
then groups are made from brackets outwards to whole clauses.
-/

namespace QueryTutor.Query.Node

/-- The nodes of tokens, where `run` holds the comments and line breaks read just before, last
first.  A run of comments with the line breaks behind each of them is one group, but the comments at
the very end stand for themselves. -/
def gatherAfter (run : List Node) : List Token → List Node
  | [] => run.reverse
  | t :: ts =>
    if t.isRemark || (t.kind == .lineBreak && !run.isEmpty) then gatherAfter (.leaf t :: run) ts
    else if run.isEmpty then .leaf t :: gatherAfter [] ts
    else .group .remark run.reverse :: .leaf t :: gatherAfter [] ts

/-- The nodes of a statement with its comments gathered. -/
def gather (s : Statement) : List Node :=
  gatherAfter [] s

/-- Brackets, parentheses and blocks as groups. -/
def pairAll (ns : List Node) : List Node :=
  wordPairs.foldl (fun ns pair => pairUp pair ns) (pairUp parenthesisPair (pairUp bracketPair ns))

/-- Calls, conditions and names as groups. -/
def nameAll (ns : List Node) : List Node :=
  let ns := everywhere (· == .window) (fun _ => groupWindows) ns
  let ns := everywhere (· == .call) (fun _ => groupCalls) ns
  let ns := everywhere (· == .condition) groupConditions ns
  let ns := elementJoin.everywhere (fun _ => true) (memberJoin.all ns)
  let ns := everywhere (· == .identifier) (fun _ => groupNames) ns
  everywhere (· == .identifier) (fun _ => groupOrders) ns

/-- Values in groups with all that is joined to them by signs and words. -/
def joinAll (ns : List Node) : List Node :=
  let ns := [castJoin, zoneJoin, literalJoin, unitJoin, operationJoin, equationJoin,
    aliasJoin].foldl (fun ns j => j.all ns) ns
  let ns := everywhere (fun _ => false) (fun _ => groupAliases) ns
  bindingJoin.all ns

/-- The outline of a statement whose comments have been gathered. -/
def outline (ns : List Node) : List Node :=
  everywhere (· == .remark) (fun _ => alignRemarks) (joinAll (nameAll (pairAll ns)))

end QueryTutor.Query.Node
