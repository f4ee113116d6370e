import QueryTutor.Query.Outline.Basic

/-!
# Phrases

Groups that begin with a name or a keyword: windows, calls, conditions, names with their order or
alias.  Last come the comments, which join the group they stand behind.
-/

namespace QueryTutor.Query.Node

/-- A leaf that can be the name of a window or of a call. -/
def isAnyName : Node → Bool :=
  isLeafOf [.name, .typeName, .placeholder]

/-- A node in front of `rest` as a group with the first `k` nodes of it. -/
def withNext (g : Group) (n : Node) (k : Nat) (rest : List Node) : List Node :=
  .group g (n :: rest.take k) :: rest.drop k

/-- The word `OVER` in groups with the window behind it. -/
def groupWindows (ns : List Node) : List Node :=
  ns.foldr (fun n rest =>
    if n.isWordOf ["OVER"] then
      match nextSolid? rest with
      | some (m, place) =>
        if m.isGroupOf [.parentheses] || m.isAnyName then withNext .window n (place + 1) rest
        else n :: rest
      | none => n :: rest
    else n :: rest) []

/-- The nodes define a table by its columns, so that the name in front of them is not called. -/
def definesTable (ns : List Node) : Bool :=
  let has := fun word : String => ns.any fun n => n.token?.any fun t => t.capitals == word.toList
  has "CREATE" && has "TABLE" && !ns.any fun n => n.token?.any (·.text == "AS".toList)

/-- How many of the nodes behind a name belong to a call of it. -/
def callReach (behind : List Node) : Nat :=
  match nextSolid? behind with
  | some (m, place) =>
    if m.isGroupOf [.parentheses] then
      match nextSolid? (behind.drop (place + 1)) with
      | some (w, further) => if w.isGroupOf [.window] then place + further + 2 else place + 1
      | none => place + 1
    else 0
  | none => 0

/-- Names in groups with the parentheses behind them, and with the window behind those. -/
def groupCalls (ns : List Node) : List Node :=
  if definesTable ns then ns
  else
    ns.foldr (fun n rest =>
      if n.isAnyName && callReach rest > 0 then withNext .call n (callReach rest) rest
      else n :: rest) []

/-- The keywords before which a condition ends. -/
def conditionStops : List String :=
  ["ORDER BY", "GROUP BY", "LIMIT", "UNION", "UNION ALL", "EXCEPT", "INTERSECT", "HAVING",
    "RETURNING", "INTO"]

/-- The conditions of a list in groups, where `done` holds the nodes before the open condition and
`condition` those in it, both last first. -/
def conditionsAfter (done : List Node) (condition : Option (List Node)) : List Node → List Node
  | [] =>
    match condition with
    | some inside => (.group .condition inside.reverse :: done).reverse
    | none => done.reverse
  | n :: ns =>
    match condition with
    | none =>
      if n.isWordOf ["WHERE"] then conditionsAfter done (some [n]) ns
      else conditionsAfter (n :: done) none ns
    | some inside =>
      if n.isWordOf conditionStops then
        conditionsAfter (n :: .group .condition inside.reverse :: done) none ns
      else conditionsAfter done (some (n :: inside)) ns

/-- The word `WHERE` in groups with all that belongs to the condition; inside brackets the closing
one is left out. -/
def groupConditions (around : Option Group) (ns : List Node) : List Node :=
  if around == some .parentheses || around == some .brackets then
    conditionsAfter [] none ns.dropLast ++ ns.drop (ns.length - 1)
  else conditionsAfter [] none ns

/-- Every name as a group of its own. -/
def groupNames (ns : List Node) : List Node :=
  ns.map fun n => if n.isLeafOf [.name, .quotedName] then .group .identifier [n] else n

/-- One more node behind `done`, where a direction joins the name or number before it. -/
def orderAfter (done : List Node) (n : Node) : List Node :=
  if n.isLeafOf [.ordering] then
    let blanks := done.takeWhile isSpace
    match done.drop blanks.length with
    | first :: rest =>
      if first.isGroupOf [.identifier] || first.isLeafOf [.number, .hexadecimal] then
        .group .identifier (first :: blanks.reverse ++ [n]) :: rest
      else n :: done
    | [] => n :: done
  else n :: done

/-- Names and numbers in groups with the direction in which they order. -/
def groupOrders (ns : List Node) : List Node :=
  (ns.foldl orderAfter []).reverse

/-- A node that can have an alias. -/
def takesAlias (n : Node) : Bool :=
  n.isGroupOf [.parentheses, .call, .caseBlock, .identifier, .operation, .equation]
    || n.isLeafOf [.number, .hexadecimal]

/-- The aliases of a list in groups, where `done` holds the nodes read so far, last first, and
`free` says that the last solid one of them has no alias yet. -/
def aliasesAfter (done : List Node) (free : Bool) : List Node → List Node
  | [] => done.reverse
  | n :: ns =>
    if n.isSpace then aliasesAfter (n :: done) free ns
    else if free && n.isGroupOf [.identifier] then
      let blanks := done.takeWhile isSpace
      match done.drop blanks.length with
      | first :: rest =>
        if first.takesAlias then
          aliasesAfter (adopt .identifier first (blanks.reverse ++ [n]) :: rest) false ns
        else aliasesAfter (n :: done) true ns
      | [] => aliasesAfter (n :: done) true ns
    else aliasesAfter (n :: done) true ns

/-- Values in groups with the name that follows them. -/
def groupAliases : List Node → List Node :=
  aliasesAfter [] true

/-- One more node behind `done`, where a comment joins the group before it. -/
def remarkAfter (done : List Node) (n : Node) : List Node :=
  if n.isGroupOf [.remark] then
    let blanks := done.takeWhile isSpace
    match done.drop blanks.length with
    | .group g ns :: rest => .group g (ns ++ blanks.reverse ++ [n]) :: rest
    | _ => n :: done
  else n :: done

/-- Comments taken into the groups that they stand behind. -/
def alignRemarks (ns : List Node) : List Node :=
  (ns.foldl remarkAfter []).reverse

end QueryTutor.Query.Node
