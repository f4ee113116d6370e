import QueryTutor.Query.Outline.Basic

/-!
# Joins

Groups made of a node in the middle and its neighbours, such as a sign with the values on both sides
of it.  A list is read from left to right, and a group once made can be joined on.
-/

namespace QueryTutor.Query.Node

/-- Which nodes are joined, and into what. -/
structure Join where
  sort : Group
  /-- The node in the middle. -/
  joins : Node → Bool
  /-- The node before it fits. -/
  fitsBefore : Node → Bool
  /-- The node behind it fits, or none is needed. -/
  fitsBehind : Option Node → Bool
  /-- The group begins with the node before the middle one. -/
  takesBefore : Bool := true
  /-- The group ends with the node behind the middle one. -/
  takesBehind : Node → Bool := fun _ => true
  /-- If such a node follows further on, the group reaches through it. -/
  reaches : Node → Bool := fun _ => false
  /-- A group of the same sort takes in what is joined on to it. -/
  grows : Bool := true

/-- How many of the nodes behind the middle one the group takes in. -/
def Join.reach (j : Join) (behind : List Node) : Nat :=
  match nextSolid? behind with
  | some (n, place) =>
    if j.takesBehind n then
      match (behind.drop (place + 1)).findIdx? j.reaches with
      | some further => place + further + 2
      | none => place + 1
    else 0
  | none => 0

/-- A node with others joined on to it. -/
def Join.extend (j : Join) (first : Node) (more : List Node) : Node :=
  if j.grows then adopt j.sort first more else .group j.sort (first :: more)

/-- The nodes read so far, last first, with the last `k` and those behind them joined on to the node
before. -/
def Join.close (j : Join) (k : Nat) (done behind : List Node) : List Node :=
  match done.drop k with
  | first :: rest => j.extend first ((done.take k).reverse ++ behind) :: rest
  | [] => done

/-- The nodes with all joins made, where `done` holds those read so far, last first, `last` is the
one that counts as the node before, and `owed` of those that follow belong to the last group. -/
def Join.joinAfter (j : Join) (done : List Node) (last : Option Node) (owed : Nat) :
    List Node → List Node
  | [] => done.reverse
  | n :: rest =>
    if owed > 1 then j.joinAfter done last (owed - 1) rest
    else
      let here := if owed = 1 then done else n :: done
      if n.isSpace then j.joinAfter here last 0 rest
      else if j.joins n && last.any j.fitsBefore && j.fitsBehind ((nextSolid? rest).map (·.1)) then
        let back :=
          if owed = 1 || !j.takesBefore then 0 else (done.takeWhile isSpace).length + 1
        let made := j.close back here (rest.take (j.reach rest))
        j.joinAfter made made.head? (j.reach rest) rest
      else j.joinAfter here (some n) 0 rest

/-- The nodes with all joins made in every group that is not `closed`. -/
def Join.everywhere (j : Join) (closed : Group → Bool) : List Node → List Node :=
  Node.everywhere closed fun _ => j.joinAfter [] none 0

/-- The nodes with all joins made, but not inside groups of the same sort. -/
def Join.all (j : Join) : List Node → List Node :=
  j.everywhere (· == j.sort)

/-- The leaves that stand for a value. -/
def isPlainValue : Node → Bool :=
  isLeafOf [.number, .quotedText, .quotedName, .name, .placeholder]

/-- A name, or what is called or looked up by a name. -/
def isNamed (n : Node) : Bool :=
  n.isGroupOf [.brackets, .call] || n.isLeafOf [.name, .quotedName]

/-- A name and what it is looked up in. -/
def memberJoin : Join where
  sort := .identifier
  joins n := n.isLeafOf [.dot] || n.token?.any fun t =>
    t.kind == .operator && (t.text == ['-', '>'] || t.text == ['-', '>', '>'])
  fitsBefore := isNamed
  fitsBehind _ := true
  takesBehind n := isNamed n || n.isLeafOf [.wildcard, .quotedText]

/-- A name and the place in square brackets. -/
def elementJoin : Join where
  sort := .identifier
  joins := isGroupOf [.brackets]
  fitsBefore n := isNamed n || n.isGroupOf [.identifier]
  fitsBehind _ := true
  takesBehind _ := false

/-- A value and the type that it is taken as. -/
def castJoin : Join where
  sort := .identifier
  joins := isLeafOf [.cast]
  fitsBefore _ := true
  fitsBehind := Option.isSome

/-- A time and the zone that it is moved to. -/
def zoneJoin : Join where
  sort := .identifier
  joins := isLeafOf [.zoneShift]
  fitsBefore _ := true
  fitsBehind := Option.any fun n => n.isWordOf ["AS"] || n.isLeafOf [.quotedText]

/-- The name of a type and a text of that type. -/
def literalJoin : Join where
  sort := .typedLiteral
  joins n := n.isLeafOf [.typeName] || n.isWordOf ["TIMESTAMP"]
  fitsBefore _ := true
  fitsBehind := Option.any (isLeafOf [.quotedText])
  takesBefore := false
  grows := false

/-- A literal and the unit that it is counted in. -/
def unitJoin : Join where
  sort := .typedLiteral
  joins := isGroupOf [.typedLiteral]
  fitsBefore _ := true
  fitsBehind := Option.any (isWordOf ["DAY", "HOUR", "MINUTE", "MONTH", "SECOND", "YEAR"])
  takesBefore := false

/-- A value that operators work on. -/
def isOperand (n : Node) : Bool :=
  n.isGroupOf [.brackets, .parentheses, .call, .identifier, .operation, .typedLiteral]
    || n.isPlainValue || n.isWordOf ["CURRENT_DATE", "CURRENT_TIME", "CURRENT_TIMESTAMP"]

/-- An operator with its operands. -/
def operationJoin : Join where
  sort := .operation
  joins := isLeafOf [.operator, .wildcard]
  fitsBefore := isOperand
  fitsBehind := Option.any isOperand
  grows := false

/-- A value that can be compared. -/
def isSide (n : Node) : Bool :=
  n.isGroupOf [.parentheses, .call, .identifier, .operation, .typedLiteral]
    || n.isPlainValue || n.isWordOf ["NULL"]

/-- A comparison with both its sides. -/
def equationJoin : Join where
  sort := .equation
  joins := isLeafOf [.comparison]
  fitsBefore := isSide
  fitsBehind := Option.any isSide
  grows := false

/-- A value and the name behind the word `AS`. -/
def aliasJoin : Join where
  sort := .identifier
  joins := isWordOf ["AS"]
  fitsBefore n := n.isWordOf ["NULL"] || !n.token?.any (·.kind.isKeyword)
  fitsBehind := Option.any fun n => !n.isLeafOf [.manipulation, .definition, .commonTable]

/-- A variable and what is put into it, through the end of the statement. -/
def bindingJoin : Join where
  sort := .binding
  joins := isLeafOf [.assignment]
  fitsBefore n := !n.isLeafOf [.keyword]
  fitsBehind := Option.any fun n => !n.isLeafOf [.keyword]
  reaches := isLeafOf [.semicolon]

end QueryTutor.Query.Node
