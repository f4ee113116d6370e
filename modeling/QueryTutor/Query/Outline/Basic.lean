import QueryTutor.Query.Token.Basic

/-!
# Outlines

The tokens of a statement in nested groups.  A group holds its tokens in the order of the text.
-/

namespace QueryTutor.Query

/-- What a group of tokens is. -/
inductive Node.Group where
  | remark
  | brackets
  | parentheses
  | caseBlock
  | ifBlock
  | forBlock
  | beginBlock
  | window
  | call
  | condition
  | identifier
  | typedLiteral
  | operation
  | equation
  | binding
  deriving DecidableEq, Repr

/-- A token, or a group of smaller nodes. -/
inductive Node where
  | leaf (token : Token)
  | group (sort : Node.Group) (parts : List Node)

namespace Node

/-- The token of a leaf. -/
def token? : Node → Option Token
  | .leaf t => some t
  | .group .. => none

/-- What a group is. -/
def group? : Node → Option Group
  | .leaf _ => none
  | .group g _ => some g

/-- The node is a leaf of one of the given kinds. -/
def isLeafOf (ks : List Token.Kind) (n : Node) : Bool :=
  n.token?.any fun t => ks.contains t.kind

/-- The node is a group of one of the given sorts. -/
def isGroupOf (gs : List Group) (n : Node) : Bool :=
  n.group?.any gs.contains

/-- The node is a leaf with one of the given keywords. -/
def isWordOf (words : List String) (n : Node) : Bool :=
  n.token?.any fun t => t.isOneOf words

/-- White space outside of groups. -/
def isSpace (n : Node) : Bool :=
  n.token?.any (·.isSpace)

/-- The first node that is no white space, with its place. -/
def nextSolid? (ns : List Node) : Option (Node × Nat) :=
  let place := (ns.takeWhile isSpace).length
  (ns.drop place).head?.map fun n => (n, place)

/-- The nodes `more` taken into a group of the given sort, or put into a new one behind `first`. -/
def adopt (g : Group) (first : Node) (more : List Node) : Node :=
  match first with
  | .group h ns => if h == g then .group h (ns ++ more) else .group g (first :: more)
  | .leaf _ => .group g (first :: more)

mutual

/-- The characters of a node. -/
def text : Node → List Char
  | .leaf t => t.text
  | .group _ ns => textOf ns

/-- The characters of nodes that follow each other. -/
def textOf : List Node → List Char
  | [] => []
  | n :: ns => n.text ++ textOf ns

end

mutual

/-- How many groups stand inside each other. -/
def depth : Node → Nat
  | .leaf _ => 0
  | .group _ ns => depthOf ns + 1

/-- How many groups stand inside each other in a list of nodes. -/
def depthOf : List Node → Nat
  | [] => 0
  | n :: ns => max n.depth (depthOf ns)

end

mutual

/-- The node with `f` done to the list of every group, inner ones first; groups that are `closed`
stay as they are. -/
def rebuild (closed : Group → Bool) (f : Option Group → List Node → List Node) : Node → Node
  | .leaf t => .leaf t
  | .group g ns => if closed g then .group g ns else .group g (f (some g) (rebuildAll closed f ns))

/-- The nodes with `f` done to the list of every group in them. -/
def rebuildAll (closed : Group → Bool) (f : Option Group → List Node → List Node) :
    List Node → List Node
  | [] => []
  | n :: ns => n.rebuild closed f :: rebuildAll closed f ns

end

/-- The nodes with `f` done to the list of every group in them, and then to the whole list. -/
def everywhere (closed : Group → Bool) (f : Option Group → List Node → List Node)
    (ns : List Node) : List Node :=
  f none (rebuildAll closed f ns)

end Node

end QueryTutor.Query
