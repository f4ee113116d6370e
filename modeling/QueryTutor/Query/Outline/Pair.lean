import QueryTutor.Query.Outline.Basic

/-!
# Pairs

Groups between an opening and a closing token.  A closing token that nothing opened, and an opening
one that nothing closes, stand for themselves.
-/

namespace QueryTutor.Query.Node

/-- The tokens between which a group stands. -/
structure Pair where
  sort : Group
  isOpening : Node → Bool
  isClosing : Node → Bool

/-- The group of a pair, where `current` holds the nodes behind the last open token, last first, and
`outer` the lists that are still open around it. -/
def pairAfter (pair : Pair) (current : List Node) (outer : List (List Node)) :
    List Node → List Node
  | [] => (outer.foldl (fun inner around => inner ++ around) current).reverse
  | n :: ns =>
    if pair.isOpening n then pairAfter pair [n] (current :: outer) ns
    else if pair.isClosing n then
      match outer with
      | around :: more =>
        pairAfter pair (.group pair.sort (n :: current).reverse :: around) more ns
      | [] => pairAfter pair (n :: current) [] ns
    else pairAfter pair (n :: current) outer ns

/-- The nodes with every pair made a group. -/
def pairUp (pair : Pair) : List Node → List Node :=
  everywhere (· == pair.sort) fun _ => pairAfter pair [] []

/-- Square brackets. -/
def bracketPair : Pair :=
  ⟨.brackets, isLeafOf [.openingBracket], isLeafOf [.closingBracket]⟩

/-- Parentheses. -/
def parenthesisPair : Pair :=
  ⟨.parentheses, isLeafOf [.opening], isLeafOf [.closing]⟩

/-- The pairs of words, in the order in which they are looked for. -/
def wordPairs : List Pair :=
  [⟨.caseBlock, isWordOf ["CASE"], isWordOf ["END"]⟩,
    ⟨.ifBlock, isWordOf ["IF"], isWordOf ["END IF"]⟩,
    ⟨.forBlock, isWordOf ["FOR", "FOREACH"], isWordOf ["END LOOP"]⟩,
    ⟨.beginBlock, isWordOf ["BEGIN"], isWordOf ["END"]⟩]

end QueryTutor.Query.Node
