/-!
# Patterns

The patterns that authors write into exercises and catalogs, as trees.  Which letters, line breaks
and words a pattern means depends on the mode it is searched in, so the tree itself does not mention
it.
-/

namespace QueryTutor

/-- A switch that can be set for a whole pattern or for a part of it. -/
inductive Pattern.Flag where
  | ignoreCase
  | multiline
  | dotAll
  | verbose
  | ascii
  | unicode
  | locale
  | template
  deriving DecidableEq, Repr

/-- The classes of characters that have a name. -/
inductive Pattern.Category where
  | digit
  | blank
  | word
  deriving DecidableEq, Repr

/-- What a set of characters is made of. -/
inductive Pattern.SetItem where
  | range (lo hi : Nat)
  | category (c : Pattern.Category) (outside : Bool)
  deriving DecidableEq, Repr

/-- Places of a text that a pattern can ask for. -/
inductive Pattern.Place where
  | textStart
  | textEnd
  | lineStart
  | lineEnd
  | wordEdge
  | noWordEdge
  deriving DecidableEq, Repr

/-- How many repeats are tried first, and whether fewer or more are tried after that. -/
inductive Pattern.Greed where
  | greedy
  | lazy
  | possessive
  deriving DecidableEq, Repr

/-- A pattern. -/
inductive Pattern where
  | empty
  | char (c : Char)
  | any
  | set (outside : Bool) (items : List Pattern.SetItem)
  | place (p : Pattern.Place)
  | seq (p q : Pattern)
  | alt (p q : Pattern)
  | many (greed : Pattern.Greed) (least : Nat) (most : Option Nat) (p : Pattern)
  | group (index : Nat) (p : Pattern)
  | same (index : Nat)
  | ifGroup (index : Nat) (yes no : Pattern)
  | ahead (holds : Bool) (p : Pattern)
  | behind (holds : Bool) (least most : Nat) (p : Pattern)
  | atomic (p : Pattern)
  | within (on off : List Pattern.Flag) (p : Pattern)
  deriving Repr

namespace Pattern

/-- The patterns one behind the other. -/
def ofList : List Pattern → Pattern
  | [] => empty
  | [p] => p
  | p :: ps => seq p (ofList ps)

/-- The patterns as choices, the first one first. -/
def choice : List Pattern → Pattern
  | [] => empty
  | [p] => p
  | p :: ps => alt p (choice ps)

end Pattern

end QueryTutor
