import QueryTutor.Pattern.Basic
import QueryTutor.Text.Blank
import QueryTutor.Text.Fold
import QueryTutor.Text.Word

/-!
# Modes

How the characters of a pattern are compared with those of a text.
-/

namespace QueryTutor.Pattern

open Text

/-- The switches that a search depends on. -/
structure Mode where
  ignoreCase : Bool := false
  multiline : Bool := false
  dotAll : Bool := false
  ascii : Bool := false
  deriving DecidableEq, Repr

namespace Mode

/-- The mode with one more switch on. -/
def enable (m : Mode) : Flag → Mode
  | .ignoreCase => { m with ignoreCase := true }
  | .multiline => { m with multiline := true }
  | .dotAll => { m with dotAll := true }
  | .ascii => { m with ascii := true }
  | .unicode => { m with ascii := false }
  | _ => m

/-- The mode with one switch less. -/
def disable (m : Mode) : Flag → Mode
  | .ignoreCase => { m with ignoreCase := false }
  | .multiline => { m with multiline := false }
  | .dotAll => { m with dotAll := false }
  | _ => m

/-- The mode inside a group that turns switches on and off. -/
def switch (m : Mode) (on off : List Flag) : Mode :=
  off.foldl disable (on.foldl enable m)

/-- A character of the pattern is met by a character of the text. -/
def meets (m : Mode) (c d : Char) : Bool :=
  if !m.ignoreCase then c == d else if m.ascii then Fold.sameAscii c d else Fold.same c d

/-- Two characters of the text count as equal when a group is repeated.  Letters that only share a
capital differ here. -/
def repeats (m : Mode) (c d : Char) : Bool :=
  if !m.ignoreCase then c == d
  else if m.ascii then Fold.sameAscii c d
  else lowerChar c == lowerChar d

/-- The character makes words. -/
def isWord (m : Mode) (c : Char) : Bool :=
  if m.ascii then isAsciiWord c else Text.isWord c

/-- The character belongs to a named class. -/
def belongs (m : Mode) (c : Char) : Category → Bool
  | .digit => if m.ascii then c.isDigit else isDigit c
  | .blank => isBlank c && (!m.ascii || c.toNat < 28 || (31 < c.toNat && c.toNat < 128))
  | .word => m.isWord c

/-- The code points that stand for the same letter as the character. -/
def variants (m : Mode) (c : Char) : List Nat :=
  if !m.ignoreCase then [c.toNat] else if m.ascii then Fold.asciiVariants c else Fold.variants c

/-- The character, one of whose variants is looked for, is met by a part of a set. -/
def meetsItem (m : Mode) (c : Char) (variants : List Nat) : SetItem → Bool
  | .range lo hi => variants.any fun n => lo ≤ n && n ≤ hi
  | .category k outside => m.belongs c k != outside

/-- The character is met by a set. -/
def meetsSet (m : Mode) (outside : Bool) (items : List SetItem) (c : Char) : Bool :=
  items.any (m.meetsItem c (m.variants c)) != outside

end Mode

end QueryTutor.Pattern
