/-!
# Top level

Which characters of a query stand outside parentheses and string literals, and cutting a text at
those.
-/

namespace QueryTutor.Analysis

/-- For each character whether it stands outside parentheses and string literals, with `depth`
parentheses open and inside a literal or not.  A parenthesis closed too often counts for nothing. -/
def topLevelAfter (depth : Nat) (quoted : Bool) : List Char → List Bool
  | [] => []
  | c :: r =>
    if quoted then false :: topLevelAfter depth (c != '\'') r
    else if c == '\'' then false :: topLevelAfter depth true r
    else if c == '(' then false :: topLevelAfter (depth + 1) false r
    else if c == ')' then false :: topLevelAfter (depth - 1) false r
    else (depth == 0) :: topLevelAfter depth false r

/-- For each character of the text whether it stands at top level. -/
def topLevel (t : List Char) : List Bool :=
  topLevelAfter 0 false t

/-- The pieces of a marked text between the separators whose mark is set. -/
def splitMarked (separator : Char) : List (Char × Bool) → List (List Char)
  | [] => [[]]
  | (c, mark) :: r =>
    if c == separator && mark then [] :: splitMarked separator r
    else match splitMarked separator r with
      | piece :: pieces => (c :: piece) :: pieces
      | [] => [[c]]

/-- The pieces of a text between its commas at top level. -/
def splitTopLevel (t : List Char) : List (List Char) :=
  splitMarked ',' (t.zip (topLevel t))

end QueryTutor.Analysis
