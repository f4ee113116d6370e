/-!
# Lines

The lines of a text as a reader sees them, each without its line break.
-/

namespace QueryTutor.Text

/-- A character that ends a line; the carriage return takes a line feed behind it along. -/
def isLineBreak (c : Char) : Bool :=
  let n := c.toNat
  (10 ≤ n && n ≤ 13) || (28 ≤ n && n ≤ 30) || n == 0x85 || n == 0x2028 || n == 0x2029

/-- The lines of a text, where `line` holds the characters of the current one, last first. -/
def linesAfter (line : List Char) : List Char → List (List Char)
  | [] => if line.isEmpty then [] else [line.reverse]
  | '\r' :: '\n' :: r => line.reverse :: linesAfter [] r
  | c :: r => if isLineBreak c then line.reverse :: linesAfter [] r else linesAfter (c :: line) r

/-- The lines of a text; a break at its end opens no further line. -/
def lines (t : List Char) : List (List Char) :=
  linesAfter [] t

end QueryTutor.Text
