/-!
# White space

Blank characters, and what is done with them at the ends of a text and inside it.
-/

namespace QueryTutor.Text

/-- White space: tabs and line breaks, the four information separators, and the spaces of all
widths. -/
def isBlank (c : Char) : Bool :=
  let n := c.toNat
  (9 ≤ n && n ≤ 13) || (28 ≤ n && n ≤ 32) || n == 0x85 || n == 0xa0 || n == 0x1680
    || (0x2000 ≤ n && n ≤ 0x200a) || n == 0x2028 || n == 0x2029 || n == 0x202f || n == 0x205f
    || n == 0x3000

/-- The text without the white space it begins with. -/
def trimLeft (t : List Char) : List Char :=
  t.dropWhile isBlank

/-- The text without its longest end of characters that satisfy `p`. -/
def dropTrailing (p : Char → Bool) (t : List Char) : List Char :=
  (t.reverse.dropWhile p).reverse

/-- The text without the white space it ends with. -/
def trimRight (t : List Char) : List Char :=
  dropTrailing isBlank t

/-- The text without white space at either end. -/
def trim (t : List Char) : List Char :=
  trimLeft (trimRight t)

/-- The text holds nothing but white space. -/
def isBlankText (t : List Char) : Bool :=
  t.all isBlank

/-- Each run of white space becomes one space. -/
def squeeze : List Char → List Char
  | [] => []
  | c :: r =>
    if isBlank c then
      match r with
      | [] => [' ']
      | d :: _ => if isBlank d then squeeze r else ' ' :: squeeze r
    else c :: squeeze r

end QueryTutor.Text
