import QueryTutor.Text.Letter
import QueryTutor.Text.Number

/-!
# Word characters

Letters, numbers and the underscore make words; a word ends where its next character is none of
them.
-/

namespace QueryTutor.Text

/-- A letter or number of any script, or the underscore. -/
def isWord (c : Char) : Bool :=
  if c.toNat < 128 then c.isAlphanum || c == '_' else isLetter c || isNumber c

/-- A word character of ASCII. -/
def isAsciiWord (c : Char) : Bool :=
  c.isAlphanum || c == '_'

/-- The text goes on with a word character. -/
def startsWithWord : List Char → Bool
  | [] => false
  | c :: _ => isWord c

end QueryTutor.Text
