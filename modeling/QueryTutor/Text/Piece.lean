/-!
# Pieces

A text cut at every occurrence of a character.
-/

namespace QueryTutor.Text

/-- The pieces of a text between the characters `sep`. -/
def pieces (sep : Char) : List Char → List (List Char)
  | [] => [[]]
  | c :: r =>
    match pieces sep r with
    | [] => [[c]]
    | p :: ps => if c = sep then [] :: p :: ps else (c :: p) :: ps

end QueryTutor.Text
