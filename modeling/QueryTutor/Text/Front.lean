/-!
# The front of a text

Taking off what a text begins with, under a given equality of characters.
-/

namespace QueryTutor.Text

/-- What stands behind `front`, if the text begins with it. -/
def stripFront? (eq : Char → Char → Bool) : List Char → List Char → Option (List Char)
  | [], t => some t
  | _ :: _, [] => none
  | c :: front, d :: t => if eq c d then stripFront? eq front t else none

/-- The text begins with `front`. -/
def hasFront (eq : Char → Char → Bool) (front t : List Char) : Bool :=
  (stripFront? eq front t).isSome

/-- Some place in the text is followed by `piece`. -/
def holds (eq : Char → Char → Bool) (piece : List Char) : List Char → Bool
  | [] => piece.isEmpty
  | c :: r => hasFront eq piece (c :: r) || holds eq piece r

/-- The text through the first place where `stop` stands, and what follows. -/
def splitThrough? (eq : Char → Char → Bool) (stop : List Char) :
    List Char → Option (List Char × List Char)
  | [] => none
  | c :: r =>
    match stripFront? eq stop (c :: r) with
    | some rest => some ((c :: r).take stop.length, rest)
    | none => (splitThrough? eq stop r).map fun (head, rest) => (c :: head, rest)

end QueryTutor.Text
