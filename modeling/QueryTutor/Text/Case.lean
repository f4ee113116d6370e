import QueryTutor.Text.CaseRun
import QueryTutor.Text.Cased

/-!
# Letter case

Small and capital letters of whole texts.  A character is mapped by itself, with two exceptions: the
capital I with a dot gives two characters, and a capital sigma takes another form at the end of a
word.
-/

namespace QueryTutor.Text

/-- The small letter of a character; the capital I with a dot gives the plain small i. -/
def lowerChar (c : Char) : Char :=
  if c.toNat < 128 then c.toLower
  else match mapRuns? lowerRuns c.toNat with
    | some n => Char.ofNat n
    | none => c

/-- The first character that is not passed over has a case. -/
def meetsCased : List Char → Bool
  | [] => false
  | c :: r => if isCaseIgnorable c then meetsCased r else isCased c

/-- The small letters of a text that stands behind `before` (nearest character first). -/
def lowerAfter (before : List Char) : List Char → List Char
  | [] => []
  | c :: r =>
    if c = '\u0130' then 'i' :: '\u0307' :: lowerAfter (c :: before) r
    else if c = '\u03a3' then
      (if meetsCased before && !meetsCased r then '\u03c2' else '\u03c3')
        :: lowerAfter (c :: before) r
    else lowerChar c :: lowerAfter (c :: before) r

/-- The text in small letters. -/
def lower (t : List Char) : List Char :=
  lowerAfter [] t

/-- The capital form of a character, which may take several characters. -/
def upperChar (c : Char) : List Char :=
  if c.toNat < 128 then [c.toUpper]
  else match longCapitals.lookup c.toNat, mapRuns? upperRuns c.toNat with
    | some ns, _ => ns.map Char.ofNat
    | none, some n => [Char.ofNat n]
    | none, none => [c]

/-- The text in capital letters. -/
def upper (t : List Char) : List Char :=
  t.flatMap upperChar

end QueryTutor.Text
