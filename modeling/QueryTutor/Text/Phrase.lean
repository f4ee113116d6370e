import QueryTutor.Text.Blank
import QueryTutor.Text.Fold
import QueryTutor.Text.Front
import QueryTutor.Text.Word

/-!
# Phrases

Words in fixed order, such as `group by`, looked for in a text.  A space in a phrase stands for any
white space, and letters match in either case.
-/

namespace QueryTutor.Text.Phrase

/-- What stands behind the phrase, if the text begins with it under the given equality of
characters. -/
def stripBy? (eq : Char → Char → Bool) : List Char → List Char → Option (List Char)
  | [], t => some t
  | _ :: _, [] => none
  | c :: phrase, d :: t =>
    if c = ' ' then
      if isBlank d then stripBy? eq phrase (t.dropWhile isBlank) else none
    else if eq c d then stripBy? eq phrase t else none

/-- The text that the phrase covers and what stands behind it, if the text begins with the phrase
under the given equality of characters. -/
def splitBy? (eq : Char → Char → Bool) :
    List Char → List Char → Option (List Char × List Char)
  | [], t => some ([], t)
  | _ :: _, [] => none
  | c :: phrase, d :: t =>
    if c = ' ' then
      if isBlank d then
        (splitBy? eq phrase (t.dropWhile isBlank)).map fun (covered, rest) =>
          (d :: t.takeWhile isBlank ++ covered, rest)
      else none
    else if eq c d then
      (splitBy? eq phrase t).map fun (covered, rest) => (d :: covered, rest)
    else none

/-- What stands behind the phrase, if the text begins with it in whatever case. -/
def strip? (phrase t : List Char) : Option (List Char) :=
  stripBy? Fold.same phrase t

/-- A word of the text cannot begin behind the character `before`. -/
def continuesWord (before : Option Char) : Bool :=
  before.any isWord

/-- What stands behind the phrase, if it stands here as whole words behind the character `before`.
-/
def wholeAt? (phrase : List Char) (before : Option Char) (t : List Char) : Option (List Char) :=
  if continuesWord before then none
  else (strip? phrase t).filter fun rest => !startsWithWord rest

/-- The first end of the text, itself included, at which `at?` finds something behind the character
before it. -/
def findFrom {α : Type} (at? : Option Char → List Char → Option α) (before : Option Char) :
    List Char → Option (List Char × α)
  | [] => (at? before []).map fun a => ([], a)
  | c :: r =>
    match at? before (c :: r) with
    | some a => some (c :: r, a)
    | none => findFrom at? (some c) r

/-- The text from the first place where the phrase stands as whole words. -/
def find? (phrase t : List Char) : Option (List Char) :=
  (findFrom (wholeAt? phrase) none t).map (·.1)

/-- The phrase stands somewhere in the text as whole words. -/
def occurs (phrase t : List Char) : Bool :=
  (find? phrase t).isSome

end QueryTutor.Text.Phrase
