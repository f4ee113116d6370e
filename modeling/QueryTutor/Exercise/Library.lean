import QueryTutor.Exercise.Reading

/-!
# Libraries of exercises

A collection of exercises under names of their own, read from a list of entries.
-/

namespace QueryTutor.Exercise

/-- Why entries make no library. -/
inductive LibraryError where
  | noName
  | duplicate (slug : String)
  | refused (r : Refusal)
  deriving DecidableEq, Repr

/-- What an author is told about the file that holds the entries, other than about single exercises.
-/
def LibraryError.message (file : String) : LibraryError → String
  | noName => "Exercise without a slug in " ++ file
  | duplicate slug => "Duplicate exercise slug '" ++ slug ++ "' in " ++ file
  | refused (.problems ps) => Problem.messages ps
  | refused (.stopped e) => e.message []

/-- The name of an entry, if it has one. -/
def slug? : Value → Option String
  | .object fields =>
    match Value.field? fields "slug" with
    | some (.string s) => if s.isEmpty then none else some s
    | _ => none
  | _ => none

/-- The exercises of entries that follow others with the names `known`. -/
def readEntries (known : List String) : List Value → Except LibraryError (List (String × Exercise))
  | [] => .ok []
  | v :: vs =>
    match slug? v with
    | none => .error .noName
    | some slug =>
      if known.contains slug then .error (.duplicate slug)
      else match read v with
        | .error r => .error (.refused r)
        | .ok e => (readEntries (slug :: known) vs).map ((slug, e) :: ·)

/-- The library of a list of entries. -/
def readLibrary (vs : List Value) : Except LibraryError (List (String × Exercise)) :=
  readEntries [] vs

end QueryTutor.Exercise
