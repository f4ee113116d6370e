/-!
# First occurrences

A list with only the first of the elements that share a key.
-/

namespace QueryTutor

variable {α β : Type} [BEq β]

/-- The elements whose key is neither among `seen` nor that of an earlier element. -/
def firstSeenAfter (key : α → β) (seen : List β) : List α → List α
  | [] => []
  | a :: as =>
    if seen.contains (key a) then firstSeenAfter key seen as
    else a :: firstSeenAfter key (key a :: seen) as

/-- The elements whose key is not that of an earlier element. -/
def firstSeenBy (key : α → β) (as : List α) : List α :=
  firstSeenAfter key [] as

/-- The list without repeats, in order of first occurrence. -/
def firstSeen (as : List β) : List β :=
  firstSeenBy id as

end QueryTutor
