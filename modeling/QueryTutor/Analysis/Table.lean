import QueryTutor.Analysis.Name
import QueryTutor.FirstSeen
import QueryTutor.Text.Phrase

/-!
# Tables

The tables a query names: what follows the words `from`, `join`, `into` and `update`, apart from
`for update`.
-/

namespace QueryTutor.Analysis

open Text

/-- The words that a table name follows. -/
def tableKeywords : List String :=
  ["from ", "join ", "into ", "update "]

/-- The text read so far, last character first, ends in `for` and a space. -/
def followsFor (before : List Char) : Bool :=
  hasFront Fold.same [' ', 'r', 'o', 'f'] before

/-- The table named here, and what follows its name. -/
def tableAt? (before t : List Char) : Option (List Char × List Char) :=
  if Phrase.continuesWord before.head? then none
  else tableKeywords.findSome? fun k =>
    if k == "update " && followsFor before then none
    else (Phrase.strip? k.toList t).bind tableName?

/-- The tables named in a text behind `before` (last character first), where `skip` more characters
belong to the last one found. -/
def tablesFrom (before : List Char) (skip : Nat) : List Char → List (List Char)
  | [] => []
  | c :: r =>
    match skip with
    | skip + 1 => tablesFrom (c :: before) skip r
    | 0 =>
      match tableAt? before (c :: r) with
      | some (name, rest) => name :: tablesFrom (c :: before) (r.length - rest.length) r
      | none => tablesFrom (c :: before) 0 r

/-- All places where a table is named, from left to right. -/
def tableReferences (q : List Char) : List (List Char) :=
  tablesFrom [] 0 q

/-- The tables of a query in the order in which they are first named. -/
def tableNames (q : List Char) : List (List Char) :=
  firstSeen (tableReferences q)

end QueryTutor.Analysis
