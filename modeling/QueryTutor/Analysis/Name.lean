import QueryTutor.Text.Fold
import QueryTutor.Text.Word

/-!
# Names in queries

Names of columns and tables as they are recognised in a query.
-/

namespace QueryTutor.Analysis

open Text

/-- A letter of basic Latin in whatever case, or the underscore. -/
def isNameHead (c : Char) : Bool :=
  c == '_' || ('a' ≤ Fold.key c && Fold.key c ≤ 'z')

/-- The text is a name, or two names with a point between them. -/
def isIdentifier (t : List Char) : Bool :=
  match t with
  | [] => false
  | c :: r =>
    isNameHead c && match r.dropWhile isWord with
      | [] => true
      | '.' :: d :: s => isNameHead d && s.all isWord
      | _ => false

/-- A character that goes on with the name of a table. -/
def isTablePart (c : Char) : Bool :=
  isWord c || c == '$'

/-- The name a text begins with, and what follows. -/
def tablePart? : List Char → Option (List Char × List Char)
  | [] => none
  | c :: r =>
    if isNameHead c then some (c :: r.takeWhile isTablePart, r.dropWhile isTablePart) else none

/-- The table name a text begins with, with its schema before a point, and what follows. -/
def tableName? (t : List Char) : Option (List Char × List Char) :=
  (tablePart? t).map fun (name, rest) =>
    match rest with
    | '.' :: r =>
      match tablePart? r with
      | some (part, rest) => (name ++ '.' :: part, rest)
      | none => (name, '.' :: r)
    | _ => (name, rest)

end QueryTutor.Analysis
