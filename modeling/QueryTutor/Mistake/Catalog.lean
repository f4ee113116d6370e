import QueryTutor.Mistake.Standard
import QueryTutor.Pattern.Parser
import QueryTutor.Pattern.Search

/-!
# Catalogs

An ordered collection of mistakes with different names, all of whose patterns can be searched for.
Detection keeps the order of the catalog.
-/

namespace QueryTutor

/-- How patterns of mistakes are searched: without regard to case, and across lines. -/
def detectionMode : Pattern.Mode :=
  { ignoreCase := true, dotAll := true }

/-- Whether the pattern written as `source` is met in a text. -/
def Pattern.occursIn (source : String) (m : Pattern.Mode) (t : List Char) :
    Except Pattern.Error Bool :=
  (Pattern.parse source.toList).map (·.occurs m t)

/-- Whether one of the patterns is met; they are tried in order, up to the first that is. -/
def Pattern.anyOccursIn (m : Pattern.Mode) (t : List Char) : List String → Except Pattern.Error Bool
  | [] => .ok false
  | source :: sources => do
    if ← Pattern.occursIn source m t then return true else anyOccursIn m t sources

/-- Mistakes in order. -/
structure Catalog where
  mistakes : List Mistake
  deriving DecidableEq, Repr

namespace Catalog

/-- Why mistakes make no catalog. -/
inductive Error where
  | duplicate (id : String)
  | noPatterns (id : String)
  | badPattern (id source : String) (cause : Pattern.Error)
  deriving DecidableEq, Repr

/-- What is wrong with the mistakes of a catalog. -/
def Error.message : Error → String
  | duplicate id => "Duplicate mistake id: " ++ id
  | noPatterns id => "Mistake '" ++ id ++ "' has no detection patterns"
  | badPattern id source cause =>
    "Mistake '" ++ id ++ "' has an invalid pattern: " ++ cause.message source.toList

/-- The first of the patterns that cannot be read, and why. -/
def firstBadPattern? : List String → Option (String × Pattern.Error)
  | [] => none
  | source :: sources =>
    match Pattern.parse source.toList with
    | .ok _ => firstBadPattern? sources
    | .error cause => some (source, cause)

/-- What keeps a mistake out of a catalog that has the names `known`. -/
def faultOf (known : List String) (d : Mistake) : Option Error :=
  if known.contains d.id then some (.duplicate d.id)
  else if d.patterns.isEmpty then some (.noPatterns d.id)
  else (firstBadPattern? d.patterns).map fun (source, cause) => .badPattern d.id source cause

/-- The first fault of mistakes that are put behind others with the names `known`. -/
def firstFault? (known : List String) : List Mistake → Option Error
  | [] => none
  | d :: ds => (faultOf known d).or (firstFault? (d.id :: known) ds)

/-- The catalog of the mistakes, in order. -/
def ofList? (ds : List Mistake) : Except Error Catalog :=
  match firstFault? [] ds with
  | some e => .error e
  | none => .ok ⟨ds⟩

/-- The catalog that every installation has. -/
def standard : Catalog :=
  ⟨Mistake.Standard.all⟩

/-- The names of the mistakes. -/
def ids (c : Catalog) : List String :=
  c.mistakes.map (·.id)

/-- How many mistakes there are. -/
def size (c : Catalog) : Nat :=
  c.mistakes.length

/-- The mistake of a name. -/
def get? (c : Catalog) (id : String) : Option Mistake :=
  c.mistakes.find? (·.id == id)

/-- The catalog has a mistake of the name. -/
def contains (c : Catalog) (id : String) : Bool :=
  (c.get? id).isSome

/-- The mistakes of a category. -/
def byCategory (c : Catalog) (k : Category) : List Mistake :=
  c.mistakes.filter (·.category == k)

/-- The mistakes of a severity. -/
def bySeverity (c : Catalog) (s : Severity) : List Mistake :=
  c.mistakes.filter (·.severity == s)

/-- The mistake is looked for: a heuristic one only if all of them are, or it is asked for by name.
-/
def isSought (heuristics : Bool) (enabled : List String) (d : Mistake) : Bool :=
  !d.heuristic || heuristics || enabled.contains d.id

/-- The mistakes whose patterns are met in a raw query. -/
def detectAmong (q : List Char) : List Mistake → Except Pattern.Error (List Mistake)
  | [] => .ok []
  | d :: ds => do
    let met ← Pattern.anyOccursIn detectionMode q d.patterns
    let rest ← detectAmong q ds
    return if met then d :: rest else rest

/-- The mistakes found in a raw query, in the order of the catalog. -/
def detect (c : Catalog) (q : List Char) (heuristics : Bool) (enabled : List String) :
    Except Pattern.Error (List Mistake) :=
  detectAmong q (c.mistakes.filter (isSought heuristics enabled))

end Catalog

end QueryTutor
