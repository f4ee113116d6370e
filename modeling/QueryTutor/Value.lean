/-!
# Values

Data of no fixed shape, as it arrives from outside.
-/

namespace QueryTutor

/-- Data of no fixed shape. -/
inductive Value where
  | null
  | bool (b : Bool)
  | whole (n : Int)
  | real (x : Float)
  | string (s : String)
  | list (items : List Value)
  | object (fields : List (String × Value))
  deriving Inhabited

namespace Value

/-- The value of a field; of two fields with one name the later counts. -/
def field? (fields : List (String × Value)) (name : String) : Option Value :=
  (fields.reverse.find? (·.1 == name)).map (·.2)

/-- The value counts as yes: it is neither null, no, zero nor empty. -/
def counts : Value → Bool
  | null => false
  | bool b => b
  | whole n => n != 0
  | real x => x != 0.0
  | string s => !s.isEmpty
  | list vs => !vs.isEmpty
  | object fields => !fields.isEmpty

/-- A list of texts. -/
def strings (ss : List String) : Value :=
  .list (ss.map .string)

/-- What is there, or null. -/
def ofOption {α : Type} (write : α → Value) : Option α → Value
  | some a => write a
  | none => .null

end Value

end QueryTutor
