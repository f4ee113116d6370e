import QueryTutor.Numeral
import QueryTutor.Reading.Problem
import QueryTutor.Value

/-!
# Reading values

Turning data of no fixed shape into domain values.  All parts of a value are read, so that all its
problems are listed in order.
-/

namespace QueryTutor

/-- Why a value is turned down: problems of its parts, or a pattern that is no matter of a part and
stops the reading. -/
inductive Refusal where
  | problems (ps : List Problem)
  | stopped (e : Pattern.Error)
  deriving DecidableEq, Repr

/-- The outcome of reading a value. -/
def Reading (α : Type) := Except Refusal α

namespace Reading

variable {α β : Type}

/-- The refusal of two parts that are both turned down. -/
def both : Refusal → Refusal → Refusal
  | .stopped e, _ => .stopped e
  | .problems _, .stopped e => .stopped e
  | .problems ps, .problems qs => .problems (ps ++ qs)

/-- Both parts are read, and the problems of both are kept. -/
def app (f : Reading (α → β)) (x : Reading α) : Reading β :=
  match f, x with
  | .ok f, .ok a => .ok (f a)
  | .ok _, .error r => .error r
  | .error r, .ok _ => .error r
  | .error r, .error r' => .error (both r r')

instance : Functor Reading where
  map f x := Except.map f x

instance : Applicative Reading where
  pure := Except.ok
  seq f x := app f (x ())

/-- A value with one problem. -/
def problem (cause : Problem.Cause) : Reading α :=
  .error (.problems [⟨[], cause⟩])

/-- The part found under a key. -/
def under (key : String) (x : Reading α) : Reading α :=
  match x with
  | .error (.problems ps) => .error (.problems (ps.map (·.under key)))
  | x => x

/-- One more check of a part that has been read. -/
def check (x : Reading α) (f : α → Option Refusal) : Reading α :=
  match x with
  | .ok a => match f a with
    | none => .ok a
    | some r => .error r
  | .error r => .error r

/-- A refusal for a reason of the domain. -/
def refusal (reason : String) : Refusal :=
  .problems [⟨[], .refused reason⟩]

/-- A text; nothing else is taken for one. -/
def string : Value → Reading String
  | .string s => .ok s
  | _ => problem .notString

/-- The words for yes. -/
def yesWords : List String :=
  ["1", "true", "yes", "on", "t", "y"]

/-- The words for no. -/
def noWords : List String :=
  ["0", "false", "no", "off", "f", "n"]

/-- Yes or no, also as one or zero or in words.  Whole numbers of 64 bits are told apart from all
others when they are turned down. -/
def bool : Value → Reading Bool
  | .bool b => .ok b
  | .whole n =>
    if n == 0 then .ok false
    else if n == 1 then .ok true
    else if -9223372036854775808 ≤ n && n < 9223372036854775808 then problem .unreadableBoolean
    else problem .notBoolean
  | .real x =>
    if x == 0.0 then .ok false
    else if x == 1.0 then .ok true
    else if x.floor == x && x.abs < 9223372036854775808.0 then problem .unreadableBoolean
    else problem .notBoolean
  | .string s =>
    let w := String.ofList (s.toList.map Char.toLower)
    if yesWords.contains w then .ok true
    else if noWords.contains w then .ok false
    else problem .unreadableBoolean
  | _ => problem .notBoolean

/-- A double, also as text.  A whole number beyond the range of doubles is none. -/
def real : Value → Reading Float
  | .bool b => .ok (if b then 1.0 else 0.0)
  | .whole n =>
    let x := Float.ofInt n
    if x.isInf then problem .notNumber else .ok x
  | .real x => .ok x
  | .string s =>
    match Numeral.real? s.toList with
    | some x => .ok x
    | none => problem .unreadableNumber
  | _ => problem .notNumber

/-- One of a few names. -/
def oneOf (all : List α) (name : α → String) (v : Value) : Reading α :=
  match v with
  | .string s =>
    match all.find? (name · == s) with
    | some a => .ok a
    | none => problem (.notOneOf (all.map name))
  | _ => problem (.notOneOf (all.map name))

/-- The items of a list, the first of which has the number `n`. -/
def itemsFrom (item : Value → Reading α) (n : Nat) : List Value → Reading (List α)
  | [] => pure []
  | v :: vs => List.cons <$> under (toString n) (item v) <*> itemsFrom item (n + 1) vs

/-- A list, all items of which are read; `cause` is the problem with anything else. -/
def listOr (cause : Problem.Cause) (item : Value → Reading α) : Value → Reading (List α)
  | .list vs => itemsFrom item 0 vs
  | _ => problem cause

/-- A list, all items of which are read. -/
def list (item : Value → Reading α) : Value → Reading (List α) :=
  listOr .notList item

/-- A value that may be null. -/
def nullable (read : Value → Reading α) : Value → Reading (Option α)
  | .null => .ok none
  | v => some <$> read v

/-- The two names of a field: the one used outside, and the plain one. -/
structure Key where
  outer : String
  plain : String

/-- A key with one name. -/
def key (name : String) : Key :=
  ⟨name, name⟩

/-- The value of a field under either name, the outer one first, and the name it was given under. -/
def find? (fields : List (String × Value)) (k : Key) : Option (String × Value) :=
  match Value.field? fields k.outer, Value.field? fields k.plain with
  | some v, _ => some (k.outer, v)
  | none, some v => some (k.plain, v)
  | none, none => none

/-- A field that must be present. -/
def required (fields : List (String × Value)) (k : Key) (read : Value → Reading α) : Reading α :=
  match find? fields k with
  | some (name, v) => under name (read v)
  | none => under k.outer (problem .missing)

/-- A field with a default. -/
def withDefault (fields : List (String × Value)) (k : Key) (default : α)
    (read : Value → Reading α) : Reading α :=
  match find? fields k with
  | some (name, v) => under name (read v)
  | none => pure default

/-- A field that may be absent or null. -/
def optionally (fields : List (String × Value)) (k : Key) (read : Value → Reading α) :
    Reading (Option α) :=
  withDefault fields k none (nullable read)

/-- An object, read by its fields. -/
def object (read : List (String × Value) → Reading α) : Value → Reading α
  | .object fields => read fields
  | _ => problem .notObject

end Reading

end QueryTutor
