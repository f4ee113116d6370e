import QueryTutor.Pattern.Error

/-!
# Pattern text

The text of a pattern while it is read: symbols, each a character or a backslash with the character
behind it, and their places.
-/

namespace QueryTutor.Pattern

/-- A character, or a backslash and the character it escapes, and where it stands. -/
structure Symbol where
  text : List Char
  place : Nat
  deriving DecidableEq, Repr

/-- The symbols of a text that begins at `place`; a backslash at its end stands alone. -/
def symbolsFrom (place : Nat) : List Char → List Symbol
  | [] => []
  | '\\' :: c :: r => ⟨['\\', c], place⟩ :: symbolsFrom (place + 2) r
  | c :: r => ⟨[c], place⟩ :: symbolsFrom (place + 1) r

/-- What is left to read of a pattern of length `stop`. -/
structure Source where
  symbols : List Symbol
  stop : Nat

/-- A fault at a place. -/
def fail {α : Type} (fault : Fault) (place : Nat) : Except Error α :=
  .error (.malformed fault (some place))

namespace Source

/-- The text of the next symbol. -/
def head? (s : Source) : Option (List Char) :=
  s.symbols.head?.map (·.text)

/-- Where the next symbol stands. -/
def place (s : Source) : Nat :=
  match s.symbols with
  | [] => s.stop
  | a :: _ => a.place

/-- A backslash that escapes nothing is noticed as soon as it is next. -/
def settle (s : Source) : Except Error Source :=
  if s.head? == some ['\\'] then fail .escapeAtEnd (s.stop - 1) else .ok s

/-- What is left behind the next symbol. -/
def next (s : Source) : Except Error Source :=
  settle { s with symbols := s.symbols.tail }

/-- The whole of a pattern. -/
def ofText (t : List Char) : Except Error Source :=
  settle ⟨symbolsFrom 0 t, t.length⟩

/-- The next symbol is the character `c`. -/
def meets (s : Source) (c : Char) : Bool :=
  s.head? == some [c]

/-- At most `n` next symbols that are single characters satisfying `p`. -/
def takeUpTo (p : Char → Bool) : Nat → Source → Except Error (List Char × Source)
  | 0, s => .ok ([], s)
  | n + 1, s =>
    match s.head? with
    | some [c] =>
      if p c then do
        let (cs, rest) ← takeUpTo p n (← s.next)
        return (c :: cs, rest)
      else .ok ([], s)
    | _ => .ok ([], s)

/-- All next symbols that are single characters satisfying `p`. -/
def takeWhile (p : Char → Bool) (s : Source) : Except Error (List Char × Source) :=
  takeUpTo p s.symbols.length s

/-- The text before the terminator, read behind `name`, in at most `n` symbols. -/
def nameUpTo (what : String) (terminator : Char) : Nat → List Char → Source →
    Except Error (List Char × Source)
  | 0, _, s => fail (.missingName what) s.place
  | n + 1, name, s =>
    match s.head? with
    | none =>
      if name.isEmpty then fail (.missingName what) s.place
      else fail (.unterminatedName terminator) (s.place - name.length)
    | some t => do
      let s ← s.next
      if t == [terminator] then
        if name.isEmpty then fail (.missingName what) (s.place - 1) else return (name, s)
      else nameUpTo what terminator n (name ++ t) s

/-- The name before the terminator. -/
def name (what : String) (terminator : Char) (s : Source) : Except Error (List Char × Source) :=
  nameUpTo what terminator (s.symbols.length + 1) [] s

/-- What is left behind the next symbol `t`, if there is one, in at most `n` symbols. -/
def skipUpTo (t : List Char) : Nat → Source → Except Error (Option Source)
  | 0, _ => .ok none
  | n + 1, s =>
    match s.head? with
    | none => .ok none
    | some u => do
      let s ← s.next
      if u == t then return some s else skipUpTo t n s

/-- What is left behind the next symbol `t`, if there is one. -/
def skipThrough? (t : List Char) (s : Source) : Except Error (Option Source) :=
  skipUpTo t s.symbols.length s

end Source

end QueryTutor.Pattern
