import QueryTutor.Pattern.Mode

/-!
# Searching

Looking for a pattern in a text.  The ways in which a pattern can be met are tried in a fixed order,
and the first one from which the rest can go on is taken.
-/

namespace QueryTutor.Pattern

/-- A place in a text, and what the groups met so far have captured: the text from where each began,
and how much of it. -/
structure Spot where
  before : List Char
  after : List Char
  passed : Nat
  groups : List (Nat × List Char × Nat)

namespace Spot

/-- The front of a text. -/
def start (t : List Char) : Spot :=
  ⟨[], t, 0, []⟩

/-- One character further, which must satisfy `p`. -/
def step? (p : Char → Bool) (s : Spot) : Option Spot :=
  match s.after with
  | [] => none
  | c :: r =>
    if p c then some { s with before := c :: s.before, after := r, passed := s.passed + 1 }
    else none

/-- One character back. -/
def back? (s : Spot) : Option Spot :=
  match s.before with
  | [] => none
  | c :: r => some { s with before := r, after := c :: s.after, passed := s.passed - 1 }

/-- A number of characters back. -/
def backBy? : Nat → Spot → Option Spot
  | 0, s => some s
  | n + 1, s => s.back?.bind (backBy? n)

/-- The spot between two characters of which exactly one makes words. -/
def isWordEdge (m : Mode) (s : Spot) : Bool :=
  s.before.head?.any m.isWord != s.after.head?.any m.isWord

/-- The spot is such a place.  In a text without characters nothing is an edge, nor is it none. -/
def isAt (m : Mode) (s : Spot) : Place → Bool
  | .textStart => s.before.isEmpty
  | .textEnd => s.after.isEmpty
  | .lineStart => s.before.isEmpty || (m.multiline && s.before.head? == some '\n')
  | .lineEnd =>
    s.after.isEmpty || s.after == ['\n'] || (m.multiline && s.after.head? == some '\n')
  | .wordEdge => s.isWordEdge m
  | .noWordEdge => !(s.before.isEmpty && s.after.isEmpty) && !s.isWordEdge m

/-- The text that a group has captured. -/
def captured? (s : Spot) (index : Nat) : Option (List Char) :=
  (s.groups.lookup index).map fun (t, n) => t.take n

/-- The spot behind a piece of text that must come next. -/
def pass? (p : Char → Char → Bool) : List Char → Spot → Option Spot
  | [], s => some s
  | c :: t, s => (s.step? (p c)).bind (pass? p t)

/-- The spot with the text since `origin` captured. -/
def capture (index : Nat) (s origin : Spot) : Spot :=
  { s with groups := (index, origin.after, s.passed - origin.passed) :: s.groups }

end Spot

/-- The pattern can be met in at most one way. -/
def isSingle : Pattern → Bool
  | alt _ _ => false
  | seq p q => p.isSingle && q.isSingle
  | many greed _ _ _ => greed == .possessive
  | group _ p => p.isSingle
  | ifGroup _ p q => p.isSingle && q.isSingle
  | within _ _ p => p.isSingle
  | _ => true

/-- What comes after: from a spot to the final one, if there is one. -/
abbrev Goal := Spot → Option Spot

/-- One more repeat can follow `count` repeats. -/
def mayRepeat (most : Option Nat) (count : Nat) : Bool :=
  match most with
  | some m => count < m
  | none => true

/-- The spots met by repeating a step, last one first, behind those in `trail`.  Once enough have
been made, a step that goes nowhere is the last. -/
def trailUpTo (step : Spot → Option Spot) (least : Nat) (most : Option Nat) :
    Nat → Nat → Spot → List Spot → List Spot
  | 0, _, s, trail => s :: trail
  | n + 1, count, s, trail =>
    if mayRepeat most count then
      match step s with
      | none => s :: trail
      | some s' =>
        if s'.passed == s.passed && least ≤ count then s' :: s :: trail
        else trailUpTo step least most n (count + 1) s' (s :: trail)
    else s :: trail

/-- Repeats of a step, as few as possible. -/
def fewest (step : Spot → Option Spot) (least : Nat) (most : Option Nat) (k : Goal) :
    Nat → Nat → Option Nat → Spot → Option Spot
  | 0, _, _, s => k s
  | n + 1, count, last, s =>
    if count < least then
      match step s with
      | none => none
      | some s' => fewest step least most k n (count + 1) last s'
    else
      match k s with
      | some r => some r
      | none =>
        if mayRepeat most count && last != some s.passed then
          match step s with
          | none => none
          | some s' => fewest step least most k n (count + 1) (some s.passed) s'
        else none

/-- Repeats of a pattern that can be met in several ways, as many or as few as possible first.  Once
enough have been made, none begins where the one before began. -/
def repeats (body : Spot → Goal → Option Spot) (greedy : Bool) (least : Nat) (most : Option Nat)
    (k : Goal) : Nat → Nat → Option Nat → Spot → Option Spot
  | 0, _, _, s => k s
  | n + 1, count, last, s =>
    if count < least then body s (repeats body greedy least most k n (count + 1) last)
    else
      let more := fun _ : Unit =>
        if mayRepeat most count && last != some s.passed then
          body s (repeats body greedy least most k n (count + 1) (some s.passed))
        else none
      if greedy then (more ()).orElse fun _ => k s else (k s).orElse more

/-- The final spot reached by meeting the pattern at a spot and then going on to the goal. -/
def run : Pattern → Mode → Spot → Goal → Option Spot
  | empty, _, s, k => k s
  | char c, m, s, k => (s.step? (m.meets c)).bind k
  | any, m, s, k => (s.step? fun c => m.dotAll || c != '\n').bind k
  | set outside items, m, s, k => (s.step? (m.meetsSet outside items)).bind k
  | place p, m, s, k => if s.isAt m p then k s else none
  | seq p q, m, s, k => p.run m s fun s => q.run m s k
  | alt p q, m, s, k => (p.run m s k).orElse fun _ => q.run m s k
  | many greed least most p, m, s, k =>
    let enough := least + s.after.length + 1
    if p.isSingle then
      let step := fun s => p.run m s some
      match greed with
      | .lazy => fewest step least most k enough 0 none s
      | .greedy =>
        let trail := trailUpTo step least most enough 0 s []
        (trail.take (trail.length - least)).findSome? k
      | .possessive =>
        let trail := trailUpTo step least most enough 0 s []
        (trail.take (trail.length - least)).head?.bind k
    else
      match greed with
      | .lazy => repeats (p.run m) false least most k enough 0 none s
      | .greedy => repeats (p.run m) true least most k enough 0 none s
      | .possessive => (repeats (p.run m) true least most some enough 0 none s).bind k
  | group i p, m, s, k => p.run m s fun s' => k (s'.capture i s)
  | same i, m, s, k =>
    (s.captured? i).bind fun t => (s.pass? m.repeats t).bind k
  | ifGroup i p q, m, s, k =>
    if (s.captured? i).isSome then p.run m s k else q.run m s k
  | ahead holds p, m, s, k =>
    match p.run m s some with
    | some s' => if holds then k { s with groups := s'.groups } else none
    | none => if holds then none else k s
  | behind holds least _ p, m, s, k =>
    match (s.backBy? least).bind fun b => p.run m b some with
    | some s' => if holds then k { s with groups := s'.groups } else none
    | none => if holds then none else k s
  | atomic p, m, s, k => (p.run m s some).bind k
  | within on off p, m, s, k => p.run (m.switch on off) s k

/-- The first spot from which the pattern is met, in a text behind `before`. -/
def findFrom (p : Pattern) (m : Mode) (before : List Char) (passed : Nat) :
    List Char → Option (List Char)
  | [] => (p.run m ⟨before, [], passed, []⟩ some).map fun _ => []
  | c :: r =>
    match p.run m ⟨before, c :: r, passed, []⟩ some with
    | some _ => some (c :: r)
    | none => findFrom p m (c :: before) (passed + 1) r

/-- The text from the first place at which the pattern is met. -/
def find? (p : Pattern) (m : Mode) (t : List Char) : Option (List Char) :=
  findFrom p m [] 0 t

/-- The pattern is met somewhere in the text. -/
def occurs (p : Pattern) (m : Mode) (t : List Char) : Bool :=
  (p.find? m t).isSome

end QueryTutor.Pattern
