import QueryTutor.Pattern.Basic
import QueryTutor.Pattern.Error

/-!
# Widths

How many characters a pattern can span.  A pattern that is looked for backwards must have a fixed
width.
-/

namespace QueryTutor.Pattern

/-- Stands for a width without bound. -/
def unbounded : Nat := 18446744073709551616

/-- The widest lookbehind. -/
def maxLookbehind : Nat := 4294967295

/-- The least and the greatest number of characters that a pattern spans, where `groups` gives those
of its groups. -/
def width (groups : List (Nat × Nat × Nat)) : Pattern → Nat × Nat
  | empty => (0, 0)
  | char _ => (1, 1)
  | any => (1, 1)
  | set _ _ => (1, 1)
  | place _ => (0, 0)
  | seq p q =>
    let (a, b) := p.width groups
    let (c, d) := q.width groups
    (min (a + c) unbounded, min (b + d) unbounded)
  | alt p q =>
    let (a, b) := p.width groups
    let (c, d) := q.width groups
    (min a c, max b d)
  | many _ least most p =>
    let (a, b) := p.width groups
    let high := match most with
      | some m => b * m
      | none => if b == 0 then 0 else unbounded
    (min (a * least) unbounded, min high unbounded)
  | group _ p => p.width groups
  | same i => (groups.lookup i).getD (0, 0)
  | ifGroup _ p q =>
    let (a, b) := p.width groups
    let (c, d) := q.width groups
    (min a c, max b d)
  | ahead _ _ => (0, 0)
  | behind _ _ _ _ => (0, 0)
  | atomic p => p.width groups
  | within _ _ p => p.width groups

/-- The first fault of a pattern that has no place: a lookbehind without fixed width, or repeats in
a template. -/
def faultOfForm (template : Bool) : Pattern → Option Fault
  | seq p q => (faultOfForm template p).or (faultOfForm template q)
  | alt p q => (faultOfForm template p).or (faultOfForm template q)
  | many greed _ _ p =>
    if template then
      some (.templateRepeat (match greed with
        | .greedy => "MAX_REPEAT"
        | .lazy => "MIN_REPEAT"
        | .possessive => "POSSESSIVE_REPEAT"))
    else faultOfForm template p
  | group _ p => faultOfForm template p
  | ifGroup _ p q => (faultOfForm template p).or (faultOfForm template q)
  | ahead _ p => faultOfForm template p
  | behind _ least most p =>
    if least > maxLookbehind then some .lookbehindFar
    else if least != most then some .lookbehindWidth
    else faultOfForm template p
  | atomic p => faultOfForm template p
  | within _ _ p => faultOfForm template p
  | _ => none

end QueryTutor.Pattern
