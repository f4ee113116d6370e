import QueryTutor.Pattern.Basic
import QueryTutor.Pattern.Source
import QueryTutor.Text.Letter

/-!
# Switches

The switches written behind the question mark of a group: for the whole pattern, or for the group
alone.
-/

namespace QueryTutor.Pattern

open Text

/-- The switch of a letter. -/
def flag? : List Char → Option Flag
  | ['i'] => some .ignoreCase
  | ['m'] => some .multiline
  | ['s'] => some .dotAll
  | ['x'] => some .verbose
  | ['a'] => some .ascii
  | ['u'] => some .unicode
  | ['L'] => some .locale
  | ['t'] => some .template
  | _ => none

/-- The switches that choose an alphabet; at most one of them can be on. -/
def Flag.isType (f : Flag) : Bool :=
  f == .ascii || f == .unicode || f == .locale

/-- The symbol is a letter. -/
def isLetterSymbol : List Char → Bool
  | [c] => isLetter c
  | _ => false

/-- Switches for the whole pattern, or those turned on and off for a group. -/
inductive Switches where
  | whole (on : List Flag)
  | part (on off : List Flag)

/-- The switches turned on from the symbol `t` on, in at most `n` symbols, and the symbol that ends
them. -/
def flagsOn : Nat → List Flag → List Char → Source → Except Error (List Flag × List Char × Source)
  | 0, _, _, s => fail .missingFlagEnd s.place
  | n + 1, on, t, s =>
    match flag? t with
    | none =>
      if t == [')'] || t == ['-'] || t == [':'] then .ok (on, t, s)
      else fail (if isLetterSymbol t then .unknownFlag else .missingFlagEnd) (s.place - t.length)
    | some f =>
      if f == .locale then fail .localeFlag s.place
      else if f.isType && on.any (fun g => g.isType && g != f) then fail .clashingFlags s.place
      else
        match s.head? with
        | none => fail .missingFlagEnd s.place
        | some t' => do flagsOn n (on ++ [f]) t' (← s.next)

/-- The switches turned off from the symbol `t` on, in at most `n` symbols. -/
def flagsOff : Nat → List Flag → List Char → Source → Except Error (List Flag × Source)
  | 0, _, _, s => fail .missingColon s.place
  | n + 1, off, t, s =>
    match flag? t with
    | none =>
      if t == [':'] && !off.isEmpty then .ok (off, s)
      else
        let missing := if off.isEmpty then Fault.missingFlag else .missingColon
        fail (if isLetterSymbol t then .unknownFlag else missing) (s.place - t.length)
    | some f =>
      if f.isType then fail .typeFlagOff s.place
      else
        match s.head? with
        | none => fail .missingColon s.place
        | some t' => do flagsOff n (off ++ [f]) t' (← s.next)

/-- The switches that begin with the symbol `t`, which has just been read. -/
def readSwitches (t : List Char) (s : Source) : Except Error (Switches × Source) := do
  let n := s.symbols.length + 1
  let (on, stop, s) ← flagsOn n [] t s
  if stop == [')'] then return (.whole on, s)
  else if on.contains .template then fail .globalFlagOn (s.place - 1)
  else
    let (off, s) ←
      if stop == ['-'] then
        match s.head? with
        | none => fail .missingFlag s.place
        | some t' => do flagsOff n [] t' (← s.next)
      else pure ([], s)
    if off.contains .template then fail .globalFlagOff (s.place - 1)
    else if on.any off.contains then fail .flagOnAndOff (s.place - 1)
    else return (.part on off, s)

end QueryTutor.Pattern
