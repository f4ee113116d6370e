import QueryTutor.Pattern.Basic
import QueryTutor.Pattern.Source

/-!
# Escapes and sets

Characters written by a backslash, and sets of characters in square brackets.
-/

namespace QueryTutor.Pattern

/-- A digit of base eight. -/
def isOctal (c : Char) : Bool :=
  '0' ≤ c && c ≤ '7'

/-- The value of a digit of base sixteen. -/
def hexValue? (c : Char) : Option Nat :=
  if c.isDigit then some (c.toNat - 48)
  else if 'a' ≤ c && c ≤ 'f' then some (c.toNat - 87)
  else if 'A' ≤ c && c ≤ 'F' then some (c.toNat - 55)
  else none

/-- The value of digits of a base. -/
def digitsValue (base : Nat) (ds : List Char) : Nat :=
  ds.foldl (fun n d => n * base + (hexValue? d).getD 0) 0

/-- The control characters that have a letter of their own, and the backslash. -/
def controlCode? : Char → Option Nat
  | 'a' => some 7
  | 'b' => some 8
  | 't' => some 9
  | 'n' => some 10
  | 'v' => some 11
  | 'f' => some 12
  | 'r' => some 13
  | '\\' => some 92
  | _ => none

/-- The named class of a letter; a capital means all other characters. -/
def categoryItem? : Char → Option SetItem
  | 'd' => some (.category .digit false)
  | 'D' => some (.category .digit true)
  | 's' => some (.category .blank false)
  | 'S' => some (.category .blank true)
  | 'w' => some (.category .word false)
  | 'W' => some (.category .word true)
  | _ => none

/-- The place of a letter. -/
def place? : Char → Option Place
  | 'A' => some .textStart
  | 'Z' => some .textEnd
  | 'b' => some .wordEdge
  | 'B' => some .noWordEdge
  | _ => none

/-- The code point of exactly `n` digits of base sixteen behind the letter `c`. -/
def hexEscape (c : Char) (n : Nat) (s : Source) : Except Error (Nat × Source) := do
  let (ds, s) ← s.takeUpTo (fun d => (hexValue? d).isSome) n
  let escape := '\\' :: c :: ds
  if ds.length != n then fail (.incompleteEscape escape) (s.place - escape.length)
  else if digitsValue 16 ds > 0x10ffff then fail (.badEscape escape) (s.place - escape.length)
  else return (digitsValue 16 ds, s)

/-- The code point of a character by its name in braces.  No names are known. -/
def nameEscape (s : Source) : Except Error (Nat × Source) := do
  if !s.meets '\x7b' then fail .missingBrace s.place
  else
    let (name, s) ← (← s.next).name "character name" '\x7d'
    fail (.unknownCharacter name) (s.place - (name.length + 4))

/-- The code point of up to three digits of base eight, the first of which is `c`. -/
def octalEscape (c : Char) (s : Source) : Except Error (Nat × Source) := do
  let (ds, s) ← s.takeUpTo isOctal 2
  let escape := '\\' :: c :: ds
  let value := digitsValue 8 (c :: ds)
  if value > 255 then fail (.octalTooLarge escape) (s.place - escape.length) else return (value, s)

/-- The escapes by code point, which mean the same inside and outside of sets. -/
def codeEscape? (c : Char) (s : Source) : Option (Except Error (Nat × Source)) :=
  match c with
  | 'x' => some (hexEscape c 2 s)
  | 'u' => some (hexEscape c 4 s)
  | 'U' => some (hexEscape c 8 s)
  | 'N' => some (nameEscape s)
  | _ => none

/-- A character behind a backslash that has no other meaning; letters and digits are kept for later
use. -/
def plainEscape (c : Char) (s : Source) : Except Error (Nat × Source) :=
  if c.isAlphanum then fail (.badEscape ['\\', c]) (s.place - 2) else .ok (c.toNat, s)

/-- The part of a set that the escape of `c` stands for. -/
def setEscape (c : Char) (s : Source) : Except Error (SetItem × Source) :=
  let single := fun (n, s) => (SetItem.range n n, s)
  match controlCode? c, categoryItem? c, codeEscape? c s with
  | some n, _, _ => .ok (.range n n, s)
  | none, some item, _ => .ok (item, s)
  | none, none, some r => r.map single
  | none, none, none => (if isOctal c then octalEscape c s else plainEscape c s).map single

/-- The code point of a set part that is a single character. -/
def SetItem.code? : SetItem → Option Nat
  | .range lo hi => if lo == hi then some lo else none
  | .category _ _ => none

/-- The part of a set that a symbol stands for. -/
def setSymbol (t : List Char) (s : Source) : Except Error (SetItem × Source) :=
  match t with
  | ['\\', c] => setEscape c s
  | c :: _ => .ok (.range c.toNat c.toNat, s)
  | [] => .ok (.range 0 0, s)

/-- The parts of a set that opened at `start`, behind the parts read so far, last first. -/
def setUpTo (start : Nat) : Nat → List SetItem → Source → Except Error (List SetItem × Source)
  | 0, _, _ => fail .unterminatedSet start
  | n + 1, items, s =>
    match s.head? with
    | none => fail .unterminatedSet start
    | some this => do
      let s ← s.next
      if this == [']'] && !items.isEmpty then return (items.reverse, s)
      else
        let (item, s) ← setSymbol this s
        if !s.meets '-' then setUpTo start n (item :: items) s
        else
          let s ← s.next
          match s.head? with
          | none => fail .unterminatedSet start
          | some that =>
            let s ← s.next
            if that == [']'] then return ((.range 45 45 :: item :: items).reverse, s)
            else
              let (item', s) ← setSymbol that s
              let bad : Except Error (List SetItem × Source) :=
                fail (.badRange this that) (s.place - (this.length + 1 + that.length))
              match item.code?, item'.code? with
              | some lo, some hi =>
                if hi < lo then bad else setUpTo start n (.range lo hi :: items) s
              | _, _ => bad

/-- The set whose opening bracket has just been read. -/
def readSet (s : Source) : Except Error (Pattern × Source) := do
  let start := s.place - 1
  let outside := s.meets '^'
  let s ← if outside then s.next else pure s
  let (items, s) ← setUpTo start (s.symbols.length + 1) [] s
  return (.set outside items, s)

/-- The pattern for one code point; a half of a surrogate pair is no character of any text. -/
def ofCode (n : Nat) : Pattern :=
  if 0xd800 ≤ n && n < 0xe000 then .set false [] else .char (Char.ofNat n)

end QueryTutor.Pattern
