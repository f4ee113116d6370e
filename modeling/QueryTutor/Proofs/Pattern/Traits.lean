import QueryTutor.Proofs.Pattern.Alignment
import QueryTutor.Proofs.Pattern.Search

/-!
# Traits

How a pattern is read off to be found in a text or not whatever the layout: what is left to be met
is followed from the end of the pattern to its beginning, and each part keeps or loses some traits
of it.
-/

namespace QueryTutor.Pattern
open Text

/-- What is left to be met can be met from aligned spots alike. -/
def Carries (K K' : Spot → Prop) : Prop :=
  ∀ s s', Aligned s s' → K s → K' s'

/-- What is left to be met can be met from behind the white space that is next. -/
def CarriesPast (K K' : Spot → Prop) : Prop :=
  ∀ s s', Aligned s.skip s' → K s → K' s'

/-- What is left to be met cannot be met where white space is next. -/
def Barred (K : Spot → Prop) : Prop :=
  ∀ s, s.Solid → s.isBlank = true → ¬ K s

/-- Some of the three. -/
structure Traits where
  carries : Bool
  past : Bool
  barred : Bool
  deriving DecidableEq, Repr

namespace Traits

/-- Nothing is left to be met. -/
def final : Traits :=
  ⟨true, true, false⟩

/-- Nothing is known of what is left. -/
def unknown : Traits :=
  ⟨false, false, false⟩

/-- The traits of what is met if spots are carried, where white space may be barred. -/
def of (carries barred : Bool) : Traits :=
  ⟨carries, carries && barred, barred⟩

/-- The traits in both. -/
def inter (τ ρ : Traits) : Traits :=
  ⟨τ.carries && ρ.carries, τ.past && ρ.past, τ.barred && ρ.barred⟩

/-- The traits in one of both. -/
def union (τ ρ : Traits) : Traits :=
  ⟨τ.carries || ρ.carries, τ.past || ρ.past, τ.barred || ρ.barred⟩

/-- What is left has the traits, in both texts. -/
structure Hold (τ : Traits) (K K' : Spot → Prop) : Prop where
  carries : τ.carries = true → Carries K K'
  past : τ.past = true → CarriesPast K K'
  barred : τ.barred = true → Barred K

end Traits

/-- All the text that the pattern goes over is other than white space. -/
def isSolid : Pattern → Bool
  | empty | place _ | ahead _ _ => true
  | char c => !isBlank c
  | set outside items => setRefuses outside items
  | seq p q | alt p q => p.isSolid && q.isSolid
  | many _ _ _ p | group _ p => p.isSolid
  | _ => false

mutual

/-- The traits of a pattern before something with the given traits. -/
def traits : Pattern → Traits → Traits
  | empty, τ => τ
  | char c, τ => if isBlank c then .unknown else .of τ.carries true
  | set outside items, τ =>
    if setRefuses outside items then .of τ.carries true else .unknown
  | place .lineEnd, τ => ⟨false, τ.past, τ.barred⟩
  | place _, τ => .of τ.carries τ.barred
  | seq p q, τ => p.traits (q.traits τ)
  | alt p q, τ => (p.traits τ).inter (q.traits τ)
  | many _ least most p, τ =>
    if p.takesBlank && most.isNone && least ≤ 1 then ⟨τ.past, τ.past && least == 0, false⟩
    else
      -- what a repeat keeps, all repeats keep, and what the first one bars is barred
      (if (p.traits τ).inter τ = τ then τ else .unknown).union
        (.of (τ.carries && (p.traits (.of true false)).carries)
          ((p.traits .unknown).barred && (0 < least || τ.barred)))
  | group _ p, τ =>
    if p.isSolid && p.consumes then
      .of (p.traits (.of τ.carries false)).carries (p.traits .unknown).barred
    else .unknown
  | same _, τ => .of τ.carries true
  | ahead _ p, τ => .of (τ.carries && (p.traits .final).carries) τ.barred
  | _, _ => .unknown

/-- The pattern goes over any white space, one character at a time, and over another character
whatever its case. -/
def takesBlank : Pattern → Bool
  | any => true
  | set outside items => setAdmits outside items
  | seq (ahead false p) q =>
    (p.traits .final).carries && (p.traits .final).barred && q.takesBlank
  | _ => false

end

/-- The pattern is met from the beginning of a text only. -/
def isAnchored : Pattern → Bool
  | place .textStart | place .lineStart => true
  | seq p _ | group _ p => p.isAnchored
  | alt p q => p.isAnchored && q.isAnchored
  | _ => false

/-- The traits show that the pattern is found whatever the layout. -/
def ignoresLayout (p : Pattern) : Bool :=
  p.isPlain && ((p.traits .final).past || (p.isAnchored && (p.traits .final).carries))

end QueryTutor.Pattern
