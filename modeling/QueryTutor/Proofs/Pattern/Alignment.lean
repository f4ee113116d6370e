import Mathlib.Data.List.TakeWhile
import Mathlib.Data.Option.Basic
import QueryTutor.Mistake.Catalog
import QueryTutor.Proofs.Pattern.Meeting
import QueryTutor.Proofs.Text.Layout

/-!
# Alignment

Spots of two texts that differ in layout only, and how single characters are met from them in the
mode that mistakes are searched in.
-/

namespace QueryTutor.Pattern
open Text

/-- Case does not change what a character of a pattern is met by. -/
lemma meets_congr (e : Char) {c d : Char} (h : c.toLower = d.toLower) :
    detectionMode.meets e c = detectionMode.meets e d := by
  have hm : ∀ x, detectionMode.meets e x = Fold.same e x := fun _ => rfl
  rw [hm, hm, Bool.eq_iff_iff, same_iff, same_iff, key_congr h]

/-- A character that is not white space is not met by white space. -/
lemma meets_blank {e c : Char} (he : isBlank e = false) (hc : isBlank c = true) :
    detectionMode.meets e c = false := by
  have hm : detectionMode.meets e c = Fold.same e c := rfl
  rw [hm, Bool.eq_false_iff, Ne, same_iff, (letterless hc).key]
  intro hkey
  rw [isBlank_of_key hc hkey] at he
  cases he

lemma meetsSet_congr (outside : Bool) (items : List SetItem) {c d : Char}
    (h : c.toLower = d.toLower) :
    detectionMode.meetsSet outside items c = detectionMode.meetsSet outside items d := by
  have hv : detectionMode.variants c = detectionMode.variants d := variants_congr h
  have hb : ∀ k, detectionMode.belongs c k = detectionMode.belongs d k := by
    intro k
    cases k with
    | digit => exact isDigit_congr h
    | blank => exact congrArg (· && true) (isBlank_congr h)
    | word => exact isWord_congr h
  have hitem : detectionMode.meetsItem c (detectionMode.variants c)
      = detectionMode.meetsItem d (detectionMode.variants d) := by
    funext item
    cases item with
    | range lo hi => rw [Mode.meetsItem, Mode.meetsItem, hv]
    | category k o => rw [Mode.meetsItem, Mode.meetsItem, hb]
  rw [Mode.meetsSet, Mode.meetsSet, hitem]

/-- The part of a set is met by the white space with this code point. -/
def itemHolds (n : Nat) : SetItem → Bool
  | .range lo hi => lo ≤ n && n ≤ hi
  | .category .blank outside => !outside
  | .category _ outside => outside

/-- The set is met by the white space with this code point. -/
def setHolds (outside : Bool) (items : List SetItem) (n : Nat) : Bool :=
  items.any (itemHolds n) != outside

/-- What a set is met by among white space. -/
lemma meetsSet_blank (outside : Bool) (items : List SetItem) {c : Char} (hc : isBlank c = true) :
    detectionMode.meetsSet outside items c = setHolds outside items c.toNat := by
  have hitem : detectionMode.meetsItem c (detectionMode.variants c) = itemHolds c.toNat := by
    have hv : detectionMode.variants c = [c.toNat] := (letterless hc).variants
    funext item
    cases item with
    | range lo hi => rw [hv, Mode.meetsItem, List.any_cons, List.any_nil, Bool.or_false, itemHolds]
    | category k o =>
      cases k with
      | digit =>
        have hd : detectionMode.belongs c .digit = false := (letterless hc).isDigit
        rw [Mode.meetsItem, hd]
        cases o <;> rfl
      | blank =>
        have hb : detectionMode.belongs c .blank = true := by
          have : detectionMode.belongs c .blank = (isBlank c && true) := rfl
          rw [this, hc, Bool.and_self]
        rw [Mode.meetsItem, hb]
        cases o <;> rfl
      | word =>
        have hw : detectionMode.belongs c .word = false := (letterless hc).isWord
        rw [Mode.meetsItem, hw]
        cases o <;> rfl
  rw [Mode.meetsSet, hitem, setHolds]

lemma repeats_congr {a b c d : Char} (h : a.toLower = b.toLower) (h' : c.toLower = d.toLower) :
    detectionMode.repeats a c = detectionMode.repeats b d := by
  have hr : ∀ x y, detectionMode.repeats x y = (lowerChar x == lowerChar y) := fun _ _ => rfl
  rw [hr, hr, lowerChar_congr h, lowerChar_congr h']

lemma repeats_blank {c d : Char} (hc : isBlank c = false) (hd : isBlank d = true) :
    detectionMode.repeats c d = false := by
  have hr : detectionMode.repeats c d = (lowerChar c == lowerChar d) := rfl
  rw [hr, beq_eq_false_iff_ne, (letterless hd).lowerChar]
  intro h
  rw [isBlank_of_lowerChar hd h] at hc
  cases hc

/-- A class of characters does not depend on case. -/
def IgnoresCase (f : Char → Bool) : Prop :=
  ∀ c d : Char, c.toLower = d.toLower → f c = f d

/-- A class of characters has no white space. -/
def Refuses (f : Char → Bool) : Prop :=
  ∀ c, isBlank c = true → f c = false

/-- A class of characters has all white space. -/
def Admits (f : Char → Bool) : Prop :=
  ∀ c, isBlank c = true → f c = true

/-- A set has no white space. -/
def setRefuses (outside : Bool) (items : List SetItem) : Bool :=
  blankCodes.all fun n => !setHolds outside items n

/-- A set has all white space. -/
def setAdmits (outside : Bool) (items : List SetItem) : Bool :=
  blankCodes.all (setHolds outside items)

lemma refuses_set {outside : Bool} {items : List SetItem} (h : setRefuses outside items = true) :
    Refuses (detectionMode.meetsSet outside items) := by
  intro c hc
  rw [meetsSet_blank _ _ hc]
  simpa using List.all_eq_true.1 h c.toNat ((isBlank_iff c).1 hc)

lemma admits_set {outside : Bool} {items : List SetItem} (h : setAdmits outside items = true) :
    Admits (detectionMode.meetsSet outside items) := by
  intro c hc
  rw [meetsSet_blank _ _ hc]
  exact List.all_eq_true.1 h c.toNat ((isBlank_iff c).1 hc)

/-- Two captured pieces of text are the same word but for case. -/
structure SameWord (w w' : List Char) : Prop where
  ne_nil : w ≠ []
  solid : ∀ c ∈ w, isBlank c = false
  same : w.map Char.toLower = w'.map Char.toLower

lemma solid_congr {w w' : List Char} (h : w.map Char.toLower = w'.map Char.toLower)
    (hw : ∀ c ∈ w, isBlank c = false) : ∀ c ∈ w', isBlank c = false := by
  intro c hc
  have hmem : c.toLower ∈ w.map Char.toLower := h ▸ List.mem_map_of_mem hc
  obtain ⟨d, hd, hdc⟩ := List.mem_map.1 hmem
  rw [← isBlank_congr hdc]
  exact hw d hd

lemma SameWord.symm {w w' : List Char} (h : SameWord w w') : SameWord w' w where
  ne_nil := by
    rintro rfl
    exact h.ne_nil (List.map_eq_nil_iff.1 h.same)
  solid := solid_congr h.same h.solid
  same := h.same.symm

/-- Two spots have the same wording before and behind them, and have captured the same words. -/
structure Aligned (s s' : Spot) : Prop where
  before : wording s.before = wording s'.before
  after : wording s.after = wording s'.after
  groups : ∀ i, Option.Rel SameWord (s.captured? i) (s'.captured? i)

lemma Aligned.symm {s s' : Spot} (h : Aligned s s') : Aligned s' s where
  before := h.before.symm
  after := h.after.symm
  groups i := by
    have hrel := h.groups i
    generalize s.captured? i = o, s'.captured? i = o' at hrel ⊢
    cases hrel with
    | some hw => exact .some hw.symm
    | none => exact .none

/-- A spot is blank if white space is next. -/
def Spot.isBlank (s : Spot) : Bool :=
  startsBlank s.after

/-- What has been captured at a spot are words. -/
def Spot.Solid (s : Spot) : Prop :=
  ∀ i w, s.captured? i = some w → w ≠ [] ∧ ∀ c ∈ w, Text.isBlank c = false

lemma Aligned.solid {s s' : Spot} (h : Aligned s s') : s.Solid := by
  intro i w hw
  have hrel := h.groups i
  rw [hw] at hrel
  generalize s'.captured? i = o' at hrel
  cases hrel with
  | some hw => exact ⟨hw.ne_nil, hw.solid⟩

lemma Aligned.isBlank_eq {s s' : Spot} (h : Aligned s s') : s.isBlank = s'.isBlank :=
  startsBlank_congr h.after

/-- The spot behind the white space that is next. -/
def Spot.skip (s : Spot) : Spot :=
  { s with
    before := (s.after.takeWhile Text.isBlank).reverse ++ s.before
    after := trimLeft s.after
    passed := s.passed + (s.after.takeWhile Text.isBlank).length }

/-- The spot behind the character that is next. -/
def Spot.behind (s : Spot) (c : Char) (r : List Char) : Spot :=
  { s with before := c :: s.before, after := r, passed := s.passed + 1 }

/-- A step leads behind the character that is next. -/
lemma step?_eq_some_iff_behind {f : Char → Bool} {s t : Spot} :
    s.step? f = some t ↔ ∃ c r, s.after = c :: r ∧ f c = true ∧ t = s.behind c r := by
  obtain ⟨before, after, passed, groups⟩ := s
  cases after with
  | nil =>
    constructor
    · intro h
      cases h
    · rintro ⟨c, r, h, -⟩
      cases h
  | cons d r =>
    simp only [Spot.step?]
    split_ifs with hd
    · constructor
      · intro h
        exact ⟨d, r, rfl, hd, (Option.some.inj h).symm⟩
      · rintro ⟨c, r, h, -, rfl⟩
        cases h
        rfl
    · constructor
      · intro h
        cases h
      · rintro ⟨c, r, h, hc, -⟩
        cases h
        exact absurd hc hd

lemma skip_of_not_isBlank {s : Spot} (h : s.isBlank = false) : s.skip = s := by
  have htake : s.after.takeWhile Text.isBlank = [] := by
    rw [Spot.isBlank] at h
    cases ha : s.after with
    | nil => rfl
    | cons c r =>
      rw [ha] at h
      exact List.takeWhile_cons_of_neg (by simpa [startsBlank] using h)
  rw [Spot.skip, htake, trimLeft_of_not_startsBlank h]
  rfl

lemma isBlank_skip (s : Spot) : s.skip.isBlank = false :=
  startsBlank_trimLeft s.after

lemma skip_behind {s : Spot} {c : Char} {r : List Char} (hs : s.after = c :: r)
    (hc : Text.isBlank c = true) : (s.behind c r).skip = s.skip := by
  simp only [Spot.skip, Spot.behind, hs, List.takeWhile_cons_of_pos hc, trimLeft_cons hc,
    List.reverse_cons, List.append_assoc, List.singleton_append, List.length_cons]
  rw [Nat.add_assoc, Nat.add_comm 1]

/-- Spots that are aligned are aligned behind the white space that is next. -/
lemma Aligned.skip {s s' : Spot} (h : Aligned s s') : Aligned s.skip s'.skip := by
  cases hb : s.isBlank with
  | false => rwa [skip_of_not_isBlank hb, skip_of_not_isBlank (h.isBlank_eq.symm.trans hb)]
  | true =>
    have front : ∀ t : Spot, t.isBlank = true →
        wording t.skip.before = ' ' :: wording (trimLeft t.before) := by
      intro t ht
      apply wording_append_blank
      · rw [Ne, List.reverse_eq_nil_iff]
        obtain ⟨before, after, passed, groups⟩ := t
        cases after with
        | nil => cases ht
        | cons c r =>
          have hc : Text.isBlank c = true := by simpa [Spot.isBlank, startsBlank] using ht
          dsimp only
          rw [List.takeWhile_cons_of_pos hc]
          exact List.cons_ne_nil _ _
      · intro c hc
        exact List.mem_takeWhile_imp (List.mem_reverse.1 hc)
    refine ⟨?_, wording_trimLeft_congr h.after, h.groups⟩
    rw [front s hb, front s' (h.isBlank_eq.symm.trans hb), wording_trimLeft_congr h.before]

/-- A character that is not white space leads from aligned spots to aligned spots. -/
lemma Aligned.behind {s s' : Spot} (h : Aligned s s') {c d : Char} {r r' : List Char}
    (hc : Text.isBlank c = false) (hcd : c.toLower = d.toLower) (hr : wording r = wording r') :
    Aligned (s.behind c r) (s'.behind d r') where
  before := by
    have hd : Text.isBlank d = false := isBlank_congr hcd ▸ hc
    rw [Spot.behind, Spot.behind, wording_cons hc, wording_cons hd, hcd, h.before]
  after := hr
  groups := h.groups

/-- What follows from aligned spots, where something other than white space is next. -/
lemma Aligned.exists_behind {s s' : Spot} (h : Aligned s s') {c : Char} {r : List Char}
    (hs : s.after = c :: r) (hc : Text.isBlank c = false) :
    ∃ d r', s'.after = d :: r' ∧ c.toLower = d.toLower ∧
      Aligned (s.behind c r) (s'.behind d r') := by
  have hw := h.after
  rw [hs] at hw
  obtain ⟨d, r', hs', hcd, hr⟩ := exists_of_wording_cons hc hw
  exact ⟨d, r', hs', hcd, h.behind hc hcd hr⟩

end QueryTutor.Pattern
