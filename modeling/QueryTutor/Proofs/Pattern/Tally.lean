import QueryTutor.Proofs.Pattern.Alignment
import QueryTutor.Proofs.Pattern.Search

/-!
# Tally

How often a letter stands in what a pattern is met by, where the pattern itself tells.  Meetings of a
pattern that hold a letter a fixed number of times, and end in it, end in the order in which they
begin.
-/

namespace QueryTutor.Pattern
open Text

/-- The character is the letter, in either case. -/
def isLetter (a d : Char) : Bool :=
  d.toLower == a

/-- The letter stands for itself, and for nothing but itself and its capital of ASCII. -/
structure Sole (a : Char) : Prop where
  standsAlone : standsAlone a = true
  key : Fold.key a = a

variable {a : Char}

/-- A character of a pattern is met by a sole letter exactly if it stands for it. -/
lemma Sole.key_eq_iff (ha : Sole a) {c d : Char} (h : detectionMode.meets c d = true) :
    Fold.key c = a ↔ isLetter a d = true := by
  have hkey : Fold.key c = Fold.key d := (same_iff c d).1 h
  rw [hkey, isLetter, beq_iff_eq]
  constructor
  · exact toLower_eq_of_key ha.standsAlone
  · intro hd
    rw [← key_congr (toLower_toLower d), hd, ha.key]

/-- A set that does not hold the letter is met by nothing that is the letter. -/
lemma Sole.not_isLetter_of_meetsSet (ha : Sole a) {outside : Bool} {items : List SetItem}
    (hset : detectionMode.meetsSet outside items a = false) {d : Char}
    (h : detectionMode.meetsSet outside items d = true) : isLetter a d = false := by
  rw [Bool.eq_false_iff, isLetter, Ne, beq_iff_eq]
  intro hd
  have hlower : a.toLower = a := toLower_eq_of_key ha.standsAlone ha.key
  rw [meetsSet_congr outside items (hd.trans hlower.symm), hset] at h
  cases h

/-- How often the letter stands in all that the pattern is met by, if that is always as often. -/
def tally (a : Char) : Pattern → Option Nat
  | empty | place _ | ahead _ _ | behind _ _ _ _ => some 0
  | char c => some (if Fold.key c = a then 1 else 0)
  | set outside items => if detectionMode.meetsSet outside items a then none else some 0
  | seq p q => (p.tally a).bind fun m => (q.tally a).map (m + ·)
  | alt p q => if p.tally a = q.tally a then p.tally a else none
  | many _ _ _ p => if p.tally a = some 0 then some 0 else none
  | group _ p | atomic p => p.tally a
  | any | same _ | ifGroup _ _ _ | within _ _ _ => none

/-- The letter stands as often between the two spots. -/
def Counts (a : Char) (n : Nat) (s t : Spot) : Prop :=
  ∃ w, Apart w s t ∧ w.countP (isLetter a) = n

lemma Counts.of_eq {s t : Spot} (h : t = s) : Counts a 0 s t := by
  rw [h]
  exact ⟨[], .refl s, rfl⟩

lemma Counts.trans {m n : Nat} {s t u : Spot} (h : Counts a m s t) (h' : Counts a n t u) :
    Counts a (m + n) s u := by
  obtain ⟨w, hw, rfl⟩ := h
  obtain ⟨v, hv, rfl⟩ := h'
  exact ⟨w ++ v, hw.trans hv, List.countP_append⟩

lemma counts_step {f : Char → Bool} {n : Nat} {s t : Spot} (h : s.step? f = some t)
    (hn : ∀ d, f d = true → [d].countP (isLetter a) = n) : Counts a n s t := by
  obtain ⟨d, hd, hap, -⟩ := step?_eq_some_iff.1 h
  exact ⟨[d], hap, hn d hd⟩

/-- What a pattern is met by holds the letter as often as its tally says. -/
lemma Meets.counts (ha : Sole a) {p : Pattern} {n : Nat} (hp : p.tally a = some n) {s t : Spot}
    (h : p.Meets detectionMode s t) : Counts a n s t := by
  induction p generalizing n s t with
  | empty =>
    cases hp
    exact .of_eq h
  | char c =>
    cases hp
    refine counts_step h fun d hd => ?_
    rw [List.countP_singleton]
    exact if_congr (ha.key_eq_iff hd).symm rfl rfl
  | any => cases hp
  | set outside items =>
    rw [tally] at hp
    split_ifs at hp with hset
    cases hp
    refine counts_step h fun d hd => ?_
    rw [List.countP_singleton, ha.not_isLetter_of_meetsSet (Bool.eq_false_iff.2 hset) hd]
    rfl
  | place p =>
    cases hp
    exact .of_eq h.2
  | seq p q ihp ihq =>
    obtain ⟨u, hu, ht⟩ := h
    obtain ⟨k, hk, hp⟩ := Option.bind_eq_some_iff.1 hp
    obtain ⟨l, hl, rfl⟩ := Option.map_eq_some_iff.1 hp
    exact (ihp hk hu).trans (ihq hl ht)
  | alt p q ihp ihq =>
    rw [tally] at hp
    split_ifs at hp with heq
    exact h.elim (ihp hp) (ihq (heq ▸ hp))
  | many greed least most p ih =>
    rw [tally] at hp
    split_ifs at hp with hzero
    cases hp
    obtain ⟨k, -, -, ht⟩ := h
    induction k generalizing s with
    | zero => exact .of_eq ht
    | succ k ihk =>
      obtain ⟨u, hu, ht⟩ := ht
      exact (ih hzero hu).trans (ihk ht)
  | group i p ih =>
    obtain ⟨u, hu, rfl⟩ := h
    obtain ⟨w, hw, hn⟩ := ih hp hu
    exact ⟨w, ⟨hw.after, hw.before, hw.passed⟩, hn⟩
  | same i => cases hp
  | ifGroup i p q => cases hp
  | ahead holds p =>
    cases hp
    exact .of_eq h.1
  | behind holds least most p =>
    cases hp
    exact .of_eq h.1
  | atomic p ih => exact ih hp h
  | within on off p => cases hp

/-- The pattern is met over nothing. -/
def stays : Pattern → Bool
  | empty | place _ | ahead _ _ | behind _ _ _ _ => true
  | _ => false

lemma Meets.eq_of_stays {p : Pattern} (hp : p.stays = true) {m : Mode} {s t : Spot}
    (h : p.Meets m s t) : t = s := by
  cases p with
  | empty => exact h
  | place p => exact h.2
  | ahead holds p => exact h.1
  | behind holds least most p => exact h.1
  | _ => cases hp

/-- All that the pattern is met by ends in the letter. -/
def endsIn (a : Char) : Pattern → Bool
  | char c => Fold.key c == a
  | seq p q => q.endsIn a || (q.stays && p.endsIn a)
  | alt p q => p.endsIn a && q.endsIn a
  | group _ p | atomic p => p.endsIn a
  | _ => false

lemma Meets.ends (ha : Sole a) {p : Pattern} (hp : p.endsIn a = true) {s t : Spot}
    (h : p.Meets detectionMode s t) : ∃ w d, Apart (w ++ [d]) s t ∧ isLetter a d = true := by
  induction p generalizing s t with
  | char c =>
    obtain ⟨d, hd, hap, -⟩ := step?_eq_some_iff.1 h
    exact ⟨[], d, hap, (ha.key_eq_iff hd).1 (beq_iff_eq.1 hp)⟩
  | seq p q ihp ihq =>
    obtain ⟨u, hu, ht⟩ := h
    rw [endsIn, Bool.or_eq_true, Bool.and_eq_true] at hp
    obtain hq | ⟨hstays, hp⟩ := hp
    · obtain ⟨v, hv⟩ := hu.apart
      obtain ⟨w, d, hw, hd⟩ := ihq hq ht
      exact ⟨v ++ w, d, by rw [List.append_assoc]; exact hv.trans hw, hd⟩
    · rw [ht.eq_of_stays hstays]
      exact ihp hp hu
  | alt p q ihp ihq =>
    obtain ⟨hp, hq⟩ := Bool.and_eq_true_iff.1 hp
    exact h.elim (ihp hp) (ihq hq)
  | group i p ih =>
    obtain ⟨u, hu, rfl⟩ := h
    obtain ⟨w, d, hw, hd⟩ := ih hp hu
    exact ⟨w, d, ⟨hw.after, hw.before, hw.passed⟩, hd⟩
  | atomic p ih => exact ih hp h
  | _ => cases hp

/-! ## Places of a text -/

/-- The spot of a text behind its first characters, as many as `i`. -/
def spotAt (x : List Char) (i : Nat) : Spot :=
  .between (x.take i) (x.drop i)

lemma Apart.take_eq {x w : List Char} {i j : Nat} (h : Apart w (spotAt x i) (spotAt x j)) :
    x.take j = x.take i ++ w := by
  have hbefore : (x.take j).reverse = w.reverse ++ (x.take i).reverse := h.before
  rw [← List.reverse_append] at hbefore
  exact List.reverse_inj.1 hbefore

/-- In a text, what the pattern is met by ends in the order in which it begins. -/
def Orderly (p : Pattern) (x : List Char) : Prop :=
  ∀ i j i' j', i ≤ i' → j ≤ x.length → p.Meets detectionMode (spotAt x i) (spotAt x j) →
    p.Meets detectionMode (spotAt x i') (spotAt x j') → j ≤ j'

/-- A pattern that is met by the letter a fixed number of times, and ends in it, is orderly. -/
lemma orderly_of_tally (ha : Sole a) {p : Pattern} {n : Nat} (hp : p.tally a = some n)
    (hends : p.endsIn a = true) (x : List Char) : Orderly p x := by
  intro i j i' j' hi hj h h'
  by_contra hlt
  obtain ⟨v, hv, hn⟩ := h.counts ha hp
  obtain ⟨v', hv', hn'⟩ := h'.counts ha hp
  obtain ⟨w, d, hw, hd⟩ := h.ends ha hends
  have hfront : v = w ++ [d] := List.append_cancel_left (hv.take_eq.symm.trans hw.take_eq)
  -- the second one ends within the first one, before the letter at its end
  have hwithin : x.take j' = (x.take i ++ w).take j' := by
    have htake : x.take j' = (x.take j).take j' := by
      rw [List.take_take, Nat.min_eq_left (Nat.le_of_not_le hlt)]
    have hlen := congrArg List.length hw.take_eq
    rw [List.length_take, Nat.min_eq_left hj, ← List.append_assoc, List.length_append,
      List.length_singleton] at hlen
    rw [htake, hw.take_eq, ← List.append_assoc, List.take_append_of_le_length (by omega)]
  have hless : (x.take j').countP (isLetter a) ≤ (x.take i ++ w).countP (isLetter a) := by
    rw [hwithin]
    exact (List.take_sublist _ _).countP_le
  have hmore : (x.take i).countP (isLetter a) ≤ (x.take i').countP (isLetter a) :=
    (List.take_prefix_take_left hi).sublist.countP_le
  rw [hv'.take_eq, List.countP_append, List.countP_append, hn'] at hless
  rw [hfront, List.countP_append, List.countP_singleton, if_pos hd] at hn
  omega

end QueryTutor.Pattern
