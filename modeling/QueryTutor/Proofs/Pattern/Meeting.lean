import Mathlib.Tactic.Common
import QueryTutor.Pattern.Search

/-!
# Meeting

What it means that a pattern is met between two spots of a text, without regard to the order in
which ways are tried, and what a meeting leaves unchanged.
-/

namespace QueryTutor.Pattern

/-- A relation between spots, a number of times one after the other. -/
def Times (R : Spot → Spot → Prop) : Nat → Spot → Spot → Prop
  | 0, s, t => t = s
  | n + 1, s, t => ∃ u, R s u ∧ Times R n u t

lemma Times.trans {R : Spot → Spot → Prop} {m n : Nat} {s t u : Spot} (h : Times R m s t)
    (h' : Times R n t u) : Times R (m + n) s u := by
  induction m generalizing s with
  | zero =>
    cases h
    rwa [Nat.zero_add]
  | succ m ih =>
    obtain ⟨v, hv, ht⟩ := h
    rw [Nat.succ_add]
    exact ⟨v, hv, ih ht⟩

/-- The pattern is met from the first spot to the second. -/
def Meets : Pattern → Mode → Spot → Spot → Prop
  | empty, _, s, t => t = s
  | char c, m, s, t => s.step? (m.meets c) = some t
  | any, m, s, t => s.step? (fun c => m.dotAll || c != '\n') = some t
  | set outside items, m, s, t => s.step? (m.meetsSet outside items) = some t
  | place p, m, s, t => s.isAt m p = true ∧ t = s
  | seq p q, m, s, t => ∃ u, Meets p m s u ∧ Meets q m u t
  | alt p q, m, s, t => Meets p m s t ∨ Meets q m s t
  | many _ least most p, m, s, t =>
    ∃ n, least ≤ n ∧ (∀ b, most = some b → n ≤ b) ∧ Times (Meets p m) n s t
  | group i p, m, s, t => ∃ u, Meets p m s u ∧ t = u.capture i s
  | same i, m, s, t => ∃ w, s.captured? i = some w ∧ s.pass? m.repeats w = some t
  | ifGroup i p q, m, s, t => if (s.captured? i).isSome then Meets p m s t else Meets q m s t
  | ahead holds p, m, s, t => t = s ∧ (holds = true ↔ ∃ u, Meets p m s u)
  | behind holds least _ p, m, s, t =>
    t = s ∧ (holds = true ↔ ∃ b u, s.backBy? least = some b ∧ Meets p m b u)
  | atomic p, m, s, t => Meets p m s t
  | within on off p, m, s, t => Meets p (m.switch on off) s t

/-- The second spot lies behind the first, with the text `w` between them. -/
structure Apart (w : List Char) (s t : Spot) : Prop where
  after : s.after = w ++ t.after
  before : t.before = w.reverse ++ s.before
  passed : t.passed = s.passed + w.length

lemma Apart.refl (s : Spot) : Apart [] s s :=
  ⟨rfl, rfl, rfl⟩

lemma Apart.trans {w v : List Char} {s t u : Spot} (h : Apart w s t) (h' : Apart v t u) :
    Apart (w ++ v) s u where
  after := by rw [h.after, h'.after, List.append_assoc]
  before := by rw [h'.before, h.before, List.reverse_append, List.append_assoc]
  passed := by rw [h'.passed, h.passed, List.length_append, Nat.add_assoc]

/-- One step goes over one character, and captures nothing. -/
lemma step?_eq_some_iff {p : Char → Bool} {s t : Spot} :
    s.step? p = some t ↔ ∃ c, p c = true ∧ Apart [c] s t ∧ t.groups = s.groups := by
  obtain ⟨before, after, passed, groups⟩ := s
  cases after with
  | nil => exact ⟨nofun, fun ⟨c, _, h, _⟩ => nomatch h.after⟩
  | cons d r =>
    constructor
    · intro h
      simp only [Spot.step?] at h
      split_ifs at h with hd
      cases h
      exact ⟨d, hd, ⟨rfl, rfl, rfl⟩, rfl⟩
    · rintro ⟨c, hc, h, hg⟩
      obtain ⟨rfl, rfl⟩ := List.cons.inj h.after
      obtain ⟨before', after', passed', groups'⟩ := t
      simp only [Spot.step?, if_pos hc, Option.some.injEq, Spot.mk.injEq]
      exact ⟨h.before.symm, rfl, h.passed.symm, hg.symm⟩

/-- Passing over a piece of text goes over as much text, and captures nothing. -/
lemma pass?_eq_some {p : Char → Char → Bool} {w : List Char} {s t : Spot}
    (h : s.pass? p w = some t) :
    ∃ v, List.Forall₂ (fun c d => p c d = true) w v ∧ Apart v s t ∧ t.groups = s.groups := by
  induction w generalizing s with
  | nil =>
    cases h
    exact ⟨[], .nil, .refl _, rfl⟩
  | cons c w ih =>
    obtain ⟨u, hu, ht⟩ := Option.bind_eq_some_iff.1 h
    obtain ⟨d, hd, hsu, hg⟩ := step?_eq_some_iff.1 hu
    obtain ⟨v, hv, hut, hg'⟩ := ih ht
    exact ⟨d :: v, .cons hd hv, hsu.trans hut, hg'.trans hg⟩

/-- A piece of text is passed over if the text begins with its like. -/
lemma exists_pass? {p : Char → Char → Bool} {w v : List Char} {s : Spot} {r : List Char}
    (h : List.Forall₂ (fun c d => p c d = true) w v) (hs : s.after = v ++ r) :
    ∃ t, s.pass? p w = some t ∧ Apart v s t ∧ t.groups = s.groups := by
  induction h generalizing s with
  | nil => exact ⟨s, rfl, .refl s, rfl⟩
  | @cons c d w v hcd _ ih =>
    let u : Spot := ⟨d :: s.before, v ++ r, s.passed + 1, s.groups⟩
    have hsu : Apart [d] s u := ⟨hs, rfl, rfl⟩
    have hu : s.step? (p c) = some u := step?_eq_some_iff.2 ⟨d, hcd, hsu, rfl⟩
    obtain ⟨t, ht, hut, hg⟩ := ih (s := u) rfl
    exact ⟨t, by rw [Spot.pass?, hu, Option.bind_some, ht], hsu.trans hut, hg⟩

/-- What each of several steps leaves behind, all of them leave behind. -/
lemma Times.apart {R : Spot → Spot → Prop} (hR : ∀ s t, R s t → ∃ w, Apart w s t) {n : Nat}
    {s t : Spot} (h : Times R n s t) : ∃ w, Apart w s t := by
  induction n generalizing s with
  | zero =>
    cases h
    exact ⟨[], .refl _⟩
  | succ n ih =>
    obtain ⟨u, hu, ht⟩ := h
    obtain ⟨w, hw⟩ := hR _ _ hu
    obtain ⟨v, hv⟩ := ih ht
    exact ⟨w ++ v, hw.trans hv⟩

/-- A pattern is met between spots that lie apart by some text. -/
lemma Meets.apart {p : Pattern} {m : Mode} {s t : Spot} (h : p.Meets m s t) :
    ∃ w, Apart w s t := by
  induction p generalizing m s t with
  | empty =>
    cases h
    exact ⟨[], .refl _⟩
  | char c =>
    obtain ⟨d, _, hd, _⟩ := step?_eq_some_iff.1 h
    exact ⟨_, hd⟩
  | any =>
    obtain ⟨d, _, hd, _⟩ := step?_eq_some_iff.1 h
    exact ⟨_, hd⟩
  | set outside items =>
    obtain ⟨d, _, hd, _⟩ := step?_eq_some_iff.1 h
    exact ⟨_, hd⟩
  | place p => exact h.2 ▸ ⟨[], .refl _⟩
  | seq p q ihp ihq =>
    obtain ⟨u, hu, ht⟩ := h
    obtain ⟨w, hw⟩ := ihp hu
    obtain ⟨v, hv⟩ := ihq ht
    exact ⟨w ++ v, hw.trans hv⟩
  | alt p q ihp ihq => exact h.elim ihp ihq
  | many greed least most p ih =>
    obtain ⟨n, -, -, ht⟩ := h
    exact ht.apart fun _ _ => ih
  | group i p ih =>
    obtain ⟨u, hu, rfl⟩ := h
    obtain ⟨w, hw⟩ := ih hu
    exact ⟨w, hw.after, hw.before, hw.passed⟩
  | same i =>
    obtain ⟨w, _, ht⟩ := h
    obtain ⟨v, _, hv, _⟩ := pass?_eq_some ht
    exact ⟨v, hv⟩
  | ifGroup i p q ihp ihq =>
    simp only [Meets] at h
    split_ifs at h
    · exact ihp h
    · exact ihq h
  | ahead holds p => exact h.1 ▸ ⟨[], .refl _⟩
  | behind holds least most p => exact h.1 ▸ ⟨[], .refl _⟩
  | atomic p ih => exact ih h
  | within on off p ih => exact ih h

/-- Every meeting of the pattern goes over some text. -/
def consumes : Pattern → Bool
  | char _ | any | set _ _ => true
  | seq p q => p.consumes || q.consumes
  | alt p q | ifGroup _ p q => p.consumes && q.consumes
  | many _ least _ p => 0 < least && p.consumes
  | group _ p | atomic p | within _ _ p => p.consumes
  | empty | place _ | same _ | ahead _ _ | behind _ _ _ _ => false

/-- A pattern that consumes is met between different spots. -/
lemma Meets.passed_lt {p : Pattern} {m : Mode} {s t : Spot} (h : p.Meets m s t)
    (hp : p.consumes = true) : s.passed < t.passed := by
  have le : ∀ {q : Pattern} {m : Mode} {s t : Spot}, q.Meets m s t → s.passed ≤ t.passed := by
    intro q m s t h
    obtain ⟨w, hw⟩ := h.apart
    exact hw.passed ▸ Nat.le_add_right _ _
  have step : ∀ {f : Char → Bool} {s t : Spot}, s.step? f = some t → s.passed < t.passed := by
    intro f s t h
    obtain ⟨d, _, hd, _⟩ := step?_eq_some_iff.1 h
    exact hd.passed ▸ Nat.lt_succ_self _
  induction p generalizing m s t with
  | empty => cases hp
  | char c => exact step h
  | any => exact step h
  | set outside items => exact step h
  | place p => cases hp
  | seq p q ihp ihq =>
    obtain ⟨u, hu, ht⟩ := h
    obtain hp | hq := Bool.or_eq_true_iff.1 hp
    · exact Nat.lt_of_lt_of_le (ihp hu hp) (le ht)
    · exact Nat.lt_of_le_of_lt (le hu) (ihq ht hq)
  | alt p q ihp ihq =>
    obtain ⟨hp, hq⟩ := Bool.and_eq_true_iff.1 hp
    exact h.elim (ihp · hp) (ihq · hq)
  | many greed least most p ih =>
    obtain ⟨n, hn, _, ht⟩ := h
    obtain ⟨h0, hp⟩ := Bool.and_eq_true_iff.1 hp
    cases n with
    | zero => exact absurd (of_decide_eq_true h0) (by omega)
    | succ n =>
      obtain ⟨u, hu, ht⟩ := ht
      obtain ⟨w, hw⟩ := ht.apart fun _ _ => Meets.apart
      exact Nat.lt_of_lt_of_le (ih hu hp) (hw.passed ▸ Nat.le_add_right _ _)
  | group i p ih =>
    obtain ⟨u, hu, rfl⟩ := h
    have hlt := ih hu hp
    exact hlt
  | same i => cases hp
  | ifGroup i p q ihp ihq =>
    obtain ⟨hp, hq⟩ := Bool.and_eq_true_iff.1 hp
    simp only [Meets] at h
    split_ifs at h
    · exact ihp h hp
    · exact ihq h hq
  | ahead holds p => cases hp
  | behind holds least most p => cases hp
  | atomic p ih => exact ih h hp
  | within on off p ih => exact ih h hp

/-- The pattern captures nothing. -/
def groupless : Pattern → Bool
  | empty | char _ | any | set _ _ | place _ | same _ => true
  | seq p q | alt p q | ifGroup _ p q => p.groupless && q.groupless
  | many _ _ _ p | ahead _ p | behind _ _ _ p | atomic p | within _ _ p => p.groupless
  | group _ _ => false

/-- A pattern that captures nothing leaves the groups as they are. -/
lemma Meets.groups_eq {p : Pattern} {m : Mode} {s t : Spot} (h : p.Meets m s t)
    (hp : p.groupless = true) : t.groups = s.groups := by
  have step : ∀ {f : Char → Bool} {s t : Spot}, s.step? f = some t → t.groups = s.groups := by
    intro f s t h
    obtain ⟨_, _, _, hg⟩ := step?_eq_some_iff.1 h
    exact hg
  induction p generalizing m s t with
  | empty => rw [show t = s from h]
  | char c => exact step h
  | any => exact step h
  | set outside items => exact step h
  | place p => rw [h.2]
  | seq p q ihp ihq =>
    obtain ⟨u, hu, ht⟩ := h
    obtain ⟨hp, hq⟩ := Bool.and_eq_true_iff.1 hp
    exact (ihq ht hq).trans (ihp hu hp)
  | alt p q ihp ihq =>
    obtain ⟨hp, hq⟩ := Bool.and_eq_true_iff.1 hp
    exact h.elim (ihp · hp) (ihq · hq)
  | many greed least most p ih =>
    obtain ⟨n, -, -, ht⟩ := h
    induction n generalizing s with
    | zero => rw [show t = s from ht]
    | succ n ihn =>
      obtain ⟨u, hu, ht⟩ := ht
      exact (ihn ht).trans (ih hu hp)
  | group i p => cases hp
  | same i =>
    obtain ⟨w, _, ht⟩ := h
    obtain ⟨_, _, _, hg⟩ := pass?_eq_some ht
    exact hg
  | ifGroup i p q ihp ihq =>
    obtain ⟨hp, hq⟩ := Bool.and_eq_true_iff.1 hp
    simp only [Meets] at h
    split_ifs at h
    · exact ihp h hp
    · exact ihq h hq
  | ahead holds p => rw [h.1]
  | behind holds least most p => rw [h.1]
  | atomic p ih => exact ih h hp
  | within on off p ih => exact ih h hp

end QueryTutor.Pattern
