import QueryTutor.Proofs.Pattern.Alignment
import QueryTutor.Proofs.Pattern.Search

/-!
# Pieces

Patterns that capture nothing are met over pieces of a text: between what stands before the piece
and what stands behind it.
-/

namespace QueryTutor.Pattern
open Text

/-- The pattern is met over the piece `w` of a text, between `u` and `v`. -/
def MeetsPiece (p : Pattern) (u w v : List Char) : Prop :=
  p.Meets detectionMode (.between u (w ++ v)) (.between (u ++ w) v)

/-- A spot that lies behind one between two parts of a text, with no more captured, is one too. -/
lemma eq_between_of_apart {u x w : List Char} {t : Spot} (h : Apart w (.between u x) t)
    (hg : t.groups = []) : ∃ v, x = w ++ v ∧ t = .between (u ++ w) v := by
  obtain ⟨before, after, passed, groups⟩ := t
  refine ⟨after, h.after, ?_⟩
  obtain rfl : before = _ := h.before
  obtain rfl : passed = _ := h.passed
  obtain rfl : groups = [] := hg
  simp [Spot.between]

/-- Where a pattern that captures nothing is met, it is met over a piece. -/
lemma exists_meets_iff {p : Pattern} (hp : p.groupless = true) (u x : List Char) :
    (∃ t, p.Meets detectionMode (.between u x) t) ↔ ∃ w v, x = w ++ v ∧ p.MeetsPiece u w v := by
  constructor
  · rintro ⟨t, ht⟩
    obtain ⟨w, hw⟩ := ht.apart
    obtain ⟨v, rfl, rfl⟩ := eq_between_of_apart hw (ht.groups_eq hp)
    exact ⟨w, v, rfl, ht⟩
  · rintro ⟨w, v, rfl, ht⟩
    exact ⟨_, ht⟩

lemma between_inj {u u' v v' : List Char} (h : Spot.between u v = .between u' v') :
    u = u' ∧ v = v' := by
  simp only [Spot.between, Spot.mk.injEq, List.reverse_inj] at h
  exact ⟨h.1, h.2.1⟩

lemma meetsPiece_step {f : Char → Bool} {u w v : List Char} :
    (Spot.between u (w ++ v)).step? f = some (.between (u ++ w) v) ↔ ∃ c, w = [c] ∧ f c = true := by
  constructor
  · intro h
    obtain ⟨c, hc, hap, -⟩ := step?_eq_some_iff.1 h
    have hw : w ++ v = [c] ++ v := hap.after
    exact ⟨c, List.append_cancel_right hw, hc⟩
  · rintro ⟨c, rfl, hc⟩
    refine step?_eq_some_iff.2 ⟨c, hc, ⟨rfl, ?_, ?_⟩, rfl⟩
    · exact List.reverse_append
    · exact List.length_append

lemma meetsPiece_place {p : Place} {u w v : List Char} :
    (place p).MeetsPiece u w v ↔
      w = [] ∧ (Spot.between u v).isAt detectionMode p = true := by
  constructor
  · rintro ⟨hat, heq⟩
    obtain ⟨hu, -⟩ := between_inj heq
    obtain rfl : w = [] := by simpa using hu
    exact ⟨rfl, hat⟩
  · rintro ⟨rfl, hat⟩
    exact ⟨hat, by rw [List.append_nil]; rfl⟩

lemma meetsPiece_seq {p q : Pattern} (hp : p.groupless = true) {u w v : List Char} :
    (seq p q).MeetsPiece u w v ↔ ∃ w₁ w₂, w = w₁ ++ w₂ ∧ p.MeetsPiece u w₁ (w₂ ++ v) ∧
      q.MeetsPiece (u ++ w₁) w₂ v := by
  constructor
  · rintro ⟨t, ht, hq⟩
    obtain ⟨w₁, hw₁⟩ := ht.apart
    obtain ⟨x, hx, rfl⟩ := eq_between_of_apart hw₁ (ht.groups_eq hp)
    obtain ⟨w₂, hw₂⟩ := hq.apart
    obtain rfl : x = w₂ ++ v := hw₂.after
    obtain rfl : w = w₁ ++ w₂ := by
      rw [← List.append_assoc] at hx
      exact List.append_cancel_right hx
    refine ⟨w₁, w₂, rfl, ?_, ?_⟩
    · rwa [List.append_assoc] at ht
    · rwa [← List.append_assoc] at hq
  · rintro ⟨w₁, w₂, rfl, hp, hq⟩
    refine ⟨.between (u ++ w₁) (w₂ ++ v), ?_, ?_⟩
    · rw [List.append_assoc]
      exact hp
    · rw [← List.append_assoc]
      exact hq

lemma meetsPiece_cons {p : Pattern} (hp : p.groupless = true) {ps : List Pattern}
    {u w v : List Char} :
    (ofList (p :: ps)).MeetsPiece u w v ↔ ∃ w₁ w₂, w = w₁ ++ w₂ ∧ p.MeetsPiece u w₁ (w₂ ++ v) ∧
      (ofList ps).MeetsPiece (u ++ w₁) w₂ v := by
  cases ps with
  | nil =>
    have hempty : ∀ x y : List Char, (ofList []).MeetsPiece x y v ↔ y = [] := by
      intro x y
      constructor
      · intro h
        simpa using (between_inj h).1
      · rintro rfl
        exact congrArg (Spot.between · v) (List.append_nil x)
    constructor
    · intro h
      exact ⟨w, [], (List.append_nil w).symm, h, (hempty _ _).2 rfl⟩
    · rintro ⟨w₁, w₂, rfl, h, hnil⟩
      obtain rfl := (hempty _ _).1 hnil
      rwa [List.append_nil]
  | cons q ps => exact meetsPiece_seq hp

lemma meetsPiece_append {ps qs : List Pattern} (hps : ∀ p ∈ ps, p.groupless = true)
    {u w v : List Char} :
    (ofList (ps ++ qs)).MeetsPiece u w v ↔ ∃ w₁ w₂, w = w₁ ++ w₂ ∧
      (ofList ps).MeetsPiece u w₁ (w₂ ++ v) ∧ (ofList qs).MeetsPiece (u ++ w₁) w₂ v := by
  induction ps generalizing u w with
  | nil =>
    constructor
    · intro h
      exact ⟨[], w, rfl, congrArg (Spot.between · _) (List.append_nil u), by rwa [List.append_nil]⟩
    · rintro ⟨w₁, w₂, rfl, hnil, h⟩
      obtain rfl : w₁ = [] := by simpa using (between_inj hnil).1
      rwa [List.append_nil] at h
  | cons p ps ih =>
    obtain ⟨hp, hps⟩ := List.forall_mem_cons.1 hps
    rw [List.cons_append, meetsPiece_cons hp]
    constructor
    · rintro ⟨w₁, w₂, rfl, hw₁, hw₂⟩
      obtain ⟨w₃, w₄, rfl, hw₃, hw₄⟩ := (ih hps).1 hw₂
      refine ⟨w₁ ++ w₃, w₄, (List.append_assoc _ _ _).symm, (meetsPiece_cons hp).2 ?_, ?_⟩
      · exact ⟨w₁, w₃, rfl, by rwa [← List.append_assoc], hw₃⟩
      · rwa [← List.append_assoc]
    · rintro ⟨w₁, w₄, rfl, hw, hw₄⟩
      obtain ⟨w₁, w₃, rfl, hw₁, hw₃⟩ := (meetsPiece_cons hp).1 hw
      refine ⟨w₁, w₃ ++ w₄, List.append_assoc _ _ _, ?_, (ih hps).2 ⟨w₃, w₄, rfl, hw₃, ?_⟩⟩
      · rwa [List.append_assoc]
      · rwa [List.append_assoc]

/-- Characters are met by the characters of a piece, one by one. -/
lemma meetsPiece_chars {cs u w v : List Char} :
    (ofList (cs.map char)).MeetsPiece u w v ↔
      List.Forall₂ (fun c d => detectionMode.meets c d = true) cs w := by
  induction cs generalizing u w with
  | nil =>
    constructor
    · intro h
      obtain rfl : w = [] := by simpa using (between_inj h).1
      exact .nil
    · rintro ⟨⟩
      exact congrArg (Spot.between · v) (List.append_nil u)
  | cons c cs ih =>
    rw [List.map_cons, meetsPiece_cons rfl]
    constructor
    · rintro ⟨w₁, w₂, rfl, hw₁, hw₂⟩
      obtain ⟨d, rfl, hd⟩ := meetsPiece_step.1 hw₁
      exact .cons hd (ih.1 hw₂)
    · rintro (_ | ⟨hd, hw⟩)
      exact ⟨[_], _, rfl, meetsPiece_step.2 ⟨_, rfl, hd⟩, ih.2 hw⟩

/-- A repeated single character is met by as many characters as there may be. -/
lemma meetsPiece_many {p : Pattern} {f : Char → Bool}
    (hf : ∀ s t, p.Meets detectionMode s t ↔ s.step? f = some t) {greed : Greed} {least : Nat}
    {u w v : List Char} :
    (many greed least none p).MeetsPiece u w v ↔ least ≤ w.length ∧ ∀ c ∈ w, f c = true := by
  have times : ∀ n u w,
      Times (p.Meets detectionMode) n (.between u (w ++ v)) (.between (u ++ w) v) ↔
        n = w.length ∧ ∀ c ∈ w, f c = true := by
    intro n
    induction n with
    | zero =>
      intro u w
      constructor
      · intro h
        obtain rfl : w = [] := by simpa using (between_inj h).1
        exact ⟨rfl, nofun⟩
      · rintro ⟨hn, -⟩
        obtain rfl := List.length_eq_zero_iff.1 hn.symm
        exact congrArg (Spot.between · v) (List.append_nil u)
    | succ n ih =>
      intro u w
      constructor
      · rintro ⟨t, ht, hn⟩
        obtain ⟨c, hc, hap, hg⟩ := step?_eq_some_iff.1 ((hf _ _).1 ht)
        obtain ⟨x, hx, rfl⟩ := eq_between_of_apart hap hg
        obtain ⟨w', hw'⟩ := hn.apart fun _ _ => Meets.apart
        obtain rfl : x = w' ++ v := hw'.after
        obtain rfl : w = c :: w' := by
          rw [List.singleton_append, ← List.cons_append] at hx
          exact List.append_cancel_right hx
        obtain ⟨rfl, hall⟩ := (ih (u ++ [c]) w').1
          (by rwa [List.append_assoc, List.singleton_append])
        exact ⟨rfl, List.forall_mem_cons.2 ⟨hc, hall⟩⟩
      · rintro ⟨hn, hall⟩
        obtain _ | ⟨c, w⟩ := w
        · cases hn
        obtain ⟨hc, hall⟩ := List.forall_mem_cons.1 hall
        have rest := (ih (u ++ [c]) w).2 ⟨Nat.succ.inj hn, hall⟩
        rw [List.append_assoc, List.singleton_append] at rest
        refine ⟨.between (u ++ [c]) (w ++ v), (hf _ _).2 ?_, rest⟩
        exact meetsPiece_step.2 ⟨c, rfl, hc⟩
  constructor
  · rintro ⟨n, hl, -, hn⟩
    obtain ⟨rfl, hall⟩ := (times n u w).1 hn
    exact ⟨hl, hall⟩
  · rintro ⟨hl, hall⟩
    exact ⟨w.length, hl, nofun, (times _ u w).2 ⟨rfl, hall⟩⟩

/-- An optional pattern is met over nothing, and wherever it is met. -/
lemma meetsPiece_optional {p : Pattern} {greed : Greed} {u w v : List Char} :
    (many greed 0 (some 1) p).MeetsPiece u w v ↔ w = [] ∨ p.MeetsPiece u w v := by
  constructor
  · rintro ⟨n, -, hmost, ht⟩
    have hle := hmost 1 rfl
    obtain rfl | rfl : n = 0 ∨ n = 1 := by omega
    · obtain ⟨hu, -⟩ := between_inj ht
      exact .inl (by simpa using hu)
    · obtain ⟨s, hs, rfl⟩ := ht
      exact .inr hs
  · rintro (rfl | h)
    · exact ⟨0, le_rfl, fun _ _ => Nat.zero_le _, congrArg (Spot.between · v) (List.append_nil u)⟩
    · exact ⟨1, Nat.zero_le 1, fun _ hb => (Option.some.inj hb).le, _, h, rfl⟩

end QueryTutor.Pattern
