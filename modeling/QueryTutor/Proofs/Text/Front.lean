import Mathlib.Tactic.Common
import QueryTutor.Text.Front

/-!
# The front of a text

What is taken off the front of a text, and what is left of it, make up the text.
-/

namespace QueryTutor.Text

lemma take_append_of_stripFront? {eq : Char → Char → Bool} {front t rest : List Char}
    (h : stripFront? eq front t = some rest) : t.take front.length ++ rest = t := by
  induction front generalizing t with
  | nil => exact (Option.some.inj h).symm
  | cons c front ih =>
    cases t with
    | nil => cases h
    | cons d t =>
      rw [stripFront?] at h
      split_ifs at h
      rw [List.length_cons, List.take_succ_cons, List.cons_append, ih h]

lemma eq_append_of_stripFront? {front t rest : List Char}
    (h : stripFront? (· == ·) front t = some rest) : t = front ++ rest := by
  induction front generalizing t with
  | nil => exact Option.some.inj h
  | cons c front ih =>
    cases t with
    | nil => cases h
    | cons d t =>
      rw [stripFront?] at h
      split_ifs at h with hcd
      rw [ih h, beq_iff_eq.1 hcd, List.cons_append]

lemma stripFront?_append (front rest : List Char) :
    stripFront? (· == ·) front (front ++ rest) = some rest := by
  induction front with
  | nil => rfl
  | cons c front ih => rw [List.cons_append, stripFront?, if_pos (beq_self_eq_true c), ih]

lemma hasFront_iff {front t : List Char} : hasFront (· == ·) front t = true ↔ front <+: t := by
  rw [hasFront, Option.isSome_iff_exists]
  constructor
  · rintro ⟨rest, h⟩
    exact ⟨rest, (eq_append_of_stripFront? h).symm⟩
  · rintro ⟨rest, rfl⟩
    exact ⟨rest, stripFront?_append front rest⟩

/-- A piece is held where it stands in the text. -/
lemma holds_iff {piece t : List Char} : holds (· == ·) piece t = true ↔ piece <:+: t := by
  induction t with
  | nil => rw [holds, List.isEmpty_iff, List.infix_nil]
  | cons c t ih => rw [holds, Bool.or_eq_true, hasFront_iff, ih, List.infix_cons_iff]

lemma splitThrough?_eq_some {eq : Char → Char → Bool} {stop t head rest : List Char}
    (h : splitThrough? eq stop t = some (head, rest)) : head ++ rest = t := by
  induction t generalizing head with
  | nil => cases h
  | cons c t ih =>
    rw [splitThrough?] at h
    split at h
    case h_1 hfront =>
      cases h
      exact take_append_of_stripFront? hfront
    case h_2 =>
      obtain ⟨⟨u, v⟩, hsplit, heq⟩ := Option.map_eq_some_iff.1 h
      cases heq
      rw [List.cons_append, ih hsplit]

/-- Where one text is cut into two pieces in two ways, the ways are the same if characters of a kind
end at the one cut and none of the other kind begins before the other. -/
lemma append_inj_of_edge {P Q : Char → Prop} {m n t t' : List Char} (hn : ∀ c ∈ n, P c)
    (ht : ∀ c ∈ t.head?, Q c) (hm : ∀ c ∈ m, ¬ Q c) (ht' : ∀ c ∈ t'.head?, ¬ P c)
    (h : n ++ t = m ++ t') : n = m ∧ t = t' := by
  obtain ⟨x, rfl, rfl⟩ | ⟨x, rfl, rfl⟩ := List.append_eq_append_iff.1 h
  · cases x with
    | nil => exact ⟨(List.append_nil n).symm, rfl⟩
    | cons c x => exact absurd (ht c rfl) (hm c (by simp))
  · cases x with
    | nil => exact ⟨List.append_nil m, rfl⟩
    | cons c x => exact absurd (hn c (by simp)) (ht' c rfl)

end QueryTutor.Text
