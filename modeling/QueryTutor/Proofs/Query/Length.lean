import QueryTutor.Proofs.Query.Canonical
import QueryTutor.Query.Comment

/-!
# The length of canonical forms

Small letters and spacing can make a text longer, but not by more than a factor of four.
-/

namespace QueryTutor.Query
open Text

/-- Only the capital I with a dot takes more room as a small letter. -/
lemma length_lowerAfter_le (before t : List Char) : (lowerAfter before t).length ≤ 2 * t.length := by
  induction t generalizing before with
  | nil => exact Nat.zero_le _
  | cons c t ih =>
    have := ih (c :: before)
    rw [lowerAfter]
    split_ifs <;> simp only [List.length_cons] <;> omega

lemma length_dropTrailing_le (p : Char → Bool) (t : List Char) :
    (dropTrailing p t).length ≤ t.length := by
  rw [dropTrailing, List.length_reverse]
  exact (List.dropWhile_sublist p).length_le.trans_eq List.length_reverse

namespace Lexeme

/-- How many characters the lexemes have. -/
def size : List Lexeme → Nat
  | [] => 0
  | l :: ls => l.text.length + size ls

@[simp]
lemma size_nil : size [] = 0 := rfl

@[simp]
lemma size_cons (l : Lexeme) (ls : List Lexeme) : size (l :: ls) = l.text.length + size ls := rfl

@[simp]
lemma size_append (ls ms : List Lexeme) : size (ls ++ ms) = size ls + size ms := by
  induction ls with
  | nil => exact (Nat.zero_add _).symm
  | cons l ls ih => rw [List.cons_append, size_cons, size_cons, ih, Nat.add_assoc]

lemma size_close (cs : List Char) : size (close cs) = cs.length := by
  rw [close]
  split_ifs with h
  · rw [List.isEmpty_iff.1 h]
    rfl
  · simp [text]

/-- Lexemes have no characters but those of the text. -/
lemma size_scanAfter_le (cs t : List Char) : size (scanAfter cs t) ≤ cs.length + t.length := by
  induction t using text_induction generalizing cs with
  | nil => exact (size_close cs).le
  | operator o r ih =>
    have hrest := ih []
    rw [List.length_nil, Nat.zero_add] at hrest
    rw [scanAfter_operator, size_append, size_cons, size_close, List.length_append, text]
    omega
  | other c r hnone ih =>
    rw [scanAfter_cons hnone, List.length_cons]
    split_ifs
    · have hrest := ih []
      rw [List.length_nil, Nat.zero_add] at hrest
      rw [size_append, size_close]
      omega
    · exact (ih (c :: cs)).trans_eq (Nat.succ_add_eq_add_succ ..)

lemma length_gap_le (l l' : Lexeme) : (gap l l').length ≤ 1 := by
  unfold gap
  split <;> simp

lemma length_renderAfter_le (l : Lexeme) {ls : List Lexeme} (h : ∀ l ∈ ls, l.IsRead) :
    (renderAfter l ls).length ≤ 2 * size ls := by
  induction ls generalizing l with
  | nil => exact Nat.zero_le _
  | cons l' ls ih =>
    obtain ⟨hl', hls⟩ := List.forall_mem_cons.1 h
    have hgap := length_gap_le l l'
    have hpos := List.length_pos_of_ne_nil hl'.text_ne_nil
    have hrest := ih l' hls
    simp only [renderAfter, List.length_append, size_cons]
    omega

/-- The spacing takes no more room than the lexemes. -/
lemma length_render_le {ls : List Lexeme} (h : ∀ l ∈ ls, l.IsRead) :
    (render ls).length ≤ 2 * size ls := by
  cases ls with
  | nil => exact Nat.zero_le _
  | cons l ls =>
    have := length_renderAfter_le l (List.forall_mem_cons.1 h).2
    simp only [render, List.length_append, size_cons]
    omega

end Lexeme

/-- The canonical form of a text has at most four times its length. -/
lemma length_canonical_le (t : List Char) : (canonical t).length ≤ 4 * t.length := by
  have hlexemes : Lexeme.size (lexemes t) ≤ (lower t).length := by
    have h := Lexeme.size_scanAfter_le [] (dropTrailing isTrailer (lower t))
    rw [List.length_nil, Nat.zero_add] at h
    exact h.trans (length_dropTrailing_le _ _)
  have hlower : (lower t).length ≤ 2 * t.length := length_lowerAfter_le [] t
  calc (canonical t).length = (Lexeme.render (lexemes t)).length := by rw [canonical_eq_render]
    _ ≤ 2 * Lexeme.size (lexemes t) := Lexeme.length_render_le Lexeme.isRead_of_mem_scan
    _ ≤ 4 * t.length := by omega

end QueryTutor.Query
