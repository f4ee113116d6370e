import QueryTutor.Proofs.Text.Spacing
import QueryTutor.Query.Canonical

/-!
# Lexemes

How the lexemes of a text are read and written: what is written can be read back, and writing them
out is what the passes of the canonical form come to.
-/

namespace QueryTutor.Query
open Text

/-- The operator that a text begins with, the longer one first, and what stands behind it. -/
def operator? : List Char → Option (Operator × List Char)
  | '<' :: '=' :: r => some (.atMost, r)
  | '>' :: '=' :: r => some (.atLeast, r)
  | '!' :: '=' :: r => some (.notEqual, r)
  | '<' :: '>' :: r => some (.differs, r)
  | '=' :: r => some (.equal, r)
  | ',' :: r => some (.comma, r)
  | _ => none

lemma operator?_eq_some_iff {t r : List Char} {o : Operator} :
    operator? t = some (o, r) ↔ t = o.text ++ r := by
  constructor
  · intro h
    unfold operator? at h
    split at h <;> cases h <;> rfl
  · rintro rfl
    cases o <;> rfl

/-- The text begins with no operator. -/
lemma operator?_eq_none_iff {t : List Char} : operator? t = none ↔ ∀ o r, t ≠ Operator.text o ++ r := by
  rw [Option.eq_none_iff_forall_ne_some, Prod.forall]
  exact forall₂_congr fun o r => not_congr operator?_eq_some_iff

/-- A character in which an operator can end. -/
def endsOperator (c : Char) : Bool :=
  c == '=' || c == '>'

/-- Operators have one character or two. -/
lemma Operator.text_cases (o : Operator) :
    (∃ c, o.text = [c]) ∨ ∃ c d, o.text = [c, d] ∧ endsOperator d = true := by
  cases o
  case comma => exact .inl ⟨_, rfl⟩
  case equal => exact .inl ⟨_, rfl⟩
  all_goals exact .inr ⟨_, _, rfl, rfl⟩

lemma Operator.not_isBlank {o : Operator} {c : Char} (h : c ∈ o.text) : isBlank c = false := by
  have hall : o.text.any isBlank = false := by cases o <;> decide
  rw [List.any_eq_false] at hall
  exact Bool.eq_false_iff.2 (hall c h)

/-- An operator does not reach into a text that goes on with no end of one. -/
lemma operator?_append {c : Char} {u v : List Char} (h : operator? (c :: u) = none)
    (hv : ∀ d ∈ v.head?, endsOperator d = false) : operator? (c :: (u ++ v)) = none := by
  rw [operator?_eq_none_iff] at h ⊢
  intro o r ho
  obtain ⟨d, hd⟩ | ⟨d, e, hd, he⟩ := o.text_cases
  · rw [hd] at ho
    obtain ⟨rfl, -⟩ := List.cons.inj ho
    exact h o u (by rw [hd]; rfl)
  · rw [hd, List.cons_append, List.cons_append, List.cons.injEq] at ho
    obtain ⟨rfl, ho⟩ := ho
    cases u with
    | nil =>
      rw [List.nil_append] at ho
      rw [ho] at hv
      exact Bool.false_ne_true ((hv e rfl).symm.trans he)
    | cons x u =>
      rw [List.cons_append, List.cons.injEq] at ho
      obtain ⟨rfl, -⟩ := ho
      exact h o u (by rw [hd]; rfl)

/-- To show something of all texts, take off an operator or else a character at a time. -/
lemma text_induction {P : List Char → Prop} (nil : P [])
    (operator : ∀ o r, P r → P (Operator.text o ++ r))
    (other : ∀ c r, operator? (c :: r) = none → P r → P (c :: r)) (t : List Char) : P t := by
  induction hn : t.length using Nat.strongRecOn generalizing t with
  | ind n ih =>
    subst hn
    cases ho : operator? t with
    | some x =>
      obtain ⟨o, r⟩ := x
      have ht := operator?_eq_some_iff.1 ho
      have hlen : r.length < t.length := by
        have hpos : 0 < o.text.length := by cases o <;> decide
        rw [ht, List.length_append]
        omega
      rw [ht]
      exact operator o r (ih _ hlen r rfl)
    | none =>
      cases t with
      | nil => exact nil
      | cons c r => exact other c r ho (ih _ (Nat.lt_succ_self _) r rfl)

namespace Lexeme

lemma scanAfter_operator (cs : List Char) (o : Operator) (r : List Char) :
    scanAfter cs (o.text ++ r) = close cs ++ op o :: scanAfter [] r := by
  cases o <;> rfl

lemma scanAfter_cons {c : Char} {r : List Char} (h : operator? (c :: r) = none)
    (cs : List Char) :
    scanAfter cs (c :: r)
      = if isBlank c then close cs ++ scanAfter [] r else scanAfter (c :: cs) r := by
  rw [scanAfter.eq_def]
  split
  case h_8 heq =>
    cases heq
    rfl
  case h_1 heq => cases heq
  all_goals
    rename_i heq
    rw [heq] at h
    cases h

lemma scan_operator (o : Operator) (r : List Char) : scan (o.text ++ r) = op o :: scan r :=
  scanAfter_operator [] o r

lemma scan_cons {c : Char} {r : List Char} (h : operator? (c :: r) = none) :
    scan (c :: r) = if isBlank c then scan r else scanAfter [c] r :=
  scanAfter_cons h []

lemma close_of_ne_nil {cs : List Char} (h : cs ≠ []) : close cs = [run cs.reverse] := by
  cases cs with
  | nil => exact absurd rfl h
  | cons c cs => rfl

/-- The characters of a run: there are some, none is white space, and no operator begins in them. -/
structure IsRun (w : List Char) : Prop where
  ne_nil : w ≠ []
  not_isBlank : ∀ c ∈ w, isBlank c = false
  free : ∀ v, v <:+ w → operator? v = none

/-- A lexeme that can be read from a text. -/
def IsRead : Lexeme → Prop
  | op _ => True
  | run w => IsRun w

lemma IsRead.text_ne_nil {l : Lexeme} (h : l.IsRead) : l.text ≠ [] := by
  cases l with
  | op o => cases o <;> exact List.cons_ne_nil _ _
  | run w => exact h.ne_nil

lemma isRead_close {cs t : List Char} (hcs : ∀ c ∈ cs, isBlank c = false)
    (hfree : ∀ v, v <:+ cs.reverse → v ≠ [] → operator? (v ++ t) = none) :
    ∀ l ∈ close cs, l.IsRead := by
  cases cs with
  | nil => nofun
  | cons c cs =>
    rw [close_of_ne_nil (List.cons_ne_nil c cs), List.forall_mem_singleton]
    refine ⟨by simp, fun d hd => hcs d (List.mem_reverse.1 hd), fun v hv => ?_⟩
    by_cases hne : v = []
    · rw [hne]
      rfl
    · have hnone := operator?_eq_none_iff.1 (hfree v hv hne)
      refine operator?_eq_none_iff.2 fun o r ho => hnone o (r ++ t) ?_
      rw [ho, List.append_assoc]

lemma isRead_of_mem_scanAfter {cs t : List Char} (hcs : ∀ c ∈ cs, isBlank c = false)
    (hfree : ∀ v, v <:+ cs.reverse → v ≠ [] → operator? (v ++ t) = none) :
    ∀ l ∈ scanAfter cs t, l.IsRead := by
  have fresh : ∀ r : List Char, ∀ v, v <:+ ([] : List Char).reverse → v ≠ [] →
      operator? (v ++ r) = none :=
    fun _ _ hv hne => absurd (List.suffix_nil.1 hv) hne
  induction t using text_induction generalizing cs with
  | nil => exact isRead_close hcs hfree
  | operator o r ih =>
    rw [scanAfter_operator, List.forall_mem_append, List.forall_mem_cons]
    exact ⟨isRead_close hcs hfree, trivial, ih (by simp) (fresh r)⟩
  | other c r hnone ih =>
    rw [scanAfter_cons hnone]
    split_ifs with hc
    · rw [List.forall_mem_append]
      exact ⟨isRead_close hcs hfree, ih (by simp) (fresh r)⟩
    · refine ih (List.forall_mem_cons.2 ⟨Bool.eq_false_iff.2 hc, hcs⟩) fun v hv hne => ?_
      rw [List.reverse_cons] at hv
      obtain ⟨u, hu⟩ := hv
      obtain ⟨v, rfl⟩ : ∃ w, v = w ++ [c] := by
        rcases List.eq_nil_or_concat v with rfl | ⟨w, d, rfl⟩
        · exact absurd rfl hne
        · rw [List.concat_eq_append, ← List.append_assoc] at hu
          obtain ⟨-, hd⟩ := List.append_inj' hu rfl
          rw [(List.cons.inj hd).1]
          exact ⟨w, List.concat_eq_append⟩
      rw [List.append_assoc, List.singleton_append]
      by_cases hnil : v = []
      · rw [hnil]
        exact hnone
      · refine hfree v ⟨u, ?_⟩ hnil
        rw [← List.append_assoc] at hu
        exact (List.append_inj' hu rfl).1

/-- What is read from a text can be read. -/
lemma isRead_of_mem_scan {t : List Char} : ∀ l ∈ scan t, l.IsRead :=
  isRead_of_mem_scanAfter (by simp) fun _ hv hne => absurd (List.suffix_nil.1 hv) hne

/-- White space, an operator or the end of the text closes a run. -/
lemma scanAfter_of_closes {r : List Char}
    (h : (∀ c ∈ r.head?, isBlank c = true) ∨ ∃ o r', r = Operator.text o ++ r') (cs : List Char) :
    scanAfter cs r = close cs ++ scan r := by
  obtain h | ⟨o, r, rfl⟩ := h
  · cases r with
    | nil => exact (List.append_nil _).symm
    | cons c r =>
      have hc : isBlank c = true := h c rfl
      have hnone : operator? (c :: r) = none := operator?_eq_none_iff.2 fun o r ho => by
        have hmem : c ∈ o.text := by cases o <;> cases ho <;> exact List.mem_cons_self
        exact absurd (o.not_isBlank hmem) (by simp [hc])
      rw [scan_cons hnone, scanAfter_cons hnone, if_pos hc, if_pos hc]
      rfl
  · rw [scan_operator, scanAfter_operator]
    rfl

/-- A run is collected as a whole. -/
lemma scanAfter_run {w : List Char} (hw : ∀ c ∈ w, isBlank c = false)
    (hfree : ∀ v, v <:+ w → operator? v = none) {r : List Char}
    (hr : ∀ d ∈ r.head?, endsOperator d = false) (cs : List Char) :
    scanAfter cs (w ++ r) = scanAfter (w.reverse ++ cs) r := by
  induction w generalizing cs with
  | nil => rfl
  | cons c w ih =>
    obtain ⟨hc, hw⟩ := List.forall_mem_cons.1 hw
    have hnone := operator?_append (hfree _ List.suffix_rfl) hr
    rw [List.cons_append, scanAfter_cons hnone, if_neg (Bool.eq_false_iff.1 hc),
      ih hw fun v hv => hfree v (hv.trans (List.suffix_cons c w)), List.reverse_cons,
      List.append_assoc, List.singleton_append]

/-- Behind a run a space, a comma or nothing is written. -/
lemma head?_renderAfter_run (w : List Char) (ls : List Lexeme) :
    renderAfter (run w) ls = [] ∨ (∃ r, renderAfter (run w) ls = ' ' :: r) ∨
      ∃ r, renderAfter (run w) ls = Operator.comma.text ++ r := by
  cases ls with
  | nil => exact .inl rfl
  | cons l ls =>
    cases l with
    | op o => cases o <;> first | exact .inr (.inr ⟨_, rfl⟩) | exact .inr (.inl ⟨_, rfl⟩)
    | run v => exact .inr (.inl ⟨_, rfl⟩)

lemma scan_append_renderAfter {l : Lexeme} (hl : l.IsRead) (ls : List Lexeme) :
    scan (l.text ++ renderAfter l ls) = l :: scan (renderAfter l ls) := by
  cases l with
  | op o => exact scan_operator o _
  | run w =>
    have hclose : close w.reverse = [run w] := by
      rw [close_of_ne_nil (by simpa using hl.ne_nil), List.reverse_reverse]
    have h := head?_renderAfter_run w ls
    have hhead : ∀ d ∈ (renderAfter (run w) ls).head?, endsOperator d = false := by
      obtain h | ⟨r, h⟩ | ⟨r, h⟩ := h <;> rw [h]
      · nofun
      · rintro d ⟨⟩
        rfl
      · rintro d ⟨⟩
        rfl
    have hcloses : (∀ c ∈ (renderAfter (run w) ls).head?, isBlank c = true) ∨
        ∃ o r, renderAfter (run w) ls = Operator.text o ++ r := by
      obtain h | ⟨r, h⟩ | ⟨r, h⟩ := h <;> rw [h]
      · exact .inl nofun
      · refine .inl ?_
        rintro d ⟨⟩
        rfl
      · exact .inr ⟨_, r, rfl⟩
    rw [scan, text, scanAfter_run hl.not_isBlank hl.free hhead, List.append_nil,
      scanAfter_of_closes hcloses, hclose]
    rfl

lemma scan_gap_append (l l' : Lexeme) (t : List Char) : scan (gap l l' ++ t) = scan t := by
  have space : scan ([' '] ++ t) = scan t := by
    have hnone : operator? (' ' :: t) = none := operator?_eq_none_iff.2 fun o r ho => by
      cases o <;> cases ho
    rw [List.singleton_append, scan_cons hnone, if_pos (by decide)]
  unfold gap
  split
  · rfl
  · exact space

lemma scan_renderAfter (l : Lexeme) {ls : List Lexeme} (h : ∀ l ∈ ls, l.IsRead) :
    scan (renderAfter l ls) = ls := by
  induction ls generalizing l with
  | nil => rfl
  | cons l' ls ih =>
    obtain ⟨hl, hls⟩ := List.forall_mem_cons.1 h
    rw [renderAfter, List.append_assoc, scan_gap_append, scan_append_renderAfter hl, ih l' hls]

/-- Lexemes that are written out can be read again. -/
lemma scan_render {ls : List Lexeme} (h : ∀ l ∈ ls, l.IsRead) : scan (render ls) = ls := by
  cases ls with
  | nil => rfl
  | cons l ls =>
    obtain ⟨hl, hls⟩ := List.forall_mem_cons.1 h
    rw [render, scan_append_renderAfter hl, scan_renderAfter l hls]

end Lexeme

end QueryTutor.Query
