import Mathlib.Data.List.Infix
import QueryTutor.Query.Precheck

/-!
# Balanced parentheses

The count of open parentheses accepts the words of a grammar.  Which of two faults it reports
depends on the first part of the text that closes more than it opens.
-/

namespace QueryTutor.Query

variable {d : Nat} {t a b r : List Char}

/-- The words of the grammar in which a word is empty, or a word in parentheses and another word
behind them. -/
inductive Balanced : List Char → Prop where
  | nil : Balanced []
  | nest {a b : List Char} : Balanced a → Balanced b → Balanced ('(' :: (a ++ ')' :: b))

/-- The character is a parenthesis. -/
def isParenthesis (c : Char) : Bool :=
  c == '(' || c == ')'

/-- The parentheses of a text. -/
def parentheses (t : List Char) : List Char :=
  t.filter isParenthesis

/-! ## Counting -/

/-- The ways in which the count goes on at a character. -/
lemma checkParentheses_cons (d : Nat) (c : Char) (t : List Char) :
    checkParentheses d (c :: t)
      = if c = '(' then checkParentheses (d + 1) t
        else if c = ')' then
          if d = 0 then some .unmatchedClosing else checkParentheses (d - 1) t
        else checkParentheses d t := by
  split_ifs with hopen hclose hd
  · rw [hopen, checkParentheses]
  · rw [hclose, checkParentheses, if_pos hd]
  · rw [hclose, checkParentheses, if_neg hd]
  · rw [checkParentheses]
    · exact hopen
    · exact hclose

lemma checkParentheses_parentheses (d : Nat) (t : List Char) :
    checkParentheses d (parentheses t) = checkParentheses d t := by
  induction t generalizing d with
  | nil => rfl
  | cons c t ih =>
    rw [parentheses] at ih
    rw [parentheses, List.filter_cons]
    split_ifs with hc
    · rw [checkParentheses_cons, checkParentheses_cons, ih, ih, ih]
    · have hne : c ≠ '(' ∧ c ≠ ')' := by simpa [isParenthesis] using hc
      rw [ih, checkParentheses_cons, if_neg hne.1, if_neg hne.2]

/-- Some first part of the text closes more parentheses than it opens, with others open before. -/
def Overcloses (d : Nat) (t : List Char) : Prop :=
  ∃ p, p <+: t ∧ d + p.count '(' < p.count ')'

lemma not_overcloses_nil (d : Nat) : ¬ Overcloses d [] := by
  rintro ⟨p, hp, hlt⟩
  rw [List.prefix_nil.1 hp] at hlt
  exact Nat.not_lt_zero _ hlt

lemma overcloses_cons {c : Char} : Overcloses d (c :: t) ↔
    ∃ p, p <+: t ∧ d + (c :: p).count '(' < (c :: p).count ')' := by
  constructor
  · rintro ⟨p, hp, hlt⟩
    obtain rfl | ⟨q, rfl, hq⟩ := List.prefix_cons_iff.1 hp
    · exact absurd hlt (Nat.not_lt_zero _)
    · exact ⟨q, hq, hlt⟩
  · rintro ⟨p, hp, hlt⟩
    exact ⟨c :: p, (List.prefix_cons_inj c).2 hp, hlt⟩

lemma overcloses_open : Overcloses d ('(' :: t) ↔ Overcloses (d + 1) t := by
  rw [overcloses_cons, Overcloses]
  refine exists_congr fun p => and_congr_right fun _ => ?_
  rw [List.count_cons_self, List.count_cons_of_ne (by decide)]
  omega

lemma overcloses_zero_close : Overcloses 0 (')' :: t) :=
  overcloses_cons.2 ⟨[], List.nil_prefix, by decide⟩

lemma overcloses_succ_close : Overcloses (d + 1) (')' :: t) ↔ Overcloses d t := by
  rw [overcloses_cons, Overcloses]
  refine exists_congr fun p => and_congr_right fun _ => ?_
  rw [List.count_cons_self, List.count_cons_of_ne (by decide)]
  omega

lemma overcloses_other {c : Char} (hopen : c ≠ '(') (hclose : c ≠ ')') :
    Overcloses d (c :: t) ↔ Overcloses d t := by
  rw [overcloses_cons, Overcloses]
  refine exists_congr fun p => and_congr_right fun _ => ?_
  rw [List.count_cons_of_ne hopen, List.count_cons_of_ne hclose]

/-- A parenthesis that closes nothing is reported for the texts that overclose. -/
lemma checkParentheses_closing_iff :
    checkParentheses d t = some .unmatchedClosing ↔ Overcloses d t := by
  induction t generalizing d with
  | nil =>
    rw [checkParentheses]
    refine ⟨fun h => ?_, fun h => absurd h (not_overcloses_nil d)⟩
    split_ifs at h
    cases h
  | cons c t ih =>
    rw [checkParentheses_cons]
    split_ifs with hopen hclose hd
    · rw [hopen, overcloses_open, ih]
    · rw [hclose, hd]
      exact iff_of_true rfl overcloses_zero_close
    · obtain ⟨d, rfl⟩ := Nat.exists_eq_succ_of_ne_zero hd
      rw [hclose, overcloses_succ_close, Nat.succ_sub_one, ih]
    · rw [overcloses_other hopen hclose, ih]

/-- A parenthesis that is never closed is reported for all other texts that open more than they
close. -/
lemma checkParentheses_opening_iff : checkParentheses d t = some .unmatchedOpening ↔
    ¬ Overcloses d t ∧ t.count ')' < d + t.count '(' := by
  induction t generalizing d with
  | nil =>
    rw [checkParentheses, and_iff_right (not_overcloses_nil d), List.count_nil, List.count_nil,
      Nat.add_zero, Nat.pos_iff_ne_zero]
    split_ifs with hd
    · exact ⟨nofun, fun h => absurd hd h⟩
    · exact iff_of_true rfl hd
  | cons c t ih =>
    rw [checkParentheses_cons]
    split_ifs with hopen hclose hd
    · rw [hopen, overcloses_open, ih, List.count_cons_self, List.count_cons_of_ne (by decide)]
      exact and_congr_right fun _ => by omega
    · rw [hclose, hd]
      exact ⟨nofun, fun h => absurd overcloses_zero_close h.1⟩
    · obtain ⟨d, rfl⟩ := Nat.exists_eq_succ_of_ne_zero hd
      rw [hclose, overcloses_succ_close, Nat.succ_sub_one, ih, List.count_cons_self,
        List.count_cons_of_ne (by decide)]
      exact and_congr_right fun _ => by omega
    · rw [overcloses_other hopen hclose, ih, List.count_cons_of_ne hopen,
        List.count_cons_of_ne hclose]

/-- No other fault is found. -/
lemma checkParentheses_cases (d : Nat) (t : List Char) :
    checkParentheses d t = none ∨ checkParentheses d t = some .unmatchedClosing
      ∨ checkParentheses d t = some .unmatchedOpening := by
  induction t generalizing d with
  | nil =>
    rw [checkParentheses]
    split_ifs
    · exact .inl rfl
    · exact .inr (.inr rfl)
  | cons c t ih =>
    rw [checkParentheses_cons]
    split_ifs
    · exact ih _
    · exact .inr (.inl rfl)
    · exact ih _
    · exact ih _

/-! ## The grammar -/

/-- The text closes the parentheses that are open, with balanced words before and between them. -/
def Closes : Nat → List Char → Prop
  | 0, t => Balanced t
  | d + 1, t => ∃ a b, t = a ++ ')' :: b ∧ Balanced a ∧ Closes d b

/-- One more parenthesis that is closed makes another balanced word. -/
lemma Closes.cons_open (h : Closes (d + 1) t) : Closes d ('(' :: t) := by
  obtain ⟨a, b, rfl, ha, hb⟩ := h
  cases d with
  | zero => exact .nest ha hb
  | succ d =>
    obtain ⟨a', b', rfl, ha', hb'⟩ := hb
    exact ⟨'(' :: (a ++ ')' :: a'), b', by simp, .nest ha ha', hb'⟩

lemma closes_of_checkParentheses (h : checkParentheses d t = none) : Closes d (parentheses t) := by
  induction t generalizing d with
  | nil =>
    rw [checkParentheses] at h
    split_ifs at h with hd
    rw [hd]
    exact .nil
  | cons c t ih =>
    rw [checkParentheses_cons] at h
    split_ifs at h with hopen hclose hd
    · rw [hopen]
      exact (ih h).cons_open
    · obtain ⟨d, rfl⟩ := Nat.exists_eq_succ_of_ne_zero hd
      rw [hclose]
      exact ⟨[], parentheses t, rfl, .nil, ih h⟩
    · have hc : isParenthesis c = false := by simp [isParenthesis, hopen, hclose]
      rw [parentheses, List.filter_cons_of_neg (by simp [hc])]
      exact ih h

/-- A balanced word does not change how many parentheses are open. -/
lemma Balanced.checkParentheses_append (h : Balanced a) (d : Nat) (r : List Char) :
    checkParentheses d (a ++ r) = checkParentheses d r := by
  induction h generalizing d r with
  | nil => rfl
  | @nest a b _ _ iha ihb =>
    rw [List.cons_append, List.append_assoc, List.cons_append, checkParentheses, iha,
      checkParentheses, if_neg d.succ_ne_zero, Nat.add_sub_cancel, ihb]

/-- The count accepts a text if its parentheses are a word of the grammar. -/
theorem checkParentheses_eq_none_iff : checkParentheses 0 t = none ↔ Balanced (parentheses t) := by
  refine ⟨closes_of_checkParentheses, fun h => ?_⟩
  rw [← checkParentheses_parentheses, ← List.append_nil (parentheses t), h.checkParentheses_append]
  rfl

end QueryTutor.Query
