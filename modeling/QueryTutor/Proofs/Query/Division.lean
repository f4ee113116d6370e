import QueryTutor.Proofs.Query.Lexeme
import QueryTutor.Proofs.Text.Small
import QueryTutor.Proofs.Text.Uncap

/-!
# Texts divided between operators

Where the operators of a text stand, and what it means that a text is divided without cutting one of
them.  Such a division stays one when the text is brought to small letters.
-/

namespace QueryTutor.Query
open Text

/-! ## Operators of a text -/

/-- Where the operators of a text that begins at `start` begin and end, read from left to right, the
longer operator first. -/
def operatorsFrom (start : Nat) : List Char → List (Nat × Nat)
  | [] => []
  | '<' :: '=' :: r => (start, start + 2) :: operatorsFrom (start + 2) r
  | '>' :: '=' :: r => (start, start + 2) :: operatorsFrom (start + 2) r
  | '!' :: '=' :: r => (start, start + 2) :: operatorsFrom (start + 2) r
  | '<' :: '>' :: r => (start, start + 2) :: operatorsFrom (start + 2) r
  | '=' :: r => (start, start + 1) :: operatorsFrom (start + 1) r
  | ',' :: r => (start, start + 1) :: operatorsFrom (start + 1) r
  | _ :: r => operatorsFrom (start + 1) r

/-- Some operator of the text begins before the place and ends behind it. -/
def Straddles (t : List Char) (place : Nat) : Prop :=
  ∃ o ∈ operatorsFrom 0 t, o.1 < place ∧ place < o.2

instance (t : List Char) (place : Nat) : Decidable (Straddles t place) :=
  inferInstanceAs (Decidable (∃ o ∈ operatorsFrom 0 t, o.1 < place ∧ place < o.2))

lemma operatorsFrom_operator (start : Nat) (o : Operator) (r : List Char) :
    operatorsFrom start (o.text ++ r)
      = (start, start + o.text.length) :: operatorsFrom (start + o.text.length) r := by
  cases o <;> rfl

lemma operatorsFrom_cons {c : Char} {r : List Char} (h : operator? (c :: r) = none) (start : Nat) :
    operatorsFrom start (c :: r) = operatorsFrom (start + 1) r := by
  rw [operatorsFrom.eq_def]
  split
  case h_8 heq =>
    cases heq
    rfl
  case h_1 heq => cases heq
  all_goals
    rename_i heq
    rw [heq] at h
    cases h

/-! ## Divided texts -/

/-- No operator reaches from the first text into the second, which stands behind it. -/
inductive Parted : List Char → List Char → Prop where
  | nil (v : List Char) : Parted [] v
  | operator (o : Operator) {u v : List Char} : Parted u v → Parted (o.text ++ u) v
  | other {c : Char} {u v : List Char} : operator? (c :: (u ++ v)) = none → Parted u v →
    Parted (c :: u) v

lemma Operator.text_ne_nil (o : Operator) : o.text ≠ [] := by
  cases o <;> exact List.cons_ne_nil _ _

/-- A division that no operator reaches over parts the text. -/
lemma parted_of_not_straddled (start : Nat) {u v : List Char}
    (h : ∀ o ∈ operatorsFrom start (u ++ v), ¬ (o.1 < start + u.length ∧ start + u.length < o.2)) :
    Parted u v := by
  induction hn : u.length using Nat.strongRecOn generalizing start u with
  | ind n ih =>
    subst hn
    cases u with
    | nil => exact .nil v
    | cons c u =>
      cases ho : operator? (c :: u ++ v) with
      | none =>
        rw [List.cons_append] at ho
        rw [List.cons_append, operatorsFrom_cons ho] at h
        refine .other ho (ih _ (Nat.lt_succ_self _) (start + 1) ?_ rfl)
        intro o hmem
        have hnot := h o hmem
        rw [List.length_cons] at hnot
        omega
      | some x =>
        obtain ⟨o, r⟩ := x
        have htext := operator?_eq_some_iff.1 ho
        rw [htext, operatorsFrom_operator, List.forall_mem_cons] at h
        obtain ⟨hhere, hlater⟩ := h
        dsimp only at hhere
        -- the operator ends in the first text, since it does not reach over its end
        obtain ⟨w, hreach, -⟩ | ⟨w, hwithin, rfl⟩ := List.append_eq_append_iff.1 htext
        · cases w with
          | nil =>
            have hwhole := Parted.operator o (.nil v)
            rwa [hreach, List.append_nil, List.append_nil] at hwhole
          | cons d w =>
            have hlen := congrArg List.length hreach
            rw [List.length_append, List.length_cons (a := d)] at hlen
            exact absurd ⟨by rw [List.length_cons]; omega, by omega⟩ hhere
        · have hlen := congrArg List.length hwithin
          rw [List.length_append] at hlen
          have hpos := List.length_pos_of_ne_nil o.text_ne_nil
          rw [hwithin]
          refine .operator o (ih _ (by omega) (start + o.text.length) ?_ rfl)
          intro p hmem
          have hnot := hlater p hmem
          rwa [hlen, ← Nat.add_assoc] at hnot

/-- The operators of a parted text are those of its first part and then those of its second. -/
lemma Parted.operatorsFrom {u v : List Char} (h : Parted u v) (start : Nat) :
    ∃ front, operatorsFrom start (u ++ v) = front ++ Query.operatorsFrom (start + u.length) v := by
  induction h generalizing start with
  | nil v => exact ⟨[], rfl⟩
  | operator o _ ih =>
    obtain ⟨front, hfront⟩ := ih (start + o.text.length)
    refine ⟨(start, start + o.text.length) :: front, ?_⟩
    rw [List.append_assoc, operatorsFrom_operator, hfront, List.length_append, Nat.add_assoc,
      List.cons_append]
  | other hnone _ ih =>
    obtain ⟨front, hfront⟩ := ih (start + 1)
    refine ⟨front, ?_⟩
    rw [List.cons_append, operatorsFrom_cons hnone, hfront, List.length_cons, Nat.add_right_comm,
      Nat.add_assoc]

/-- Two places that no operator reaches over part a text in three. -/
lemma parted_of_not_straddles {x s y : List Char} (hx : ¬ Straddles (x ++ s ++ y) x.length)
    (hy : ¬ Straddles (x ++ s ++ y) (x ++ s).length) : Parted x (s ++ y) ∧ Parted s y := by
  rw [List.append_assoc] at hx hy
  have hparted : Parted x (s ++ y) := by
    refine parted_of_not_straddled 0 fun o ho hreach => hx ⟨o, ho, ?_⟩
    rwa [Nat.zero_add] at hreach
  refine ⟨hparted, parted_of_not_straddled x.length fun o ho hreach => hy ⟨o, ?_, ?_⟩⟩
  · obtain ⟨front, hfront⟩ := hparted.operatorsFrom 0
    rw [hfront, Nat.zero_add]
    exact List.mem_append_right _ ho
  · rwa [List.length_append]

/-- A text that begins with no operator does so when it is cut short. -/
lemma operator?_of_append {u v : List Char} (h : operator? (u ++ v) = none) :
    operator? u = none := by
  refine operator?_eq_none_iff.2 fun o r ho => operator?_eq_none_iff.1 h o (r ++ v) ?_
  rw [ho, List.append_assoc]

/-- A text stays parted when less of it follows. -/
lemma Parted.shorten {u v w : List Char} (h : Parted u (v ++ w)) : Parted u v := by
  generalize hz : v ++ w = z at h
  induction h with
  | nil => exact .nil v
  | operator o _ ih => exact .operator o (ih hz)
  | @other c u _ hnone _ ih =>
    rw [← hz, ← List.append_assoc, ← List.cons_append] at hnone
    exact .other (operator?_of_append hnone) (ih hz)

/-- What begins with no end of an operator parts a text from what is before. -/
lemma parted_of_head (u : List Char) {v : List Char} (hv : ∀ d ∈ v.head?, endsOperator d = false) :
    Parted u v := by
  induction u using text_induction with
  | nil => exact .nil v
  | operator o u ih => exact .operator o ih
  | other c u hnone ih => exact .other (operator?_append hnone hv) ih

/-! ## Small letters -/

/-- The character can stand in an operator. -/
def inOperator (c : Char) : Bool :=
  ['<', '>', '!', '=', ','].contains c

lemma inOperator_iff {c : Char} :
    inOperator c = true ↔ c = '<' ∨ c = '>' ∨ c = '!' ∨ c = '=' ∨ c = ',' := by
  rw [inOperator, List.contains_iff_mem]
  simp only [List.mem_cons, List.not_mem_nil, or_false]

lemma inOperator_of_mem {o : Operator} {c : Char} (h : c ∈ o.text) : inOperator c = true := by
  have hall : o.text.all inOperator = true := by cases o <;> rfl
  exact List.all_eq_true.1 hall c h

lemma operator?_of_not_inOperator {c : Char} (h : inOperator c = false) (r : List Char) :
    operator? (c :: r) = none := by
  refine operator?_eq_none_iff.2 fun o t ho => ?_
  obtain ⟨d, w, hd⟩ := List.exists_cons_of_ne_nil o.text_ne_nil
  rw [hd, List.cons_append] at ho
  obtain ⟨rfl, -⟩ := List.cons.inj ho
  have hmem : c ∈ o.text := hd ▸ List.mem_cons_self
  exact Bool.false_ne_true (h.symm.trans (inOperator_of_mem hmem))

/-- What a character becomes in small letters: at least one character, and one that can stand in an
operator only if it is that one itself. -/
structure Becomes (c : Char) (image : List Char) : Prop where
  ne_nil : image ≠ []
  keeps : inOperator c = true → image = [c]
  adds : ∀ d ∈ image, inOperator d = true → d = c

lemma lowerChar_inOperator {c : Char} (h : inOperator c = true) : lowerChar c = c := by
  obtain rfl | rfl | rfl | rfl | rfl := inOperator_iff.1 h <;> rfl

lemma eq_of_lowerChar_inOperator {c : Char} (h : inOperator (lowerChar c) = true) :
    lowerChar c = c := by
  have hapart : standsAlone (lowerChar c) = true ∧ (lowerChar c).isAlpha = false := by
    obtain h | h | h | h | h := inOperator_iff.1 h <;> rw [h] <;> decide
  exact (eq_of_toLower_eq hapart.2 (toLower_eq_of_lowerChar hapart.1 rfl)).symm

lemma becomes_lowerChar (c : Char) : Becomes c [lowerChar c] where
  ne_nil := List.cons_ne_nil _ _
  keeps h := by rw [lowerChar_inOperator h]
  adds := List.forall_mem_singleton.2 eq_of_lowerChar_inOperator

/-- What can stand in no operator becomes such characters. -/
lemma becomes_of_all {c : Char} (hc : inOperator c = false) {image : List Char}
    (hne : image ≠ []) (h : image.all (!inOperator ·) = true) : Becomes c image where
  ne_nil := hne
  keeps hin := absurd (hc.symm.trans hin) Bool.false_ne_true
  adds d hd hin := by
    have hnot := List.all_eq_true.1 h d hd
    rw [hin] at hnot
    cases hnot

/-- How many characters a character becomes in small letters. -/
def smallWidth (c : Char) : Nat :=
  if c = '\u0130' then 2 else 1

/-- How many characters a text becomes in small letters. -/
def smallLength : List Char → Nat
  | [] => 0
  | c :: r => smallWidth c + smallLength r

lemma exists_becomes (before : List Char) (c : Char) (r : List Char) :
    ∃ image, Becomes c image ∧ image.length = smallWidth c ∧
      lowerAfter before (c :: r) = image ++ lowerAfter (c :: before) r := by
  rw [lowerAfter]
  by_cases hdotted : c = '\u0130'
  · rw [if_pos hdotted, smallWidth, if_pos hdotted, hdotted]
    exact ⟨['i', '\u0307'], becomes_of_all (by decide) (List.cons_ne_nil _ _) (by decide), rfl, rfl⟩
  rw [if_neg hdotted, smallWidth, if_neg hdotted]
  split_ifs with hsigma hlast
  · rw [hsigma]
    exact ⟨['\u03c2'], becomes_of_all (by decide) (List.cons_ne_nil _ _) (by decide), rfl, rfl⟩
  · rw [hsigma]
    exact ⟨['\u03c3'], becomes_of_all (by decide) (List.cons_ne_nil _ _) (by decide), rfl, rfl⟩
  · exact ⟨[lowerChar c], becomes_lowerChar c, rfl, rfl⟩

lemma length_lowerAfter (before t : List Char) :
    (lowerAfter before t).length = smallLength t := by
  induction t generalizing before with
  | nil => rfl
  | cons c t ih =>
    obtain ⟨image, -, hlen, heq⟩ := exists_becomes before c t
    rw [heq, List.length_append, hlen, ih, smallLength]

lemma lowerAfter_operator (before : List Char) (o : Operator) (r : List Char) :
    lowerAfter before (o.text ++ r) = o.text ++ lowerAfter (o.text.reverse ++ before) r := by
  cases o <;> rfl

lemma smallLength_operator (o : Operator) (r : List Char) :
    smallLength (o.text ++ r) = o.text.length + smallLength r := by
  have happend : ∀ t, smallLength (t ++ r) = smallLength t + smallLength r := by
    intro t
    induction t with
    | nil => rw [List.nil_append, smallLength, Nat.zero_add]
    | cons c t ih => rw [List.cons_append, smallLength, ih, smallLength, Nat.add_assoc]
  rw [happend]
  cases o <;> rfl

/-- Where no operator begins, none begins in small letters. -/
lemma operator?_cons_lowerAfter {c : Char} {t : List Char} (h : operator? (c :: t) = none)
    (before : List Char) : operator? (c :: lowerAfter before t) = none := by
  rw [operator?_eq_none_iff] at h ⊢
  intro o r ho
  obtain ⟨d, hd⟩ | ⟨d, e, hd, he⟩ := o.text_cases
  · rw [hd] at ho
    obtain ⟨rfl, -⟩ := List.cons.inj ho
    exact h o t (by rw [hd]; rfl)
  · rw [hd, List.cons_append, List.cons_append, List.cons.injEq] at ho
    obtain ⟨rfl, ho⟩ := ho
    cases t with
    | nil => cases ho
    | cons a t =>
      obtain ⟨image, hbecomes, -, heq⟩ := exists_becomes before a t
      obtain ⟨b, image, rfl⟩ := List.exists_cons_of_ne_nil hbecomes.ne_nil
      rw [heq, List.cons_append] at ho
      obtain ⟨rfl, -⟩ := List.cons.inj ho
      have hin : inOperator b = true :=
        inOperator_of_mem (hd ▸ List.mem_cons_of_mem c List.mem_cons_self)
      have hsame := hbecomes.adds b List.mem_cons_self hin
      exact h o t (by rw [hd, hsame]; rfl)

lemma Parted.append_of_not_inOperator {image u v : List Char}
    (himage : ∀ d ∈ image, inOperator d = false) (h : Parted u v) : Parted (image ++ u) v := by
  induction image with
  | nil => exact h
  | cons d image ih =>
    obtain ⟨hd, himage⟩ := List.forall_mem_cons.1 himage
    exact .other (operator?_of_not_inOperator hd _) (ih himage)

/-- A parted text is parted in small letters, at the place that its first part comes to. -/
lemma Parted.lowerAfter {u v : List Char} (h : Parted u v) (before : List Char) :
    ∃ u', Text.lowerAfter before (u ++ v) = u' ++ Text.lowerAfter (u.reverse ++ before) v ∧
      u'.length = smallLength u ∧ Parted u' (Text.lowerAfter (u.reverse ++ before) v) := by
  induction h generalizing before with
  | nil v => exact ⟨[], rfl, rfl, .nil _⟩
  | operator o h ih =>
    obtain ⟨u', heq, hlen, hparted⟩ := ih (o.text.reverse ++ before)
    refine ⟨o.text ++ u', ?_⟩
    rw [List.reverse_append, List.append_assoc _ o.text.reverse, List.append_assoc,
      lowerAfter_operator, heq, List.append_assoc, List.length_append, smallLength_operator, hlen]
    exact ⟨rfl, rfl, .operator o hparted⟩
  | @other c u v hnone h ih =>
    obtain ⟨u', heq, hlen, hparted⟩ := ih (c :: before)
    obtain ⟨image, hbecomes, hwidth, hcons⟩ := exists_becomes before c (u ++ v)
    refine ⟨image ++ u', ?_⟩
    rw [List.reverse_cons, List.append_assoc u.reverse, List.singleton_append, List.cons_append,
      hcons, heq, List.append_assoc, List.length_append, hlen, hwidth]
    refine ⟨rfl, rfl, ?_⟩
    cases hc : inOperator c with
    | true =>
      -- the character stays, and what follows it still makes no operator of it
      rw [hbecomes.keeps hc, List.singleton_append]
      refine .other ?_ hparted
      rw [← heq]
      exact operator?_cons_lowerAfter hnone (c :: before)
    | false =>
      refine hparted.append_of_not_inOperator fun d hd => ?_
      cases hin : inOperator d with
      | false => rfl
      | true =>
        rw [hbecomes.adds d hd hin, hc] at hin
        cases hin

/-- Where small letters are made piece by piece, a text in three parts stays parted. -/
lemma parted_lower {x s y : List Char} (hlower : lower (x ++ s ++ y) = lower x ++ lower s ++ lower y)
    (hx : Parted x (s ++ y)) (hs : Parted s y) :
    Parted (lower x) (lower s ++ lower y) ∧ Parted (lower s) (lower y) := by
  obtain ⟨x', hxeq, hxlen, hxparted⟩ := hx.lowerAfter []
  obtain ⟨s', hseq, hslen, hsparted⟩ := hs.lowerAfter (x.reverse ++ [])
  rw [List.append_assoc, List.append_assoc, lower, hxeq] at hlower
  obtain ⟨rfl, hrest⟩ := List.append_inj hlower (hxlen.trans (length_lowerAfter [] x).symm)
  rw [hrest] at hxparted
  rw [hseq] at hrest
  obtain ⟨rfl, hend⟩ := List.append_inj hrest (hslen.trans (length_lowerAfter [] s).symm)
  rw [hend] at hsparted
  exact ⟨hxparted, hsparted⟩

end QueryTutor.Query
