import Mathlib.Data.List.DropRight
import QueryTutor.Proofs.Text.Layout

/-!
# Spacing

What the white space of a text comes down to when runs of it are squeezed and its ends are trimmed.
-/

namespace QueryTutor.Text

variable {p q : Char → Bool}

lemma dropTrailing_append (u v : List Char) :
    dropTrailing p (u ++ v)
      = if dropTrailing p v = [] then dropTrailing p u else u ++ dropTrailing p v := by
  simp only [dropTrailing, List.reverse_append, List.dropWhile_append, List.isEmpty_iff,
    List.reverse_eq_nil_iff]
  split_ifs <;> simp

lemma dropTrailing_eq_nil_iff {t : List Char} :
    dropTrailing p t = [] ↔ ∀ c ∈ t, p c = true := by
  exact List.rdropWhile_eq_nil_iff

lemma dropTrailing_eq_self_iff {t : List Char} :
    dropTrailing p t = t ↔ ∀ c ∈ t.getLast?, p c = false := by
  change t.rdropWhile p = t ↔ _
  rw [List.rdropWhile_eq_self_iff]
  constructor
  · intro h c hc
    obtain ⟨hne, rfl⟩ := List.mem_getLast?_eq_getLast hc
    exact Bool.eq_false_iff.2 (h hne)
  · intro h hne
    exact Bool.eq_false_iff.1 (h _ (List.getLast_mem_getLast? hne))

lemma dropTrailing_append_of_all {u v : List Char} (h : ∀ c ∈ v, p c = true) :
    dropTrailing p (u ++ v) = dropTrailing p u := by
  rw [dropTrailing_append, if_pos (dropTrailing_eq_nil_iff.2 h)]

/-- Behind a text whose end is not to be dropped, only what follows is cut short. -/
lemma dropTrailing_append_of_getLast? {u : List Char} (hu : ∀ c ∈ u.getLast?, p c = false)
    (v : List Char) : dropTrailing p (u ++ v) = u ++ dropTrailing p v := by
  rw [dropTrailing_append, dropTrailing_eq_self_iff.2 hu]
  split_ifs with hv
  · rw [hv, List.append_nil]
  · rfl

/-- What a text ends in after its end has been dropped is not to be dropped. -/
lemma getLast?_dropTrailing {t : List Char} : ∀ c ∈ (dropTrailing p t).getLast?, p c = false :=
  dropTrailing_eq_self_iff.1 (List.rdropWhile_idempotent p t)

/-- A text is what is left of it, and an end that has been dropped. -/
lemma exists_dropTrailing_append (p : Char → Bool) (t : List Char) :
    ∃ s, (∀ c ∈ s, p c = true) ∧ t = dropTrailing p t ++ s := by
  refine ⟨(t.reverse.takeWhile p).reverse, ?_, ?_⟩
  · intro c hc
    exact List.mem_takeWhile_imp (List.mem_reverse.1 hc)
  · rw [dropTrailing, ← List.reverse_append, List.takeWhile_append_dropWhile, List.reverse_reverse]

lemma isPrefix_dropTrailing (p : Char → Bool) (t : List Char) : dropTrailing p t <+: t :=
  List.rdropWhile_prefix p t

/-- Dropping less first makes no difference. -/
lemma dropTrailing_dropTrailing (h : ∀ c, p c = true → q c = true) (t : List Char) :
    dropTrailing q (dropTrailing p t) = dropTrailing q t := by
  obtain ⟨s, hs, ht⟩ := exists_dropTrailing_append p t
  conv_rhs => rw [ht]
  rw [dropTrailing_append_of_all fun c hc => h c (hs c hc)]

lemma trimRight_trimRight (t : List Char) : trimRight (trimRight t) = trimRight t :=
  dropTrailing_dropTrailing (fun _ => id) t

lemma trimRight_cons {c : Char} (hc : isBlank c = false) (t : List Char) :
    trimRight (c :: t) = c :: trimRight t := by
  have h : dropTrailing isBlank [c] = [c] :=
    dropTrailing_eq_self_iff.2 (by simpa using hc)
  rw [trimRight, ← List.singleton_append, dropTrailing_append, h, trimRight]
  split_ifs with hnil
  · rw [hnil]
  · rfl

/-- The text behind a space, unless there is none. -/
def apart : List Char → List Char
  | [] => []
  | c :: t => ' ' :: c :: t

lemma trimRight_cons_blank {c : Char} (hc : isBlank c = true) (t : List Char) :
    trimRight (c :: t) = if trimRight t = [] then [] else c :: trimRight t := by
  have h : dropTrailing isBlank [c] = [] :=
    dropTrailing_eq_nil_iff.2 (by simpa using hc)
  rw [trimRight, ← List.singleton_append, dropTrailing_append, h]
  rfl

lemma trimRight_cons_space (t : List Char) : trimRight (' ' :: t) = apart (trimRight t) := by
  rw [trimRight_cons_blank (by decide)]
  cases trimRight t <;> rfl

/-- It makes no difference which end is trimmed first. -/
lemma trim_eq (t : List Char) : trim t = trimRight (trimLeft t) := by
  induction t with
  | nil => rfl
  | cons c t ih =>
    cases hc : isBlank c with
    | true =>
      rw [trimLeft_cons hc, ← ih, trim, trim, trimRight_cons_blank hc]
      split_ifs with hnil
      · rw [hnil]
      · rw [trimLeft_cons hc]
    | false =>
      have hs : startsBlank (c :: t) = false := by simpa [startsBlank] using hc
      rw [trim, trimRight_cons hc, trimLeft_of_not_startsBlank hs, trimRight_cons hc,
        trimLeft_of_not_startsBlank (by simpa [startsBlank] using hc)]

lemma trim_trim (t : List Char) : trim (trim t) = trim t := by
  rw [trim_eq t, trim, trimRight_trimRight]
  change trim _ = _
  rw [trim_eq, trimLeft_of_not_startsBlank (startsBlank_trimLeft t)]

lemma startsBlank_of_prefix {u t : List Char} (h : u <+: t) (ht : startsBlank t = false) :
    startsBlank u = false := by
  cases u with
  | nil => rfl
  | cons c u =>
    obtain ⟨v, rfl⟩ := h
    exact ht

lemma trim_of_not_startsBlank {t : List Char} (ht : startsBlank t = false) :
    trim t = dropTrailing isBlank t := by
  rw [trim_eq, trimLeft_of_not_startsBlank ht, trimRight]

lemma isBlank_getLast?_trim (t : List Char) : ∀ c ∈ (trim t).getLast?, isBlank c = false := by
  rw [trim_eq]
  exact getLast?_dropTrailing

lemma isInfix_trim (t : List Char) : trim t <:+: t :=
  (List.dropWhile_suffix isBlank).isInfix.trans (isPrefix_dropTrailing isBlank t).isInfix

lemma mem_of_mem_trim {t : List Char} {c : Char} (h : c ∈ trim t) : c ∈ t :=
  (isInfix_trim t).subset h

lemma squeeze_cons {c : Char} (hc : isBlank c = false) (t : List Char) :
    squeeze (c :: t) = c :: squeeze t := by
  cases t <;> simp [squeeze, hc]

lemma squeeze_cons_blank {c : Char} (hc : isBlank c = true) (t : List Char) :
    squeeze (c :: t) = ' ' :: trimLeft (squeeze t) := by
  induction t generalizing c with
  | nil => simp [squeeze, trimLeft, hc]
  | cons d t ih =>
    rw [squeeze, if_pos hc]
    cases hd : isBlank d with
    | true =>
      rw [if_pos rfl, ih hd, trimLeft_cons (by decide),
        trimLeft_of_not_startsBlank (startsBlank_trimLeft _)]
    | false =>
      rw [if_neg (by decide), squeeze_cons hd,
        trimLeft_of_not_startsBlank (by simpa [startsBlank] using hd)]

/-- The text with its white space squeezed, and without any at its end. -/
def tightEnd (t : List Char) : List Char :=
  trimRight (squeeze t)

/-- The text with its white space squeezed, and without any at its ends. -/
def tight (t : List Char) : List Char :=
  trim (squeeze t)

lemma tight_eq (t : List Char) : tight t = trimLeft (tightEnd t) := rfl

lemma tightEnd_cons {c : Char} (hc : isBlank c = false) (t : List Char) :
    tightEnd (c :: t) = c :: tightEnd t := by
  rw [tightEnd, squeeze_cons hc, trimRight_cons hc, tightEnd]

lemma tightEnd_cons_blank {c : Char} (hc : isBlank c = true) (t : List Char) :
    tightEnd (c :: t) = apart (tight t) := by
  rw [tightEnd, squeeze_cons_blank hc, trimRight_cons_space, tight, trim_eq]

lemma tight_cons {c : Char} (hc : isBlank c = false) (t : List Char) :
    tight (c :: t) = c :: tightEnd t := by
  rw [tight_eq, tightEnd_cons hc, trimLeft_of_not_startsBlank (by simpa [startsBlank] using hc)]

lemma tight_cons_blank {c : Char} (hc : isBlank c = true) (t : List Char) :
    tight (c :: t) = tight t := by
  rw [tight, squeeze_cons_blank hc, trim_eq, trimLeft_cons (by decide),
    trimLeft_of_not_startsBlank (startsBlank_trimLeft _), ← trim_eq, tight]

lemma tightEnd_append_solid {u : List Char} (hu : ∀ c ∈ u, isBlank c = false) (t : List Char) :
    tightEnd (u ++ t) = u ++ tightEnd t := by
  induction u with
  | nil => rfl
  | cons c u ih =>
    obtain ⟨hc, hu⟩ := List.forall_mem_cons.1 hu
    rw [List.cons_append, tightEnd_cons hc, ih hu, List.cons_append]

lemma tight_append_solid {u : List Char} (hne : u ≠ []) (hu : ∀ c ∈ u, isBlank c = false)
    (t : List Char) : tight (u ++ t) = u ++ tightEnd t := by
  obtain ⟨c, u, rfl⟩ := List.exists_cons_of_ne_nil hne
  obtain ⟨hc, hu⟩ := List.forall_mem_cons.1 hu
  rw [List.cons_append, tight_cons hc, tightEnd_append_solid hu, List.cons_append]

lemma tight_append_blank {u : List Char} (hu : ∀ c ∈ u, isBlank c = true) (t : List Char) :
    tight (u ++ t) = tight t := by
  induction u with
  | nil => rfl
  | cons c u ih =>
    obtain ⟨hc, hu⟩ := List.forall_mem_cons.1 hu
    rw [List.cons_append, tight_cons_blank hc, ih hu]

lemma tightEnd_append_blank {u : List Char} (hne : u ≠ []) (hu : ∀ c ∈ u, isBlank c = true)
    (t : List Char) : tightEnd (u ++ t) = apart (tight t) := by
  obtain ⟨c, u, rfl⟩ := List.exists_cons_of_ne_nil hne
  obtain ⟨hc, hu⟩ := List.forall_mem_cons.1 hu
  rw [List.cons_append, tightEnd_cons_blank hc, tight_append_blank hu]

/-- The characters of a text that are no white space. -/
def solid (t : List Char) : List Char :=
  t.filter fun c => !isBlank c

lemma solid_cons {c : Char} (hc : isBlank c = false) (t : List Char) :
    solid (c :: t) = c :: solid t := by
  rw [solid, List.filter_cons_of_pos (by simpa using hc), solid]

lemma solid_cons_blank {c : Char} (hc : isBlank c = true) (t : List Char) :
    solid (c :: t) = solid t := by
  rw [solid, List.filter_cons_of_neg (by simpa using hc), solid]

lemma solid_append (u v : List Char) : solid (u ++ v) = solid u ++ solid v :=
  List.filter_append ..

lemma solid_of_all_blank {t : List Char} (h : ∀ c ∈ t, isBlank c = true) : solid t = [] :=
  List.filter_eq_nil_iff.2 (by simpa using h)

lemma solid_dropTrailing (h : ∀ c, p c = true → isBlank c = true) (t : List Char) :
    solid (dropTrailing p t) = solid t := by
  obtain ⟨s, hs, ht⟩ := exists_dropTrailing_append p t
  conv_rhs => rw [ht]
  rw [solid_append, solid_of_all_blank fun c hc => h c (hs c hc), List.append_nil]

lemma solid_trimLeft (t : List Char) : solid (trimLeft t) = solid t := by
  induction t with
  | nil => rfl
  | cons c t ih =>
    cases hc : isBlank c with
    | true => rw [trimLeft_cons hc, ih, solid_cons_blank hc]
    | false => rw [trimLeft_of_not_startsBlank (by simpa [startsBlank] using hc)]

lemma solid_trimRight (t : List Char) : solid (trimRight t) = solid t :=
  solid_dropTrailing (fun _ => id) t

lemma solid_squeeze (t : List Char) : solid (squeeze t) = solid t := by
  induction t with
  | nil => rfl
  | cons c t ih =>
    cases hc : isBlank c with
    | true =>
      rw [squeeze_cons_blank hc, solid_cons_blank (by decide), solid_trimLeft, ih,
        solid_cons_blank hc]
    | false => rw [squeeze_cons hc, solid_cons hc, ih, solid_cons hc]

lemma solid_tightEnd (t : List Char) : solid (tightEnd t) = solid t := by
  rw [tightEnd, solid_trimRight, solid_squeeze]

/-- The last character of a text that does not end in white space. -/
lemma getLast?_solid {t : List Char} (h : ∀ c ∈ t.getLast?, isBlank c = false) :
    (solid t).getLast? = t.getLast? := by
  rcases List.eq_nil_or_concat t with rfl | ⟨u, c, rfl⟩
  · rfl
  · have hc : isBlank c = false := h c (by simp)
    rw [List.concat_eq_append, solid_append, solid_cons hc]
    simp [solid]

end QueryTutor.Text
