import QueryTutor.Proofs.Analysis.Grammar
import QueryTutor.Proofs.Query.Precheck

/-!
# Dropping from a list

What is dropped from the list of a selection, from left to right: strings, aliases and the words
that stand for values.  Each is dropped where it stands whole, and what stands before it and behind
it stays as it is.
-/

namespace QueryTutor.Query
open Text Catalog

variable {t u w rest : List Char} {before : Option Char}

/-! ## Strings -/

lemma dropStrings_append (ht : '\'' ∉ t) (rest : List Char) :
    dropStrings false (t ++ rest) = t ++ dropStrings false rest := by
  induction t with
  | nil => rfl
  | cons c t ih =>
    obtain ⟨hc, ht⟩ := (List.mem_cons.not.trans not_or).1 ht
    rw [List.cons_append, dropStrings, if_neg Bool.false_ne_true, if_neg, ih ht, List.cons_append]
    simp [Ne.symm hc]

lemma dropStrings_inside (ht : '\'' ∉ t) (rest : List Char) :
    dropStrings true (t ++ '\'' :: rest) = dropStrings false rest := by
  induction t with
  | nil => rfl
  | cons c t ih =>
    obtain ⟨hc, ht⟩ := (List.mem_cons.not.trans not_or).1 ht
    have hne : (c != '\'') = true := bne_iff_ne.2 (Ne.symm hc)
    rw [List.cons_append, dropStrings, if_pos rfl, hne, ih ht]

lemma dropStrings_quoted (ht : '\'' ∉ t) (rest : List Char) :
    dropStrings false ('\'' :: (t ++ '\'' :: rest)) = dropStrings false rest := by
  rw [dropStrings, if_neg Bool.false_ne_true, if_pos, dropStrings_inside ht]
  simp

/-! ## What is found -/

section Found

variable {at? : Option Char → List Char → Option (List Char)}

/-- Where nothing is found, characters stay. -/
lemma dropFound_append (ht : ∀ c ∈ t, ∀ b r, at? b (c :: r) = none)
    (hrest : ∀ b, dropFound at? b 0 rest = u) (b : Option Char) :
    dropFound at? b 0 (t ++ rest) = t ++ u := by
  induction t generalizing b with
  | nil => exact hrest b
  | cons c t ih =>
    obtain ⟨hc, ht⟩ := List.forall_mem_cons.1 ht
    rw [List.cons_append, dropFound, hc, List.cons_append]
    exact congrArg _ (ih ht _)

lemma dropFound_comma (hcomma : ∀ b r, at? b (',' :: r) = none)
    (hspace : ∀ b r, at? b (' ' :: r) = none) (hrest : dropFound at? (some ' ') 0 rest = u)
    (b : Option Char) : dropFound at? b 0 (',' :: ' ' :: rest) = ',' :: ' ' :: u := by
  rw [dropFound, hcomma, dropFound, hspace, hrest]

/-- A word at which nothing is found stays. -/
lemma dropFound_word (hwithin : ∀ c, isWord c = true → ∀ r, at? (some c) r = none)
    (hw : ∀ c ∈ w, isWord c = true) (hnone : at? before (w ++ rest) = none)
    (hrest : ∀ b, dropFound at? b 0 rest = u) :
    dropFound at? before 0 (w ++ rest) = w ++ u := by
  induction w generalizing before with
  | nil => exact hrest before
  | cons c w ih =>
    obtain ⟨hc, hw⟩ := List.forall_mem_cons.1 hw
    rw [List.cons_append] at hnone ⊢
    rw [dropFound, hnone, List.cons_append]
    -- past its first character the search stands within the word, where nothing is found
    exact congrArg _ (ih hw (hwithin c hc _))

lemma dropFound_skip (w rest : List Char) (hrest : ∀ b, dropFound at? b 0 rest = u)
    (b : Option Char) : dropFound at? b w.length (w ++ rest) = u := by
  induction w generalizing b with
  | nil => exact hrest b
  | cons c w ih => exact ih (some c)

/-- What is found is dropped. -/
lemma dropFound_found (hne : w ≠ []) (hfound : at? before (w ++ rest) = some rest)
    (hrest : ∀ b, dropFound at? b 0 rest = u) : dropFound at? before 0 (w ++ rest) = u := by
  obtain ⟨c, w, rfl⟩ := List.exists_cons_of_ne_nil hne
  rw [List.cons_append] at hfound ⊢
  have hlen : (w ++ rest).length - rest.length = w.length := by
    rw [List.length_append, Nat.add_sub_cancel]
  rw [dropFound, hfound]
  simp only [hlen]
  exact dropFound_skip w rest hrest _

end Found

/-! ## Aliases and words -/

lemma not_blank_of_word {c : Char} (hc : isWord c = true) : isBlank c = false := by
  rw [Bool.eq_false_iff]
  intro h
  rw [(letterless h).isWord] at hc
  cases hc

/-- A word up to where it ends is all of the word. -/
lemma word_append_inj {v s : List Char} (hw : ∀ c ∈ w, isWord c = true)
    (hv : ∀ c ∈ v, isWord c = true) (hrest : rest.head?.any isWord = false)
    (hs : s.head?.any isWord = false) (h : w ++ rest = v ++ s) : w = v ∧ rest = s := by
  have hend := (Option.any_eq_false _ _).1 hs
  exact append_inj_of_edge (P := (isWord · = true)) (Q := (isWord · = false)) hw
    ((Option.any_eq_false _ _).1 hrest) (fun c hc => by simp [hv c hc])
    (fun c hc => by simp [hend c hc]) h

section Places

variable {c : Char}

lemma at?_within (hc : isWord c = true) (r : List Char) :
    aliasAt? (some c) r = none ∧ valueAt? (some c) r = none := by
  have h : Phrase.continuesWord (some c) = true := hc
  rw [aliasAt?, valueAt?, if_pos h, if_pos h]
  exact ⟨rfl, rfl⟩

lemma exists_of_stripBy?_as {r : List Char}
    (h : Phrase.stripBy? (· == ·) ['a', 's', ' '] t = some r) :
    ∃ b t', t = 'a' :: 's' :: b :: t' ∧ isBlank b = true := by
  obtain _ | ⟨c, _ | ⟨d, _ | ⟨b, t⟩⟩⟩ := t
  all_goals simp [Phrase.stripBy?] at h
  obtain ⟨rfl, rfl, hb, -⟩ := h
  exact ⟨b, t, rfl, hb⟩

/-- An alias is found only where `as` and white space stand. -/
lemma exists_of_aliasAt? (h : aliasAt? before t ≠ none) :
    ∃ b t', t = 'a' :: 's' :: b :: t' ∧ isBlank b = true := by
  obtain ⟨r, hr⟩ := Option.ne_none_iff_exists'.1 h
  rw [aliasAt?] at hr
  split_ifs at hr
  obtain ⟨_, hstrip, -⟩ := Option.bind_eq_some_iff.1 hr
  exact exists_of_stripBy?_as hstrip

lemma aliasAt?_eq_none_of_ne (hc : c ≠ 'a') (b : Option Char) (r : List Char) :
    aliasAt? b (c :: r) = none := by
  by_contra h
  obtain ⟨_, _, heq, -⟩ := exists_of_aliasAt? h
  cases heq
  exact hc rfl

/-- No alias begins at another word than `as`. -/
lemma aliasAt?_eq_none_of_word (hw : ∀ c ∈ w, isWord c = true) (hne : w ≠ "as".toList)
    (hrest : rest.head?.any isWord = false) : aliasAt? before (w ++ rest) = none := by
  by_contra h
  obtain ⟨b, r, heq, hb⟩ := exists_of_aliasAt? h
  have hedge : (b :: r).head?.any isWord = false := (letterless hb).isWord
  exact hne (word_append_inj (v := ['a', 's']) hw (forall_mem_of_all (by decide)) hrest hedge heq).1

/-- The alias behind `as` is found. -/
lemma aliasAt?_as (hw : ∀ c ∈ w, isWord c = true) (hne : w ≠ [])
    (hrest : rest.head?.any isWord = false) :
    aliasAt? (some ' ') ('a' :: 's' :: ' ' :: (w ++ rest)) = some rest := by
  obtain ⟨c, w, rfl⟩ := List.exists_cons_of_ne_nil hne
  have hc : isWord c = true := hw c List.mem_cons_self
  have hblank : isBlank c = false := not_blank_of_word hc
  have hdrop : (c :: w ++ rest).dropWhile isWord = rest :=
    Analysis.dropWhile_append_of_head hw ((Option.any_eq_false _ _).1 hrest)
  have hstrip : Phrase.stripBy? (· == ·) ['a', 's', ' '] ('a' :: 's' :: ' ' :: (c :: w ++ rest))
      = some (c :: w ++ rest) := by
    simp [Phrase.stripBy?, hblank, show isBlank ' ' = true by decide]
  rw [aliasAt?, if_neg (by decide), hstrip, Option.bind_some, if_pos (by exact hc), hdrop]

/-- A whole word is stripped off a word if it is that word. -/
lemma filter_stripFront? {k : List Char} (hk : ∀ c ∈ k, isWord c = true)
    (hw : ∀ c ∈ w, isWord c = true) (hrest : rest.head?.any isWord = false) :
    (stripFront? (· == ·) k (w ++ rest)).filter (fun r => !startsWithWord r)
      = if w = k then some rest else none := by
  split_ifs with h
  · rw [h, stripFront?_append, Option.filter_some, startsWithWord_eq, hrest]
    rfl
  · rw [Option.filter_eq_none_iff]
    intro r hr hend
    rw [startsWithWord_eq, Bool.not_eq_true'] at hend
    exact h (word_append_inj hw hk hrest hend (eq_append_of_stripFront? hr)).1

/-- A word that stands for a value is found where it is all of the word there. -/
lemma valueAt?_word (hbefore : before.any isWord = false) (hw : ∀ c ∈ w, isWord c = true)
    (hrest : rest.head?.any isWord = false) :
    valueAt? before (w ++ rest)
      = if ∃ k ∈ valueKeywords, w = k.toList then some rest else none := by
  have hsolid : ∀ k ∈ valueKeywords, k.toList.all isWord = true := by decide
  rw [valueAt?, if_neg (by rw [Phrase.continuesWord, hbefore]; decide)]
  generalize valueKeywords = ks at hsolid ⊢
  induction ks with
  | nil => simp
  | cons k ks ih =>
    obtain ⟨hk, hks⟩ := List.forall_mem_cons.1 hsolid
    rw [List.findSome?_cons, filter_stripFront? (List.all_eq_true.1 hk) hw hrest, ih hks]
    by_cases h : w = k.toList <;> simp [h]

lemma valueAt?_eq_none_of_ne (hc : c ∉ ['t', 'f', 'n']) (b : Option Char) (r : List Char) :
    valueAt? b (c :: r) = none := by
  rw [valueAt?]
  split_ifs
  · rfl
  · have hfirst : ∀ k ∈ valueKeywords, k.toList.head?.any (['t', 'f', 'n'].contains ·) = true := by
      decide
    rw [List.findSome?_eq_none_iff]
    intro k hk
    obtain ⟨d, hkd, hd⟩ := (Option.any_eq_true _ _).1 (hfirst k hk)
    rw [Option.filter_eq_none_iff]
    intro r' hr'
    have hhead := congrArg List.head? (eq_append_of_stripFront? hr')
    rw [List.head?_append, hkd] at hhead
    cases hhead
    exact absurd (List.contains_iff_mem.1 hd) hc

end Places

end QueryTutor.Query
