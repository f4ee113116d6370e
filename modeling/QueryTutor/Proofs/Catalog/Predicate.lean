import QueryTutor.Proofs.Catalog.Connectives

/-!
# Conditions with one connective

A condition of comparisons and ranges that are joined by one connective only.  Ranges are written
with a word `and` of their own, and it is counted as a connective: among predicates joined by `or`,
a range is detected as mixed connectives, though there is only one connective.
-/

namespace QueryTutor.Catalog
open Text Mistake

variable {k : String} {x y u v w : List Char}

/-! ## Words of conditions -/

/-- The words that decide what is mixed. -/
def conditionWords : List String :=
  ["and", "or", "where"]

/-- None of the characters ends a condition. -/
def IsUnclosed (x : List Char) : Prop :=
  ∀ c ∈ x, ¬ (c = '(' ∨ c = ')' ∨ c = ';')

lemma IsUnclosed.append (hx : IsUnclosed x) (hy : IsUnclosed y) : IsUnclosed (x ++ y) :=
  List.forall_mem_append.2 ⟨hx, hy⟩

lemma isUnclosed_of_words (hw : ∀ c ∈ w, isWord c = true) : IsUnclosed w := by
  rintro c hc (rfl | rfl | rfl) <;> exact absurd (hw _ hc) (by decide)

lemma isUnclosed_of_space (hw : IsSpace w) : IsUnclosed w := by
  rintro c hc (rfl | rfl | rfl) <;> exact absurd (hw.2 _ hc) (by decide)

lemma isSolid_of_mem (hk : k ∈ conditionWords) : IsSolid k := by
  simp only [conditionWords, List.mem_cons, List.not_mem_nil, or_false] at hk
  obtain rfl | rfl | rfl := hk
  · exact isSolid_and
  · exact isSolid_or
  · exact isSolid_where

lemma isSolid_between : IsSolid "between" :=
  isSolid_of_firm ['b', 'e', 't', 'w', 'e', 'e', 'n'] (by decide) (by decide +kernel)

lemma isWordKind_reads (hk : k ∈ conditionWords) : IsWordKind (Reads k) := by
  refine fun w hw => ⟨?_, isSolid_of_mem hk w hw⟩
  rintro rfl
  have hne : ∀ k ∈ conditionWords, k.toList ≠ [] := by decide
  exact hne k hk hw.symm

/-- The letters of a whole word stand in the text, in some case. -/
lemma HasWhole.isInfix (h : HasWhole (Reads k) x) : k.toList <:+: x.map Fold.key := by
  obtain ⟨u, w, v, rfl, hw, -⟩ := h
  refine ⟨u.map Fold.key, v.map Fold.key, ?_⟩
  rw [List.append_assoc, List.map_append, List.map_append, ← (hw : w.map Fold.key = k.toList)]

/-! ## Predicates -/

/-- A column, by any text in which no condition ends and none of the words stands whole. -/
structure Column where
  text : List Char
  unclosed : IsUnclosed text
  wordless : ∀ k ∈ conditionWords, ¬ HasWhole (Reads k) text

/-- A name of the characters of words is a column, unless it is one of the words. -/
def Column.name (w : List Char) (hw : ∀ c ∈ w, isWord c = true)
    (hnone : ∀ k ∈ conditionWords, ¬ Reads k w) : Column where
  text := w
  unclosed := isUnclosed_of_words hw
  wordless k hk := (hasWhole_iff_of_forall hw).not.2 (hnone k hk)

/-- The characters that numbers are written with. -/
def numerals : List Char :=
  "0123456789.+-eE".toList

structure Number where
  text : List Char
  numeric : ∀ c ∈ text, c ∈ numerals

/-- A sign of comparison, with or without white space about it. -/
structure Comparator where
  text : List Char
  nonempty : text ≠ []
  unclosed : IsUnclosed text
  wordless : ∀ c ∈ text, isWord c = false

/-- A word in whatever case, with white space before and behind it. -/
structure Link (word : String) where
  before : List Char
  letters : List Char
  behind : List Char
  space_before : IsSpace before
  reads : Reads word letters
  space_behind : IsSpace behind

def Link.text {word : String} (l : Link word) : List Char :=
  l.before ++ (l.letters ++ l.behind)

/-- Comparisons of a column and a number, either of which can come first, and ranges. -/
inductive Predicate where
  | comparison (c : Column) (s : Comparator) (n : Number)
  | reversed (n : Number) (s : Comparator) (c : Column)
  | range (c : Column) (between : Link "between") (low : Number) (and : Link "and") (high : Number)

namespace Predicate

def text : Predicate → List Char
  | comparison c s n => c.text ++ (s.text ++ n.text)
  | reversed n s c => n.text ++ (s.text ++ c.text)
  | range c between low and high =>
    c.text ++ (between.text ++ (low.text ++ (and.text ++ high.text)))

def isRange : Predicate → Bool
  | range .. => true
  | _ => false

end Predicate

inductive Connective where
  | and
  | or

def Connective.word : Connective → String
  | .and => "and"
  | .or => "or"

lemma Connective.word_mem (c : Connective) : c.word ∈ conditionWords := by
  cases c <;> decide

/-- The text of predicates that are joined by one connective. -/
def joined {c : Connective} (first : Predicate) (others : List (Link c.word × Predicate)) :
    List Char :=
  first.text ++ others.flatMap fun o => o.1.text ++ o.2.text

/-- The selection of what meets the condition. -/
def selectWhere (condition : List Char) : List Char :=
  "SELECT c FROM t WHERE ".toList ++ condition

/-! ## Words in predicates -/

lemma Number.unclosed (n : Number) : IsUnclosed n.text := by
  rintro c hc (rfl | rfl | rfl) <;> exact absurd (n.numeric _ hc) (by decide)

/-- Each of the words has a letter that is in no number. -/
lemma Number.wordless (n : Number) (hk : k ∈ conditionWords) : ¬ HasWhole (Reads k) n.text := by
  intro h
  have hletter : ∀ k ∈ conditionWords,
      (k.toList.any fun d => numerals.all fun c => Fold.key c != d) = true := by
    decide +kernel
  obtain ⟨d, hd, hnone⟩ := List.any_eq_true.1 (hletter k hk)
  obtain ⟨c, hc, rfl⟩ := List.mem_map.1 (h.isInfix.subset hd)
  exact bne_iff_ne.1 (List.all_eq_true.1 hnone c (n.numeric c hc)) rfl

lemma Link.unclosed {word : String} (l : Link word) (hword : IsSolid word) : IsUnclosed l.text :=
  (isUnclosed_of_space l.space_before).append
    ((isUnclosed_of_words (hword _ l.reads)).append (isUnclosed_of_space l.space_behind))

/-- Of words that stand whole, a word in between adds itself. -/
lemma Link.hasWhole_iff {word : String} (l : Link word) (hword : IsSolid word)
    (hk : k ∈ conditionWords) :
    HasWhole (Reads k) (x ++ (l.text ++ y)) ↔
      HasWhole (Reads k) x ∨ k = word ∨ HasWhole (Reads k) y := by
  have hkind := isWordKind_reads hk
  have hself : Reads k l.letters ↔ k = word := by
    rw [Reads, (l.reads : l.letters.map Fold.key = word.toList), eq_comm, String.toList_inj]
  rw [Link.text, List.append_assoc, List.append_assoc,
    hasWhole_apart_iff hkind l.space_before.ne_nil (not_word_of_space l.space_before),
    hasWhole_apart_iff hkind l.space_behind.ne_nil (not_word_of_space l.space_behind),
    hasWhole_iff_of_forall (hword _ l.reads), hself]

namespace Predicate

lemma unclosed (p : Predicate) : IsUnclosed p.text := by
  cases p with
  | comparison c s n => exact c.unclosed.append (s.unclosed.append n.unclosed)
  | reversed n s c => exact n.unclosed.append (s.unclosed.append c.unclosed)
  | range c between low and high =>
    exact c.unclosed.append ((between.unclosed isSolid_between).append
      (low.unclosed.append ((and.unclosed isSolid_and).append high.unclosed)))

/-- The only word in predicates is the `and` of a range. -/
lemma hasWhole_iff (p : Predicate) (hk : k ∈ conditionWords) :
    HasWhole (Reads k) p.text ↔ k = "and" ∧ p.isRange = true := by
  cases p with
  | comparison c s n =>
    rw [text, hasWhole_apart_iff (isWordKind_reads hk) s.nonempty s.wordless]
    simp [c.wordless k hk, n.wordless hk, isRange]
  | reversed n s c =>
    rw [text, hasWhole_apart_iff (isWordKind_reads hk) s.nonempty s.wordless]
    simp [c.wordless k hk, n.wordless hk, isRange]
  | range c between low and high =>
    have hne : k ≠ "between" := by
      rintro rfl
      exact absurd hk (by decide)
    rw [text, between.hasWhole_iff isSolid_between hk, and.hasWhole_iff isSolid_and hk]
    simp [c.wordless k hk, low.wordless hk, high.wordless hk, hne, isRange]

end Predicate

section Joined

variable {c : Connective}

lemma joined_cons (first p : Predicate) (l : Link c.word)
    (others : List (Link c.word × Predicate)) :
    joined first ((l, p) :: others) = first.text ++ (l.text ++ joined p others) := by
  simp [joined]

lemma unclosed_joined (first : Predicate) (others : List (Link c.word × Predicate)) :
    IsUnclosed (joined first others) := by
  induction others generalizing first with
  | nil => simpa [joined] using first.unclosed
  | cons o others ih =>
    rw [joined_cons]
    exact first.unclosed.append ((o.1.unclosed (isSolid_of_mem c.word_mem)).append (ih o.2))

/-- The words in a condition are the connective, if there is more than one predicate, and the `and`
of ranges. -/
lemma hasWhole_joined_iff (first : Predicate) (others : List (Link c.word × Predicate))
    (hk : k ∈ conditionWords) :
    HasWhole (Reads k) (joined first others) ↔
      (k = c.word ∧ others ≠ []) ∨
        (k = "and" ∧ ∃ p ∈ first :: others.map Prod.snd, p.isRange = true) := by
  induction others generalizing first with
  | nil => simp [joined, first.hasWhole_iff hk]
  | cons o others ih =>
    rw [joined_cons, o.1.hasWhole_iff (isSolid_of_mem c.word_mem) hk, first.hasWhole_iff hk, ih]
    simp only [List.map_cons, List.mem_cons, exists_eq_or_imp, ne_eq, reduceCtorEq,
      not_false_eq_true, and_true]
    tauto

end Joined

/-! ## Conditions behind the word -/

lemma MixesConnectives.hasWhole (h : MixesConnectives x) :
    HasWhole (Reads "and") x ∧ HasWhole (Reads "or") x := by
  have whole : ∀ {P : List Char → Prop} {i}, StandsAt P x i → HasWhole P x := by
    rintro P i ⟨j, u, w, v, hx, -, -, hw, hends⟩
    exact ⟨u, w, v, hx, hw, hends⟩
  obtain ⟨i, j, -, ⟨k, -, hand⟩, l, -, hor⟩ := h
  exact ⟨whole hand, whole hor⟩

lemma StandsAt.hasWhole_of_le {P : List Char → Prop} {i : Nat} (h : StandsAt P (u ++ v) i)
    (hi : u.length ≤ i) : HasWhole P v := by
  obtain ⟨j, a, w, b, heq, rfl, -, hw, ha, hb⟩ := h
  obtain ⟨a', rfl, rfl⟩ | ⟨b', rfl, hrest⟩ := List.append_eq_append_iff.1 heq
  · exact ⟨a', w, b, rfl, hw, any_getLast?_of_append ha, hb⟩
  · obtain rfl : b' = [] := by
      rw [List.length_append] at hi
      exact List.eq_nil_of_length_eq_zero (by omega)
    exact ⟨[], w, b, by simpa using hrest.symm, hw, rfl, hb⟩

lemma HasWhole.exists_standsAt {P : List Char → Prop} (hP : IsWordKind P) (h : HasWhole P v)
    (hv : v.head?.any isWord = false) : ∃ i, u.length ≤ i ∧ StandsAt P (u ++ v) i := by
  obtain ⟨a, w, b, rfl, hw, ha, hb⟩ := h
  refine ⟨(u ++ a).length, by simp, _, u ++ a, w, b, by simp, rfl, rfl, hw, ?_, hb⟩
  rw [any_getLast?_append]
  split_ifs with hnil
  · obtain ⟨hne, hword⟩ := hP w hw
    rw [hnil, List.nil_append, any_head?_append, if_neg hne, any_head?_of_forall hne hword] at hv
    cases hv
  · exact ha

/-- Both connectives in what stands behind a word `where` are mixed, if that goes on to the end of
the text. -/
lemma mixesConnectives_of_hasWhole (hw : Reads "where" w) (hu : u.getLast?.any isWord = false)
    (hv : v.head?.any isWord = false) (hunclosed : IsUnclosed v)
    (hnone : ¬ HasWhole (Reads "where") v) (hand : HasWhole (Reads "and") v)
    (hor : HasWhole (Reads "or") v) : MixesConnectives (u ++ (w ++ v)) := by
  have holds : ∀ k ∈ conditionWords, HasWhole (Reads k) v →
      Holds k (u ++ (w ++ v)) (u ++ w).length := by
    intro k hk h
    obtain ⟨i, hi, hstands⟩ := h.exists_standsAt (u := u ++ w) (isWordKind_reads hk) hv
    rw [← List.append_assoc]
    refine ⟨i, ⟨hi, fun n hn _ => ?_⟩, hstands⟩
    -- what would end the condition stands nowhere behind `where`
    rintro (⟨c, hc, hsign⟩ | hwhere)
    · rw [List.getElem?_append_right hn] at hc
      exact hunclosed c (List.mem_of_getElem? hc) hsign
    · exact hnone (hwhere.hasWhole_of_le hn)
  exact ⟨u.length, (u ++ w).length, ⟨u, w, v, rfl, rfl, rfl, hw, hu, hv⟩,
    holds "and" (by decide) hand, holds "or" (by decide) hor⟩

section Selection

variable {c : Connective}

lemma hasWhole_cons_blank_iff (hk : k ∈ conditionWords) :
    HasWhole (Reads k) ([' '] ++ v) ↔ HasWhole (Reads k) v := by
  have hblank := not_word_of_space isSpace_singleton
  have happ := hasWhole_append_iff (x := [' ']) (y := v) (isWordKind_reads hk)
    (.inl (hblank ' ' List.mem_cons_self))
  exact happ.trans (or_iff_right (not_hasWhole_of_forall (isWordKind_reads hk) hblank))

lemma selectWhere_eq (v : List Char) :
    selectWhere v = "SELECT c FROM t ".toList ++ ("WHERE".toList ++ ([' '] ++ v)) := by
  have hsplit : "SELECT c FROM t WHERE ".toList
      = "SELECT c FROM t ".toList ++ ("WHERE".toList ++ [' ']) := by
    decide
  calc selectWhere v = ("SELECT c FROM t ".toList ++ ("WHERE".toList ++ [' '])) ++ v :=
        congrArg (· ++ v) hsplit
    _ = _ := by simp only [List.append_assoc]

/-- No connective stands in front of the condition. -/
lemma hasWhole_selectWhere_iff (hk : k ∈ conditionWords) (hne : k ≠ "where") :
    HasWhole (Reads k) (selectWhere v) ↔ HasWhole (Reads k) v := by
  have hfixed : ∀ k ∈ conditionWords, k ≠ "where" →
      ¬ k.toList <:+: "SELECT c FROM t WHERE".toList.map Fold.key := by decide +kernel
  have hsplit : "SELECT c FROM t WHERE ".toList = "SELECT c FROM t WHERE".toList ++ [' '] := by
    decide
  have happ : selectWhere v = "SELECT c FROM t WHERE".toList ++ ([' '] ++ v) :=
    (congrArg (· ++ v) hsplit).trans (List.append_assoc _ _ _)
  rw [happ, hasWhole_apart_iff (isWordKind_reads hk) (List.cons_ne_nil _ _)
    (not_word_of_space isSpace_singleton)]
  exact or_iff_right fun h => hfixed k hk hne h.isInfix

lemma mixesConnectives_selectWhere_iff (hunclosed : IsUnclosed v)
    (hnone : ¬ HasWhole (Reads "where") v) :
    MixesConnectives (selectWhere v) ↔ HasWhole (Reads "and") v ∧ HasWhole (Reads "or") v := by
  have handMem : "and" ∈ conditionWords := by decide
  have horMem : "or" ∈ conditionWords := by decide
  constructor
  · intro h
    obtain ⟨hand, hor⟩ := h.hasWhole
    exact ⟨(hasWhole_selectWhere_iff handMem (by decide)).1 hand,
      (hasWhole_selectWhere_iff horMem (by decide)).1 hor⟩
  · rintro ⟨hand, hor⟩
    have hwhere : Reads "where" "WHERE".toList := by
      unfold Reads
      decide +kernel
    rw [selectWhere_eq]
    have hblank : isWord ' ' = false := not_word_of_space isSpace_singleton ' ' List.mem_cons_self
    refine mixesConnectives_of_hasWhole hwhere (by decide +kernel) hblank
      ((isUnclosed_of_space isSpace_singleton).append hunclosed) ?_
      ((hasWhole_cons_blank_iff handMem).2 hand) ((hasWhole_cons_blank_iff horMem).2 hor)
    rwa [hasWhole_cons_blank_iff (by decide)]

/-- Predicates that are joined by one connective have both words in them if that is `or` and one
of them is a range. -/
lemma mixesConnectives_joined_iff (first : Predicate) (others : List (Link c.word × Predicate)) :
    MixesConnectives (selectWhere (joined first others)) ↔
      c = .or ∧ others ≠ [] ∧ ∃ p ∈ first :: others.map Prod.snd, p.isRange = true := by
  have hnone : ¬ HasWhole (Reads "where") (joined first others) := by
    rw [hasWhole_joined_iff first others (by decide)]
    cases c <;> simp [Connective.word]
  rw [mixesConnectives_selectWhere_iff (unclosed_joined first others) hnone,
    hasWhole_joined_iff first others (by decide), hasWhole_joined_iff first others (by decide)]
  cases c <;> simp [Connective.word, and_comm]

/-- Among predicates that are joined by one connective, mixed connectives are detected exactly if
they are joined by `or`, there is more than one, and one is a range. -/
theorem mem_detect_joined_iff (first : Predicate) (others : List (Link c.word × Predicate))
    (heuristics : Bool) (enabled : List String) :
    ∃ ms, standard.detect (selectWhere (joined first others)) heuristics enabled = .ok ms ∧
      (Standard.andOrPrecedence ∈ ms ↔
        c = .or ∧ others ≠ [] ∧ ∃ p ∈ first :: others.map Prod.snd, p.isRange = true) := by
  obtain ⟨ms, hms, hmem⟩ := exists_detect_standard (selectWhere (joined first others)) heuristics
    enabled
  refine ⟨ms, hms, ?_⟩
  rw [hmem _ (by simp [standard, Standard.all]) rfl, anyOccursIn_andOrPrecedence_iff,
    mixesConnectives_joined_iff]

end Selection

/-! ## A range among alternatives -/

/-- The range `a BETWEEN 1 AND 2`. -/
def rangeOfA : Predicate :=
  .range (.name ['a'] (forall_mem_of_all (by decide)) (by unfold Reads; decide +kernel))
    ⟨[' '], "BETWEEN".toList, [' '], isSpace_singleton, by unfold Reads; decide +kernel, isSpace_singleton⟩
    ⟨['1'], forall_mem_of_all (by decide)⟩
    ⟨[' '], "AND".toList, [' '], isSpace_singleton, by unfold Reads; decide +kernel, isSpace_singleton⟩
    ⟨['2'], forall_mem_of_all (by decide)⟩

/-- The alternative `OR b = 3`. -/
def orEqualsB : Link Connective.or.word × Predicate :=
  (⟨[' '], "OR".toList, [' '], isSpace_singleton, by unfold Reads; decide +kernel, isSpace_singleton⟩,
    .comparison (.name ['b'] (forall_mem_of_all (by decide)) (by unfold Reads; decide +kernel))
      ⟨" = ".toList, by decide, forall_mem_of_all (by decide), forall_mem_of_all (by decide)⟩
      ⟨['3'], forall_mem_of_all (by decide)⟩)

/-- Mixed connectives are detected in a range and a comparison that are joined by `or`, though no
`and` joins anything. -/
theorem mem_detect_range_or_comparison :
    selectWhere (joined rangeOfA [orEqualsB])
        = "SELECT c FROM t WHERE a BETWEEN 1 AND 2 OR b = 3".toList ∧
      ∃ ms, standard.detect (selectWhere (joined rangeOfA [orEqualsB])) false [] = .ok ms ∧
        Standard.andOrPrecedence ∈ ms := by
  obtain ⟨ms, hms, hmem⟩ := exists_detect_standard (selectWhere (joined rangeOfA [orEqualsB])) false
    []
  refine ⟨by decide +kernel, ms, hms, ?_⟩
  rw [hmem _ (by simp [standard, Standard.all]) rfl, anyOccursIn_andOrPrecedence_iff,
    mixesConnectives_joined_iff]
  exact ⟨rfl, List.cons_ne_nil _ _, rangeOfA, List.mem_cons_self, rfl⟩

end QueryTutor.Catalog
