import QueryTutor.Proofs.Analysis.Reference

/-!
# Reading references to tables from left to right

The tables of a text are those named at the places that are met when the text is read from left to
right, where reading goes on behind each name that has been read.
-/

namespace QueryTutor.Analysis
open Text Phrase

variable {k : String} {u v word space name rest t : List Char} {names : List (List Char)}

/-! ## Names -/

/-- The text is a segment of the name of a table: a letter of basic Latin in whatever case or an
underscore, and then word characters and dollar signs. -/
def IsSegment (w : List Char) : Prop :=
  ∃ c r, w = c :: r ∧ isNameHead c = true ∧ ∀ d ∈ r, isTablePart d = true

/-- The text is the name of a table, alone or with that of its schema and a point before it. -/
def IsTableName (w : List Char) : Prop :=
  IsSegment w ∨ ∃ schema table, w = schema ++ '.' :: table ∧ IsSegment schema ∧ IsSegment table

lemma isSegment_of_tablePart? (h : tablePart? t = some (name, rest)) : IsSegment name := by
  cases t with
  | nil => cases h
  | cons c t =>
    rw [tablePart?] at h
    split_ifs at h with hc
    cases h
    exact ⟨c, _, rfl, hc, fun d => List.mem_takeWhile_imp⟩

lemma isTableName_of_tableName? (h : tableName? t = some (name, rest)) : IsTableName name := by
  rw [tableName?, Option.map_eq_some_iff] at h
  obtain ⟨⟨part, r⟩, hpart, h⟩ := h
  have hfirst := isSegment_of_tablePart? hpart
  dsimp only at h
  split at h
  case h_2 =>
    cases h
    exact .inl hfirst
  case h_1 =>
    split at h
    case h_2 =>
      cases h
      exact .inl hfirst
    case h_1 hpart' =>
      cases h
      exact .inr ⟨part, _, rfl, hfirst, isSegment_of_tablePart? hpart'⟩

/-! ## Places -/

/-- A table is named behind `u`, where the text goes on with `t`. -/
def NamedAt (u t : List Char) : Prop :=
  ∃ k word space name rest, t = word ++ (space ++ (name ++ rest)) ∧ Refers k u word space name rest

lemma keyword_of_tableWord : ∀ k ∈ tableWords, ∃ keyword ∈ tableKeywords,
    keyword.toList = k.toList ++ [' '] ∧ (keyword = "update " → k = "update") := by
  decide

/-- The keyword of a reference is taken off the text together with the white space behind it. -/
lemma Refers.exists_keyword (h : Refers k u word space name rest) : ∃ keyword ∈ tableKeywords,
    (keyword == "update " && followsFor u.reverse) = false ∧
      Phrase.strip? keyword.toList (word ++ (space ++ (name ++ rest))) = some (name ++ rest) := by
  obtain ⟨keyword, hkeyword, hsplit, hupdate⟩ := keyword_of_tableWord k h.mem
  refine ⟨keyword, hkeyword, ?_, ?_⟩
  · rw [Bool.and_eq_false_iff, beq_eq_false_iff_ne, or_iff_not_imp_left, not_not]
    exact fun hkey => h.update (hupdate hkey)
  · obtain ⟨hne, hblank⟩ := h.space
    obtain ⟨b, space, rfl⟩ := List.exists_cons_of_ne_nil hne
    obtain ⟨hb, hspace⟩ := List.forall_mem_cons.1 hblank
    have hdrop : (space ++ (name ++ rest)).dropWhile isBlank = name ++ rest := by
      rw [List.dropWhile_append_of_pos hspace]
      exact trimLeft_of_not_startsBlank (startsBlank_of_tableName? h.name)
    rw [hsplit, Phrase.strip?, stripBy?_append_phrase]
    refine Option.bind_eq_some_iff.2 ⟨_, h.strip? _, strip?_space_eq_some.2 ?_⟩
    exact ⟨b, _, rfl, hb, congrArg some hdrop⟩

/-- What is named behind a table word is found there. -/
lemma Refers.tableAt? (h : Refers k u word space name rest) :
    tableAt? u.reverse (word ++ (space ++ (name ++ rest))) = some (name, rest) := by
  obtain ⟨keyword, hkeyword, hfor, hstrip⟩ := h.exists_keyword
  have hbefore : continuesWord u.reverse.head? = false := by
    rw [List.head?_reverse]
    exact h.before
  have hfound : (tableKeywords.findSome? fun key =>
      if key == "update " && followsFor u.reverse then none
      else (Phrase.strip? key.toList (word ++ (space ++ (name ++ rest)))).bind tableName?).isSome := by
    refine List.findSome?_isSome_iff.2 ⟨keyword, hkeyword, ?_⟩
    rw [hfor, hstrip, if_neg Bool.false_ne_true, Option.bind_some, h.name]
    rfl
  obtain ⟨found, hfirst⟩ := Option.isSome_iff_exists.1 hfound
  -- no other keyword begins here, so the first find is this one
  obtain ⟨key, hkey, hhere⟩ := List.exists_of_findSome?_eq_some hfirst
  split_ifs at hhere
  obtain ⟨r, hr, hname⟩ := Option.bind_eq_some_iff.1 hhere
  have heq := distinct_tableKeywords.eq_of_strip? (List.mem_map_of_mem hkey)
    (List.mem_map_of_mem hkeyword) hr hstrip
  rw [heq, hstrip] at hr
  cases hr
  rw [h.name] at hname
  cases hname
  exact tableAt?_eq_some.2 ⟨hbefore, hfirst⟩

lemma namedAt_iff : NamedAt u t ↔ (tableAt? u.reverse t).isSome = true := by
  constructor
  · rintro ⟨k, word, space, name, rest, rfl, h⟩
    rw [h.tableAt?]
    rfl
  · intro h
    obtain ⟨⟨name, rest⟩, hhere⟩ := Option.isSome_iff_exists.1 h
    obtain ⟨k, word, space, rfl, hrefers⟩ := exists_refers hhere
    exact ⟨k, word, space, name, rest, rfl, hrefers⟩

/-- No table is named behind `u` in the front `v` of a text that goes on with `t`. -/
def Unnamed (u v t : List Char) : Prop :=
  ∀ x y, v = x ++ y → y ≠ [] → ¬ NamedAt (u ++ x) (y ++ t)

lemma unnamed_nil (u t : List Char) : Unnamed u [] t := by
  intro x y h hne
  exact absurd (List.append_eq_nil_iff.1 h.symm).2 hne

lemma unnamed_cons {c : Char} (hhere : ¬ NamedAt u (c :: (v ++ t))) (h : Unnamed (u ++ [c]) v t) :
    Unnamed u (c :: v) t := by
  intro x y hsplit hne
  cases x with
  | nil =>
    obtain rfl : c :: v = y := hsplit
    rw [List.append_nil]
    exact hhere
  | cons d x =>
    obtain ⟨rfl, rfl⟩ := List.cons.inj hsplit
    have := h x y rfl hne
    rwa [List.append_assoc] at this

/-- A text has a first place at which a table is named, or none. -/
lemma unnamed_or_exists (u t : List Char) :
    Unnamed u t [] ∨ ∃ v w, t = v ++ w ∧ Unnamed u v w ∧ NamedAt (u ++ v) w := by
  induction t generalizing u with
  | nil => exact .inl (unnamed_nil u [])
  | cons c t ih =>
    by_cases hhere : NamedAt u (c :: t)
    · exact .inr ⟨[], c :: t, rfl, unnamed_nil u _, by rwa [List.append_nil]⟩
    · obtain h | ⟨v, w, rfl, h, hnamed⟩ := ih (u ++ [c])
      · exact .inl (unnamed_cons (by rwa [List.append_nil]) h)
      · refine .inr ⟨c :: v, w, rfl, unnamed_cons hhere h, ?_⟩
        rwa [List.append_assoc] at hnamed

/-! ## The scan -/

/-- Reading `t` behind `u` from left to right names the tables: none if none is named, or else the one
at the first place where one is named, and then those that are named behind its name. -/
inductive Scans : List Char → List Char → List (List Char) → Prop where
  | done {u t : List Char} :
    Unnamed u t [] →
    Scans u t []
  | next {k : String} {u v word space name rest : List Char} {names : List (List Char)} :
    Unnamed u v (word ++ (space ++ (name ++ rest))) →
    Refers k (u ++ v) word space name rest →
    Scans (u ++ (v ++ (word ++ (space ++ name)))) rest names →
    Scans u (v ++ (word ++ (space ++ (name ++ rest)))) (name :: names)

lemma exists_scans (u t : List Char) : ∃ names, Scans u t names := by
  -- on the length, as reading goes on behind a whole name
  induction hn : t.length using Nat.strong_induction_on generalizing u t with
  | _ n ih =>
    obtain h | ⟨v, w, rfl, h, k, word, space, name, rest, rfl, hrefers⟩ := unnamed_or_exists u t
    · exact ⟨[], .done h⟩
    · have hlt : rest.length < n := by
        have := List.length_pos_of_ne_nil hrefers.word_ne_nil
        simp only [← hn, List.length_append]
        omega
      obtain ⟨names, hnames⟩ := ih rest.length hlt (u ++ (v ++ (word ++ (space ++ name)))) rest rfl
      exact ⟨name :: names, .next h hrefers hnames⟩

/-- The rest of the last name is passed over. -/
lemma tablesFrom_length (u w t : List Char) :
    tablesFrom u.reverse w.length (w ++ t) = tablesFrom (u ++ w).reverse 0 t := by
  induction w generalizing u with
  | nil => rw [List.append_nil, List.length_nil, List.nil_append]
  | cons c w ih =>
    have := ih (u ++ [c])
    rw [List.reverse_concat, List.append_assoc] at this
    exact this

lemma Unnamed.tablesFrom (h : Unnamed u v t) :
    tablesFrom u.reverse 0 (v ++ t) = tablesFrom (u ++ v).reverse 0 t := by
  apply tablesFrom_append_of_none
  intro x y hsplit hne
  have := h x y hsplit hne
  rwa [namedAt_iff, Option.not_isSome_iff_eq_none] at this

lemma Refers.tablesFrom (h : Refers k u word space name rest) :
    tablesFrom u.reverse 0 (word ++ (space ++ (name ++ rest)))
      = name :: tablesFrom (u ++ (word ++ (space ++ name))).reverse 0 rest := by
  have hhere := h.tableAt?
  obtain ⟨c, w, rfl⟩ := List.exists_cons_of_ne_nil h.word_ne_nil
  have hfront : u ++ (c :: w ++ (space ++ name)) = u ++ [c] ++ (w ++ (space ++ name)) := by simp
  have hback : w ++ (space ++ (name ++ rest)) = w ++ (space ++ name) ++ rest := by simp
  have hlength : (w ++ (space ++ name) ++ rest).length - rest.length
      = (w ++ (space ++ name)).length := by
    rw [List.length_append, Nat.add_sub_cancel]
  rw [List.cons_append, hback] at hhere ⊢
  rw [Analysis.tablesFrom, hhere, hfront, ← tablesFrom_length, List.reverse_concat]
  dsimp only
  rw [hlength]

lemma Scans.tablesFrom (h : Scans u t names) : tablesFrom u.reverse 0 t = names := by
  induction h with
  | @done u t h =>
    have := h.tablesFrom
    rw [List.append_nil] at this
    rw [this, Analysis.tablesFrom]
  | next h hrefers _ ih =>
    rw [h.tablesFrom, hrefers.tablesFrom, List.append_assoc, ih]

/-- Reading a text from left to right names its tables, and nothing else. -/
lemma scans_iff {q : List Char} : Scans [] q names ↔ names = tableReferences q := by
  have unique : ∀ {names}, Scans [] q names → names = tableReferences q :=
    fun h => h.tablesFrom.symm
  refine ⟨unique, ?_⟩
  rintro rfl
  obtain ⟨names, h⟩ := exists_scans [] q
  rwa [← unique h]

end QueryTutor.Analysis
