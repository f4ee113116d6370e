import QueryTutor.Check.Required
import QueryTutor.Proofs.Analysis.Selection
import QueryTutor.Proofs.Analysis.Unwrap
import QueryTutor.Proofs.FirstSeen

/-!
# Qualifiers of columns

Of what qualifies a selected expression the first name is dropped, and no more.  So a column keeps a
qualifier exactly if the expression has two of them, as a column behind a table and its schema has.
-/

namespace QueryTutor.Analysis
open Text Phrase

variable {a r t : List Char}

/-! ## Qualified texts -/

/-- The text can stand before the point of a qualified name: word characters and double quotes. -/
def Qualifies (a : List Char) : Prop :=
  a ≠ [] ∧ ∀ c ∈ a, isAliasPart c = true

/-- The text begins with a qualifier and its point. -/
def Qualified (t : List Char) : Prop :=
  ∃ a r, Qualifies a ∧ t = a ++ '.' :: r

/-- The text begins with two qualifiers, with or without white space between them. -/
def TwiceQualified (t : List Char) : Prop :=
  ∃ a bs r, Qualifies a ∧ (∀ b ∈ bs, isBlank b = true) ∧ Qualified r ∧ t = a ++ '.' :: (bs ++ r)

lemma isBlank_of_isAliasPart {c : Char} (hc : isAliasPart c = true) : isBlank c = false := by
  cases hblank : isBlank c with
  | false => rfl
  | true =>
    rw [isAliasPart, (letterless hblank).isWord, Bool.false_or, beq_iff_eq] at hc
    rw [hc] at hblank
    exact absurd hblank (by decide)

lemma dropQualifier_append (ha : Qualifies a) (r : List Char) :
    dropQualifier (a ++ '.' :: r) = r := by
  have hpoint : ∀ c ∈ ('.' :: r).head?, isAliasPart c = false := by
    rintro c ⟨⟩
    decide
  obtain ⟨c, s, rfl⟩ := List.exists_cons_of_ne_nil ha.1
  rw [dropQualifier, takeWhile_append_of_head ha.2 hpoint, dropWhile_append_of_head ha.2 hpoint]
  rfl

lemma dropQualifier_of_not_qualified (h : ¬ Qualified t) : dropQualifier t = t := by
  unfold dropQualifier
  split
  · rename_i c s r hfront hrest
    refine absurd ⟨c :: s, r, ⟨List.cons_ne_nil c s, ?_⟩, ?_⟩ h
    · intro d hd
      rw [← hfront] at hd
      exact List.mem_takeWhile_imp hd
    · rw [← hfront, ← hrest, List.takeWhile_append_dropWhile]
  · rfl

/-- Dropping a qualifier changes exactly the texts that begin with one. -/
lemma dropQualifier_eq_self_iff : dropQualifier t = t ↔ ¬ Qualified t := by
  constructor
  · rintro h ⟨a, r, ha, rfl⟩
    rw [dropQualifier_append ha] at h
    have hlen := congrArg List.length h
    rw [List.length_append, List.length_cons] at hlen
    omega
  · exact dropQualifier_of_not_qualified

lemma Qualified.of_prefix {s : List Char} (hs : Qualified s) (h : s <+: t) : Qualified t := by
  obtain ⟨a, r, ha, rfl⟩ := hs
  obtain ⟨u, rfl⟩ := h
  exact ⟨a, r ++ u, ha, by rw [List.append_assoc]; rfl⟩

lemma Qualified.not_startsBlank (h : Qualified t) : startsBlank t = false := by
  obtain ⟨a, r, ha, rfl⟩ := h
  obtain ⟨c, s, rfl⟩ := List.exists_cons_of_ne_nil ha.1
  have hc := isBlank_of_isAliasPart (ha.2 c List.mem_cons_self)
  simpa [startsBlank] using hc

/-- A qualified text stays qualified without the white space at its end. -/
lemma Qualified.trimRight (h : Qualified t) : Qualified (Text.trimRight t) := by
  obtain ⟨a, r, ha, rfl⟩ := h
  have keep : ∀ a : List Char, (∀ c ∈ a, isAliasPart c = true) →
      Text.trimRight (a ++ '.' :: r) = a ++ '.' :: Text.trimRight r := by
    intro a ha
    induction a with
    | nil => exact trimRight_cons (by decide) r
    | cons c a ih =>
      obtain ⟨hc, ha⟩ := List.forall_mem_cons.1 ha
      rw [List.cons_append, trimRight_cons (isBlank_of_isAliasPart hc), ih ha]
      rfl
  exact ⟨a, Text.trimRight r, ha, keep a ha.2⟩

/-- A trimmed text is qualified exactly if the text is, white space in front apart. -/
lemma qualified_trim_iff : Qualified (trim t) ↔
    ∃ bs s, (∀ b ∈ bs, isBlank b = true) ∧ Qualified s ∧ t = bs ++ s := by
  rw [trim_eq]
  constructor
  · intro h
    refine ⟨t.takeWhile isBlank, trimLeft t, fun b hb => List.mem_takeWhile_imp hb, ?_, ?_⟩
    · exact h.of_prefix (isPrefix_dropTrailing _ _)
    · exact (List.takeWhile_append_dropWhile).symm
  · rintro ⟨bs, s, hbs, hs, rfl⟩
    have hleft : trimLeft (bs ++ s) = s := by
      rw [trimLeft, List.dropWhile_append_of_pos hbs]
      exact trimLeft_of_not_startsBlank hs.not_startsBlank
    rw [hleft]
    exact hs.trimRight

/-- What is left of an expression without its qualifier is qualified exactly if it had two. -/
lemma qualified_trim_dropQualifier_iff (ht : startsBlank t = false) :
    Qualified (trim (dropQualifier t)) ↔ TwiceQualified t := by
  by_cases hq : Qualified t
  · obtain ⟨a, r, ha, rfl⟩ := hq
    rw [dropQualifier_append ha, qualified_trim_iff]
    constructor
    · rintro ⟨bs, s, hbs, hs, rfl⟩
      exact ⟨a, bs, s, ha, hbs, hs, rfl⟩
    · rintro ⟨a', bs, s, ha', hbs, hs, heq⟩
      refine ⟨bs, s, hbs, hs, ?_⟩
      have hdrop := congrArg dropQualifier heq
      rwa [dropQualifier_append ha, dropQualifier_append ha'] at hdrop
  · rw [dropQualifier_of_not_qualified hq, trim_of_not_startsBlank ht]
    constructor
    · intro h
      exact absurd (h.of_prefix (isPrefix_dropTrailing _ _)) hq
    · rintro ⟨a, bs, s, ha, -, -, rfl⟩
      exact absurd ⟨a, _, ha, rfl⟩ hq

/-! ## Selected expressions -/

lemma not_startsBlank_dropDistinct (h : startsBlank t = false) :
    startsBlank (dropDistinct t) = false := by
  have hword : "distinct ".toList = ['d', 'i', 's', 't', 'i', 'n', 'c', 't'] ++ [' '] :=
    String.toList_ofList
  rw [dropDistinct]
  cases hstrip : strip? "distinct ".toList t with
  | none => exact h
  | some rest =>
    rw [hword, strip?, stripBy?_append_phrase] at hstrip
    obtain ⟨s, -, hspace⟩ := Option.bind_eq_some_iff.1 hstrip
    obtain ⟨b, r, -, -, hrest⟩ := strip?_space_eq_some.1 hspace
    obtain rfl := Option.some.inj hrest
    exact startsBlank_trimLeft r

lemma not_startsBlank_trim (t : List Char) : startsBlank (trim t) = false :=
  startsBlank_trimLeft _

/-- What is inside calls begins with no white space, as the calls themselves do not. -/
lemma Unwraps.not_startsBlank {e r : List Char} (h : Unwraps e r) (he : startsBlank e = false) :
    startsBlank r = false := by
  induction h with
  | plain => exact he
  | inside _ _ _ ih =>
    apply ih
    exact not_startsBlank_dropDistinct (not_startsBlank_trim _)
  | name hcalls => exact startsBlank_of_prefix hcalls.isPrefix_name he

/-- The expression that an item of a selection is about, without its alias and the calls around it.
-/
def expression (item : List Char) : List Char :=
  unwrap (trim (dropAlias (dropDistinct (trim item))))

/-- The expressions that a query selects. -/
def selected (q : List Char) : List (List Char) :=
  match selectList? q with
  | none => []
  | some list => (splitTopLevel list).map expression

lemma not_startsBlank_expression (item : List Char) : startsBlank (expression item) = false :=
  (unwraps_unwrap _).not_startsBlank (not_startsBlank_trim _)

/-- A qualified column comes from an expression with two qualifiers, and each such expression has
one. -/
lemma exists_qualified_columnNames_iff (q : List Char) :
    (∃ c ∈ columnNames q, Qualified c) ↔ ∃ e ∈ selected q, TwiceQualified e := by
  have column : ∀ item, Qualified (itemColumn item) ↔ TwiceQualified (expression item) :=
    fun item => qualified_trim_dropQualifier_iff (not_startsBlank_expression item)
  cases hlist : selectList? q with
  | none =>
    rw [columnNames, selected, hlist]
    constructor
    · rintro ⟨_, h, _⟩
      cases h
    · rintro ⟨_, h, _⟩
      cases h
  | some list =>
    rw [columnNames_eq hlist, selected, hlist]
    constructor
    · rintro ⟨c, hc, hqualified⟩
      obtain ⟨hc, -⟩ := List.mem_filter.1 (mem_of_mem_firstSeenBy hc)
      obtain ⟨item, hitem, rfl⟩ := List.mem_map.1 hc
      exact ⟨_, List.mem_map_of_mem hitem, (column item).1 hqualified⟩
    · rintro ⟨e, he, htwice⟩
      obtain ⟨item, hitem, rfl⟩ := List.mem_map.1 he
      have hqualified := (column item).2 htwice
      refine ⟨itemColumn item, mem_firstSeen_of_mem (List.mem_filter.2 ?_), hqualified⟩
      refine ⟨List.mem_map_of_mem hitem, ?_⟩
      -- neither the empty text nor the wildcard is qualified
      obtain ⟨a, r, ha, heq⟩ := hqualified
      obtain ⟨c, s, rfl⟩ := List.exists_cons_of_ne_nil ha.1
      rw [heq]
      simp

/-! ## Paths -/

/-- A column behind qualifiers. -/
def path (qs : List Name) (n : Name) : List Char :=
  qs.foldr (fun q t => qualified (some q) t) n.1

lemma entry_path (qs : List Name) (n : Name) : Entry (path qs n) := by
  induction qs with
  | nil => exact n.entry
  | cons q qs ih => exact ih.qualified (some q)

lemma isBlank_path (qs : List Name) (n : Name) : ∀ c ∈ path qs n, isBlank c = false := by
  induction qs with
  | nil => exact n.isWordly.isBlank
  | cons q qs ih => exact isBlank_qualified ih (some q)

lemma bare_path (qs : List Name) (n : Name) : Bare (path qs n) := by
  cases qs with
  | nil => exact n.bare
  | cons q qs =>
    refine bare_name q (endsWord_cons rfl _) ?_
    intro c hc
    exact isBlank_path (q :: qs) n c (List.mem_of_mem_getLast? hc)

lemma call?_path (qs : List Name) (n : Name) : call? (path qs n) = none := by
  induction qs with
  | nil => exact call?_name n
  | cons q qs ih => exact call?_qualified ih (some q)

lemma path_ne_wildcard (qs : List Name) (n : Name) : path qs n ≠ ['*'] := by
  have hfront : ∃ m : Name, m.1 <+: path qs n := by
    cases qs with
    | nil => exact ⟨n, List.prefix_rfl⟩
    | cons q qs => exact ⟨q, List.prefix_append _ _⟩
  intro h
  obtain ⟨m, hm⟩ := hfront
  obtain ⟨c, r, hname, hc⟩ := m.exists_cons
  rw [h, hname] at hm
  obtain ⟨rfl, -⟩ := List.cons_prefix_cons.1 hm
  exact absurd hc (by decide)

/-- The first qualifier of a path is dropped. -/
lemma itemColumn_path (qs : List Name) (n : Name) : itemColumn (path qs n) = path qs.tail n := by
  have hdrop : dropAlias (path qs n) = path qs n :=
    dropAliasAfter_eq_self (unaliased_of_solid (isBlank_path qs n)) none
  have hitem := itemColumn_bare (bare_path qs n) hdrop (bare_path qs n) false
  rw [withDistinct_false, unwrap_of_call? (call?_path qs n)] at hitem
  rw [hitem]
  cases qs with
  | nil => exact (congrArg trim (dropQualifier_name n)).trans n.bare.trim
  | cons q qs =>
    have hq : Qualifies q.1 := ⟨q.ne_nil, q.isWordly.isAliasPart⟩
    exact (congrArg trim (dropQualifier_append hq _)).trans (bare_path qs n).trim

lemma columnNames_path (qs : List Name) (n : Name) (r : List Char) :
    columnNames (['s', 'e', 'l', 'e', 'c', 't', ' '] ++ path qs n
        ++ [' ', 'f', 'r', 'o', 'm', ' '] ++ r) = [path qs.tail n] := by
  have hone : [path qs n] ≠ [] := List.cons_ne_nil _ _
  have hcolumns := columnNames_entries hone (List.forall_mem_singleton.2 (entry_path qs n)) r
  rw [List.intercalate_singleton, List.map_singleton, itemColumn_path] at hcolumns
  have hkept : (!(path qs.tail n).isEmpty && path qs.tail n != ['*']) = true := by
    rw [Bool.and_eq_true, bne_iff_ne]
    exact ⟨by simpa using (bare_path qs.tail n).ne_nil, path_ne_wildcard qs.tail n⟩
  rw [hcolumns, List.filter_cons, if_pos hkept]
  rfl

/-! ## What columns keep -/

/-- No column of a query is qualified, so that dropping qualifiers again changes nothing, exactly if
none of its selected expressions has two qualifiers.  Of any number of qualifiers before a column the
first one is dropped. -/
theorem unqualified_columnNames_iff (q : List Char) :
    ((∀ c ∈ columnNames q, ¬ Qualified c ∧ dropQualifier c = c) ↔
      ∀ e ∈ selected q, ¬ TwiceQualified e) ∧
    ∀ (qs : List Name) (n : Name) (r : List Char),
      columnNames (['s', 'e', 'l', 'e', 'c', 't', ' '] ++ path qs n
        ++ [' ', 'f', 'r', 'o', 'm', ' '] ++ r) = [path qs.tail n] := by
  refine ⟨?_, columnNames_path⟩
  have hexists := exists_qualified_columnNames_iff q
  constructor
  · intro h e he htwice
    obtain ⟨c, hc, hqualified⟩ := hexists.2 ⟨e, he, htwice⟩
    exact (h c hc).1 hqualified
  · intro h c hc
    have hnot : ¬ Qualified c := by
      intro hqualified
      obtain ⟨e, he, htwice⟩ := hexists.1 ⟨c, hc, hqualified⟩
      exact h e he htwice
    exact ⟨hnot, dropQualifier_of_not_qualified hnot⟩

/-- A column behind a table and its schema keeps the table, and is not found by its name. -/
theorem columnNames_of_schema :
    columnNames "select hr.emp.name from hr.emp".toList = ["emp.name".toList] ∧
      Qualified "emp.name".toList ∧
      Check.hasName ((columnNames "select hr.emp.name from hr.emp".toList).map String.ofList) "name"
        = false := by
  have hcolumns : columnNames "select hr.emp.name from hr.emp".toList = ["emp.name".toList] := by
    decide +kernel
  refine ⟨hcolumns, ⟨['e', 'm', 'p'], ['n', 'a', 'm', 'e'], ?_, String.toList_ofList⟩, ?_⟩
  · have hparts : ['e', 'm', 'p'].all isAliasPart = true := by decide
    exact ⟨by decide, List.all_eq_true.1 hparts⟩
  · rw [hcolumns]
    decide +kernel

end QueryTutor.Analysis
