import Mathlib.Data.List.Nodup
import QueryTutor.Analysis.Basic
import QueryTutor.Proofs.Analysis.Scan
import QueryTutor.Proofs.Analysis.SelectionList
import QueryTutor.Proofs.Analysis.Unwrap

/-!
# Consistency of analyses

The tables and columns that an analysis tells of are pieces of the text, without repeats; the columns
are told only of a text that has the words of a selection, and the tables are those that reading the
text from left to right meets.
-/

namespace QueryTutor.Analysis
open Text Phrase

variable {k : String} {b : Boundary} {q t c list part : List Char} {names : List (List Char)}

/-! ## Pieces -/

lemma isInfix_slice (q : List Char) (start stop : Nat) : slice q start stop <:+: q :=
  (List.take_prefix _ _).isInfix.trans (List.drop_suffix _ _).isInfix

lemma isPrefix_dropAliasAfter (before : Option Char) (t : List Char) :
    dropAliasAfter before t <+: t := by
  induction t generalizing before with
  | nil => exact List.nil_prefix
  | cons c t ih =>
    rw [dropAliasAfter]
    split_ifs
    · exact List.nil_prefix
    · exact (List.prefix_cons_inj c).2 (ih (some c))

lemma isSuffix_dropQualifier (t : List Char) : dropQualifier t <:+ t := by
  unfold dropQualifier
  split
  case h_1 r _ hrest =>
    have hr : r <:+ t.dropWhile isAliasPart := hrest ▸ List.suffix_cons '.' r
    exact hr.trans (List.dropWhile_suffix _)
  case h_2 => exact List.suffix_rfl

/-- Nothing is put into a column that its item has not. -/
lemma isInfix_itemColumn (item : List Char) : itemColumn item <:+: item :=
  calc itemColumn item
      <:+: dropQualifier (unwrap (trim (dropAlias (dropDistinct (trim item))))) := isInfix_trim _
    _ <:+: unwrap (trim (dropAlias (dropDistinct (trim item)))) :=
      (isSuffix_dropQualifier _).isInfix
    _ <:+: trim (dropAlias (dropDistinct (trim item))) := (unwraps_unwrap _).isInfix
    _ <:+: dropAlias (dropDistinct (trim item)) := isInfix_trim _
    _ <:+: dropDistinct (trim item) := (isPrefix_dropAliasAfter none _).isInfix
    _ <:+: trim item := (isSuffix_dropDistinct _).isInfix
    _ <:+: item := isInfix_trim item

/-! ## Columns -/

/-- A keyword whose clause begins at top level stands in the text as whole words. -/
lemma occurs_of_mem_boundaries (hk : k ∈ clauseKeywords) (hb : b ∈ boundaries q)
    (hkind : b.kind = k.toList) : occurs k.toList q = true := by
  obtain ⟨earlier, later, hsplit⟩ := List.append_of_mem hb
  obtain ⟨w, ⟨u, rest, p, rfl, hcovers, rfl⟩, -⟩ := exists_opens hsplit
  rw [Option.or_none] at hcovers
  exact hcovers.occurs hk (hcovers.mem_openings hk hkind)

/-- The list of a selection stands in the text between the words of the selection. -/
lemma selectList?_eq_some (h : selectList? q = some list) :
    list <:+: q ∧ occurs "select".toList q = true ∧ occurs "from".toList q = true := by
  rw [selectList?] at h
  split at h
  case h_2 => cases h
  case h_1 s f later hat =>
    split_ifs at h with hfrom
    cases h
    have hsub : boundariesAt "select".toList q ⊆ boundaries q := (List.dropWhile_sublist _).subset
    rw [hat] at hsub
    refine ⟨isInfix_slice q _ _, ?_, ?_⟩
    · exact occurs_of_mem_boundaries (by decide) (hsub List.mem_cons_self)
        (kind_of_boundariesAt hat)
    · apply occurs_of_mem_boundaries (by decide) (b := f)
      · exact hsub (List.mem_cons_of_mem s List.mem_cons_self)
      · exact beq_iff_eq.1 hfrom

/-- A column as an analysis tells it: something else than white space and the wildcard, with no white
space around it. -/
structure IsColumn (c : List Char) : Prop where
  not_blank : isBlankText c = false
  front : ∀ d ∈ c.head?, isBlank d = false
  back : ∀ d ∈ c.getLast?, isBlank d = false
  ne_wildcard : c ≠ ['*']

lemma isColumn_trim (hne : trim t ≠ []) (hall : trim t ≠ ['*']) : IsColumn (trim t) := by
  have hstart : startsBlank (trim t) = false := startsBlank_trimLeft _
  have hback := isBlank_getLast?_trim t
  obtain ⟨d, r, hd⟩ := List.exists_cons_of_ne_nil hne
  rw [hd] at hstart hback hall ⊢
  have hfront : isBlank d = false := hstart
  refine ⟨?_, ?_, hback, hall⟩
  · rw [isBlankText, List.all_cons, hfront, Bool.false_and]
  · rintro _ ⟨⟩
    exact hfront

/-- A column is a piece of the list that is selected from somewhere. -/
lemma of_mem_columnNames (h : c ∈ columnNames q) :
    IsColumn c ∧ ∃ list, selectList? q = some list ∧ c <:+: list := by
  cases hlist : selectList? q with
  | none =>
    rw [columnNames, hlist] at h
    cases h
  | some list =>
    rw [columnNames_eq hlist, mem_firstSeen_iff, List.mem_filter, List.mem_map] at h
    obtain ⟨⟨item, hitem, rfl⟩, hkept⟩ := h
    rw [Bool.and_eq_true, Bool.not_eq_true', List.isEmpty_eq_false_iff, bne_iff_ne] at hkept
    refine ⟨isColumn_trim hkept.1 hkept.2, list, rfl, ?_⟩
    exact (isInfix_itemColumn item).trans ((isCut_splitTopLevel list).isInfix_of_mem hitem)

lemma nodup_columnNames (q : List Char) : (columnNames q).Nodup := by
  cases hlist : selectList? q with
  | none =>
    rw [columnNames, hlist]
    exact List.nodup_nil
  | some list =>
    rw [columnNames_eq hlist]
    exact nodup_firstSeen _

/-! ## Tables -/

lemma of_mem_tableNames (h : t ∈ tableNames q) : IsTableName t ∧ t <:+: q := by
  have hname : t ∈ tablesFrom ([] : List Char).reverse 0 q := mem_firstSeen_iff.1 h
  obtain ⟨u, k, word, space, rest, rfl, hrefers⟩ := exists_refers_of_mem hname
  refine ⟨isTableName_of_tableName? hrefers.name, u ++ (word ++ space), rest, ?_⟩
  simp

/-- The list has the names without repeats, in the order in which they are first seen. -/
structure ListsFirstSeen (names ts : List (List Char)) : Prop where
  mem_iff : ∀ t, t ∈ ts ↔ t ∈ names
  order : ts.Pairwise fun t t' => names.idxOf t < names.idxOf t'

lemma listsFirstSeen_firstSeen (names : List (List Char)) :
    ListsFirstSeen names (firstSeen names) :=
  ⟨fun _ => mem_firstSeen_iff, pairwise_idxOf_firstSeen names⟩

/-! ## Analyses -/

/-- What the tables and columns of an analysis are to the text `q` and to each other. -/
structure Consistent (q : List Char) (a : Analysis) : Prop where
  nodup_tables : a.tables.Nodup
  nodup_columns : a.columns.Nodup
  isInfix_table : ∀ t ∈ a.tables, t.toList <:+: q
  isInfix_column : ∀ c ∈ a.columns, c.toList <:+: q
  isTableName : ∀ t ∈ a.tables, IsTableName t.toList
  isColumn : ∀ c ∈ a.columns, IsColumn c.toList
  selects : a.columns ≠ [] → a.hasSelect = true ∧ a.hasFrom = true
  scanned : ∃ names, (∀ names', Scans [] q names' ↔ names' = names) ∧
    ListsFirstSeen names (a.tables.map String.toList)

lemma nodup_map_ofList {ts : List (List Char)} (h : ts.Nodup) : (ts.map String.ofList).Nodup :=
  h.map fun _ _ => String.ofList_injective

lemma forall_mem_map_ofList {P : List Char → Prop} {ts : List (List Char)} (h : ∀ t ∈ ts, P t) :
    ∀ t ∈ ts.map String.ofList, P t.toList := by
  intro t ht
  obtain ⟨name, hname, rfl⟩ := List.mem_map.1 ht
  rw [String.toList_ofList]
  exact h name hname

/-- The analysis of every text is consistent. -/
theorem consistent_ofText (q : List Char) : Consistent q (ofText q) where
  nodup_tables := nodup_map_ofList (nodup_firstSeen _)
  nodup_columns := nodup_map_ofList (nodup_columnNames q)
  isInfix_table := by
    apply forall_mem_map_ofList (P := (· <:+: q))
    intro t ht
    exact (of_mem_tableNames ht).2
  isInfix_column := by
    apply forall_mem_map_ofList (P := (· <:+: q))
    intro c hc
    obtain ⟨-, list, hlist, hpiece⟩ := of_mem_columnNames hc
    exact hpiece.trans (selectList?_eq_some hlist).1
  isTableName := by
    apply forall_mem_map_ofList
    intro t ht
    exact (of_mem_tableNames ht).1
  isColumn := by
    apply forall_mem_map_ofList
    intro c hc
    exact (of_mem_columnNames hc).1
  selects := by
    intro hne
    obtain ⟨c, hc⟩ := List.exists_mem_of_ne_nil _ hne
    obtain ⟨name, hname, rfl⟩ := List.mem_map.1 hc
    obtain ⟨-, list, hlist, -⟩ := of_mem_columnNames hname
    exact (selectList?_eq_some hlist).2
  scanned := by
    refine ⟨tableReferences q, fun _ => scans_iff, ?_⟩
    have htables : (ofText q).tables.map String.toList = tableNames q := by
      change ((tableNames q).map String.ofList).map String.toList = tableNames q
      simp
    rw [htables]
    exact listsFirstSeen_firstSeen _

end QueryTutor.Analysis
