import QueryTutor.Proofs.Analysis.Item
import QueryTutor.Proofs.Analysis.SelectionList

/-!
# The columns of a selection

Every item of a selection is an entry of its list, so that the columns of a query are those of the
items that it selects.
-/

namespace QueryTutor.Analysis
open Text

variable {s t w : List Char}

/-! ## Items as entries -/

lemma entry_word (hw : IsWordly w) (hopen : w ∉ openers) : Entry w where
  prose := .word hw hopen
  level := level_of_isWordly hw
  comma hmem := absurd (hw _ hmem) (by decide)

lemma Name.entry (n : Name) : Entry n.1 :=
  entry_word n.isWordly n.not_mem_openers

/-- Two entries are one with a mark between them, if it neither separates nor nests. -/
lemma Entry.mark {c : Char} (hs : Entry s) (hc : isMark c = true)
    (hplain : c ≠ ',' ∧ c ≠ '(' ∧ c ≠ ')') (ht : Entry t) : Entry (s ++ c :: t) where
  prose := .mark hs.prose hc ht.prose
  level := hs.level.append (.cons ⟨(Analysis.mark hc).ne_quote, hplain.2⟩ ht.level)
  comma := by simp [hs.comma, ht.comma, hplain.1.symm]

lemma entry_nil : Entry [] :=
  entry_word (fun _ h => absurd h List.not_mem_nil) nil_not_mem_openers

lemma entry_wildcard : Entry ['*'] :=
  entry_nil.mark rfl (by decide) entry_nil

lemma Entry.qualified (ht : Entry t) (q : Option Name) : Entry (qualified q t) := by
  cases q with
  | none => exact ht
  | some q => exact q.entry.mark rfl (by decide) ht

lemma Entry.withDistinct (ht : Entry t) (d : Bool) : Entry (withDistinct d t) := by
  have hopen : ['d', 'i', 's', 't', 'i', 'n', 'c', 't'] ∉ openers := by
    simp [openers_eq]
  cases d with
  | false => exact ht
  | true => exact (entry_word (List.all_eq_true.1 (by decide)) hopen).mark rfl (by decide) ht

lemma Entry.callOf (ht : Entry t) (f : Name) : Entry (callOf f t) where
  prose := .mark (.name f) rfl (.mark ht.prose rfl .nil)
  level := (level_of_isWordly f.isWordly).append ht.level.parenthesized
  comma := by simp [Analysis.callOf, f.entry.comma, ht.comma]

lemma Term.entry (e : Term) : Entry e.text := by
  induction e with
  | path q c => exact c.entry.qualified q
  | overAll f d => exact (entry_wildcard.withDistinct d).callOf f
  | call f d e ih => exact (ih.withDistinct d).callOf f

lemma Entry.alias (ht : Entry t) (a : Alias) : Entry (t ++ a.text) := by
  have hopen : ['a', 's'] ∉ openers := by
    simp [openers_eq]
  obtain ⟨behindAs, n⟩ := a
  cases behindAs with
  | false => exact ht.mark rfl (by decide) n.entry
  | true =>
    exact ht.mark rfl (by decide)
      ((entry_word (List.all_eq_true.1 (by decide)) hopen).mark rfl (by decide) n.entry)

lemma Item.entry (i : Item) : Entry i.text := by
  cases i with
  | all q => exact entry_wildcard.qualified q
  | term e alias? =>
    cases alias? with
    | none =>
      rw [text, Option.map_none, Option.getD_none, List.append_nil]
      exact e.entry
    | some a => exact e.entry.alias a

/-! ## Selections -/

/-- An item is about its column, with `distinct` before it or without. -/
lemma Item.itemColumn_text (i : Item) (d : Bool) :
    itemColumn (withDistinct d i.text) = i.column?.getD ['*'] := by
  cases i with
  | all q => exact itemColumn_wildcard q d
  | term e alias? =>
    cases alias? with
    | none =>
      rw [text, Option.map_none, Option.getD_none, List.append_nil]
      exact itemColumn_term e.bare e (dropAliasAfter_eq_self e.unaliased none) d
    | some a => exact itemColumn_term (e.bare_alias a) e (e.dropAlias_append a) d

/-- Of the columns of items, those are kept that are names. -/
lemma filter_map_column? (items : List Item) :
    ((items.map fun i => i.column?.getD ['*']).filter fun c => !c.isEmpty && c != ['*'])
      = items.filterMap Item.column? := by
  induction items with
  | nil => rfl
  | cons i items ih =>
    rw [List.map_cons]
    cases i with
    | all q => exact ih
    | term e alias? =>
      obtain ⟨c, r, hn, hc⟩ := e.column.exists_cons
      have hkept : (!e.column.1.isEmpty && e.column.1 != ['*']) = true := by
        rw [hn, List.isEmpty_cons, Bool.not_false, Bool.true_and, bne_iff_ne]
        rintro ⟨⟩
        exact absurd hc (by decide)
      have hcolumn : (Item.term e alias?).column?.getD ['*'] = e.column.1 := rfl
      rw [hcolumn, List.filter_cons, if_pos hkept, ih]
      rfl

lemma withDistinct_false (t : List Char) : withDistinct false t = t :=
  rfl

lemma withDistinct_intercalate (d : Bool) (t : List Char) (ts : List (List Char)) :
    withDistinct d ([',', ' '].intercalate (t :: ts))
      = [',', ' '].intercalate (withDistinct d t :: ts) := by
  cases d with
  | false => rfl
  | true =>
    cases ts with
    | nil => rw [List.intercalate_singleton, List.intercalate_singleton]
    | cons u ts =>
      rw [List.intercalate_cons_cons, List.intercalate_cons_cons, List.append_assoc,
        List.append_assoc]
      rfl

/-- The columns of a query are those of its selection, in order and without repeats, whatever
follows the selection. -/
theorem columnNames_selection (s : Selection) (r : List Char) :
    columnNames (s.query r) = firstSeen (s.items.filterMap Item.column?) := by
  obtain ⟨d, i, items⟩ := s
  have hentries : ∀ t ∈ withDistinct d i.text :: items.map Item.text, Entry t := by
    rw [List.forall_mem_cons, List.forall_mem_map]
    exact ⟨i.entry.withDistinct d, fun i _ => i.entry⟩
  have hcolumns : (withDistinct d i.text :: items.map Item.text).map itemColumn
      = (i :: items).map fun i => i.column?.getD ['*'] := by
    have hrest : ∀ i ∈ items, (itemColumn ∘ Item.text) i = i.column?.getD ['*'] := by
      intro i _
      have h := i.itemColumn_text false
      rw [withDistinct_false] at h
      rw [Function.comp_apply, h]
    rw [List.map_cons, List.map_cons, i.itemColumn_text d, List.map_map, List.map_congr_left hrest]
  rw [Selection.query, Selection.text, Selection.items, List.map_cons, withDistinct_intercalate,
    columnNames_entries (List.cons_ne_nil _ _) hentries, hcolumns, filter_map_column?]

end QueryTutor.Analysis
