import QueryTutor.Proofs.Analysis.Cut
import QueryTutor.Proofs.Analysis.Prose
import QueryTutor.Proofs.Text.Spacing

/-!
# The list of a selection

A selection is cut at the commas between its entries, and the columns of the query are those of the
entries.
-/

namespace QueryTutor.Analysis
open Text Phrase

variable {s t u : List Char}

/-! ## Cutting at commas -/

/-- A front without commas that leaves no parenthesis open is cut off at the comma behind it. -/
lemma cutsAt_of_level (ht : Level t) (hcomma : ',' ∉ t) (u : List Char) : CutsAt t u where
  uncut := uncut_of_not_mem hcomma
  marks := by
    obtain ⟨marks, hlen, hmarks⟩ := ht 0 (',' :: u)
    apply topLevel_append_comma
    rw [AtTop, topLevel, hmarks, List.getElem?_append_right hlen.le, hlen, Nat.sub_self]
    rfl

/-! ## Spaces around entries -/

lemma itemColumn_cons_space (t : List Char) : itemColumn (' ' :: t) = itemColumn t := by
  have htrim : trim (' ' :: t) = trim t := by
    rw [trim_eq, trim_eq]
    rfl
  rw [itemColumn, itemColumn, htrim]

lemma itemColumn_append_space (t : List Char) : itemColumn (t ++ [' ']) = itemColumn t := by
  have htrim : trim (t ++ [' ']) = trim t := by
    rw [trim, trim, trimRight, trimRight,
      dropTrailing_append_of_all (List.forall_mem_singleton.2 (by decide))]
  rw [itemColumn, itemColumn, htrim]

/-! ## Entries -/

/-- What can stand between the commas of a selection: words that open no clause, without commas, and
as many parentheses closed as opened. -/
structure Entry (t : List Char) : Prop where
  prose : Prose t
  level : Level t
  comma : ',' ∉ t

lemma prose_intercalate {ts : List (List Char)} (h : ∀ t ∈ ts, Prose t) :
    Prose ([',', ' '].intercalate ts) := by
  induction ts with
  | nil => exact .nil
  | cons t ts ih =>
    obtain ⟨ht, hts⟩ := List.forall_mem_cons.1 h
    cases ts with
    | nil => rwa [List.intercalate_singleton]
    | cons u ts =>
      rw [List.intercalate_cons_of_ne_nil (List.cons_ne_nil u ts), List.append_assoc]
      exact .mark ht rfl (.mark .nil rfl (ih hts))

lemma level_intercalate {ts : List (List Char)} (h : ∀ t ∈ ts, Level t) :
    Level ([',', ' '].intercalate ts) := by
  induction ts with
  | nil => exact level_nil
  | cons t ts ih =>
    obtain ⟨ht, hts⟩ := List.forall_mem_cons.1 h
    cases ts with
    | nil => rwa [List.intercalate_singleton]
    | cons u ts =>
      rw [List.intercalate_cons_of_ne_nil (List.cons_ne_nil u ts), List.append_assoc]
      exact ht.append (.cons (by decide) (.cons (by decide) (ih hts)))

/-- The pieces of a list of entries are the entries, spaces apart. -/
lemma map_itemColumn_splitTopLevel {ts : List (List Char)} (hne : ts ≠ []) (h : ∀ t ∈ ts, Entry t) :
    (splitTopLevel (' ' :: ([',', ' '].intercalate ts ++ [' ']))).map itemColumn
      = ts.map itemColumn := by
  induction ts with
  | nil => exact absurd rfl hne
  | cons t ts ih =>
    obtain ⟨ht, hts⟩ := List.forall_mem_cons.1 h
    have hspace : ',' ∉ ' ' :: t := by simpa using ht.comma
    cases ts with
    | nil =>
      have hlast : ',' ∉ ' ' :: (t ++ [' ']) := by simpa using ht.comma
      rw [List.intercalate_singleton, (uncut_of_not_mem hlast).splitTopLevel, List.map_singleton,
        itemColumn_cons_space, itemColumn_append_space, List.map_singleton]
    | cons u ts =>
      have hcut : ' ' :: ([',', ' '].intercalate (t :: u :: ts) ++ [' '])
          = (' ' :: t) ++ ',' :: ' ' :: ([',', ' '].intercalate (u :: ts) ++ [' ']) := by
        rw [List.intercalate_cons_of_ne_nil (List.cons_ne_nil u ts), List.append_assoc,
          List.append_assoc]
        rfl
      rw [hcut, (cutsAt_of_level (ht.level.cons (by decide)) hspace _).splitTopLevel, List.map_cons,
        ih (List.cons_ne_nil u ts) hts, itemColumn_cons_space, List.map_cons (a := t)]

/-! ## Columns -/

/-- The list of a selection is what stands between its two words. -/
lemma selectList?_selection (hprose : Prose t) (hlevel : Level t) (r : List Char) :
    selectList? (['s', 'e', 'l', 'e', 'c', 't', ' '] ++ t ++ [' ', 'f', 'r', 'o', 'm', ' '] ++ r)
      = some (' ' :: (t ++ [' '])) := by
  obtain ⟨later, hbegins⟩ := boundaries_selection hprose hlevel r
  have hlist : ['s', 'e', 'l', 'e', 'c', 't', ' '] ++ t ++ [' ', 'f', 'r', 'o', 'm', ' '] ++ r
      = ['s', 'e', 'l', 'e', 'c', 't']
        ++ (' ' :: (t ++ [' ']) ++ (['f', 'r', 'o', 'm', ' '] ++ r)) := by
    simp only [List.cons_append, List.nil_append, List.append_assoc]
  have hlength : (' ' :: (t ++ [' '])).length = t.length + 8 - (0 + 6) := by
    rw [List.length_cons, List.length_append, List.length_singleton]
    omega
  rw [selectList?, boundariesAt, hbegins, List.dropWhile_cons_of_neg (by simp)]
  dsimp only
  rw [if_pos (beq_self_eq_true _), slice, hlist, List.drop_left' (by rfl), ← hlength, List.take_left]

/-- The wildcard alone is an item about no column, like any other one. -/
lemma columnNames_eq {q list : List Char} (h : selectList? q = some list) :
    columnNames q
      = firstSeen (((splitTopLevel list).map itemColumn).filter fun c => !c.isEmpty && c != ['*']) := by
  rw [columnNames, h]
  dsimp only
  split_ifs with hall
  · have htrim : trim list = ['*'] := beq_iff_eq.1 hall
    have hcomma : ',' ∉ list := fun hmem => by
      have hsolid : ',' ∈ solid list := List.mem_filter.2 ⟨hmem, by decide⟩
      rw [← solid_trimRight, ← solid_trimLeft, ← trim, htrim] at hsolid
      exact absurd hsolid (by decide)
    have hitem : itemColumn list = ['*'] := by
      rw [itemColumn, htrim]
      decide
    rw [(uncut_of_not_mem hcomma).splitTopLevel, List.map_singleton, hitem]
    rfl
  · rfl

/-- The columns of a selection are those of its entries. -/
lemma columnNames_entries {ts : List (List Char)} (hne : ts ≠ []) (h : ∀ t ∈ ts, Entry t)
    (r : List Char) :
    columnNames (['s', 'e', 'l', 'e', 'c', 't', ' '] ++ [',', ' '].intercalate ts
        ++ [' ', 'f', 'r', 'o', 'm', ' '] ++ r)
      = firstSeen ((ts.map itemColumn).filter fun c => !c.isEmpty && c != ['*']) := by
  have hprose := prose_intercalate fun t ht => (h t ht).prose
  have hlevel := level_intercalate fun t ht => (h t ht).level
  rw [columnNames_eq (selectList?_selection hprose hlevel r), map_itemColumn_splitTopLevel hne h]

end QueryTutor.Analysis
