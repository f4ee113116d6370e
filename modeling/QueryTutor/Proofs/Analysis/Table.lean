import QueryTutor.Analysis.Table
import QueryTutor.Proofs.FirstSeen
import QueryTutor.Proofs.Text.Phrase

/-!
# Tables of texts that go on

A text that goes on with white space names the tables that it named, in the same order, and maybe
more behind them.
-/

namespace QueryTutor.Analysis
open Text Phrase

variable {t s rest name : List Char} {before : List Char}

/-! ## Names -/

/-- White space is no part of a name, and no point. -/
@[mk_iff]
structure EndsName (c : Char) : Prop where
  isNameHead : isNameHead c = false
  isTablePart : isTablePart c = false
  ne_point : c ≠ '.'

instance (c : Char) : Decidable (EndsName c) :=
  decidable_of_iff' _ (endsName_iff c)

lemma endsName {c : Char} (hc : isBlank c = true) : EndsName c :=
  forall_blank (by decide +kernel) hc

lemma takeWhile_isTablePart_append (hs : startsBlank s = true) (t : List Char) :
    (t ++ s).takeWhile isTablePart = t.takeWhile isTablePart := by
  obtain ⟨b, r, rfl, hb⟩ := exists_of_startsBlank hs
  induction t with
  | nil => exact List.takeWhile_cons_of_neg (by simp [(endsName hb).isTablePart])
  | cons c t ih => rw [List.cons_append, List.takeWhile_cons, List.takeWhile_cons, ih]

lemma dropWhile_isTablePart_append (hs : startsBlank s = true) (t : List Char) :
    (t ++ s).dropWhile isTablePart = t.dropWhile isTablePart ++ s := by
  obtain ⟨b, r, rfl, hb⟩ := exists_of_startsBlank hs
  induction t with
  | nil => exact List.dropWhile_cons_of_neg (by simp [(endsName hb).isTablePart])
  | cons c t ih =>
    rw [List.cons_append, List.dropWhile_cons, List.dropWhile_cons, ih]
    split_ifs <;> rfl

lemma tablePart?_append (hs : startsBlank s = true) (t : List Char) :
    tablePart? (t ++ s) = (tablePart? t).map fun (name, rest) => (name, rest ++ s) := by
  cases t with
  | nil =>
    obtain ⟨b, r, rfl, hb⟩ := exists_of_startsBlank hs
    simp [tablePart?, (endsName hb).isNameHead]
  | cons c t =>
    rw [List.cons_append, tablePart?, tablePart?, takeWhile_isTablePart_append hs,
      dropWhile_isTablePart_append hs]
    split_ifs <;> rfl

/-- A table name ends where it did when the text goes on with white space. -/
lemma tableName?_append (hs : startsBlank s = true) (t : List Char) :
    tableName? (t ++ s) = (tableName? t).map fun (name, rest) => (name, rest ++ s) := by
  rw [tableName?, tableName?, tablePart?_append hs, Option.map_map, Option.map_map]
  congr 1
  funext ⟨name, rest⟩
  cases rest with
  | nil =>
    obtain ⟨b, r, rfl, hb⟩ := exists_of_startsBlank hs
    dsimp only [Function.comp, List.nil_append]
    split
    case h_1 heq => exact absurd (List.cons.inj heq).1 (endsName hb).ne_point
    case h_2 => rfl
  | cons c rest =>
    by_cases hc : c = '.'
    · subst hc
      simp only [Function.comp, List.cons_append, tablePart?_append hs]
      cases tablePart? rest <;> rfl
    · simp [Function.comp, hc]

/-! ## References -/

lemma distinct_tableKeywords : Distinct (tableKeywords.map String.toList) :=
  distinct_of_areDistinct (by decide)

lemma tableAt?_eq_some : tableAt? before t = some (name, rest) ↔
    continuesWord before.head? = false ∧ (tableKeywords.findSome? fun k =>
      if k == "update " && followsFor before then none
      else (strip? k.toList t).bind tableName?) = some (name, rest) := by
  rw [tableAt?]
  split_ifs with h
  · exact ⟨nofun, fun hw => absurd h (Bool.eq_false_iff.1 hw.1)⟩
  · exact (and_iff_right (Bool.eq_false_iff.2 h)).symm

/-- A table that is named here is named here when the text goes on with white space. -/
lemma tableAt?_append (hs : startsBlank s = true) (h : tableAt? before t = some (name, rest)) :
    tableAt? before (t ++ s) = some (name, rest ++ s) := by
  obtain ⟨hbefore, hfirst⟩ := tableAt?_eq_some.1 h
  have stay : ∀ (k : String) (a : List Char × List Char), (strip? k.toList t).bind tableName? = some a →
      ∃ r, strip? k.toList t = some r ∧ strip? k.toList (t ++ s) = some (r ++ s) ∧
        tableName? (r ++ s) = some (a.1, a.2 ++ s) := by
    intro k a ha
    obtain ⟨r, hr, hname⟩ := Option.bind_eq_some_iff.1 ha
    have hne : r ≠ [] := by
      rintro rfl
      cases hname
    refine ⟨r, hr, stripBy?_append hr (.inl hne) s, ?_⟩
    rw [tableName?_append hs, hname]
    rfl
  refine tableAt?_eq_some.2 ⟨hbefore,
    findSome?_of_unique (k := fun a => (a.1, a.2 ++ s)) (fun k _ a ha => ?_) (fun k hk k' hk' hin hin' => ?_)
      hfirst⟩
  · split_ifs at ha ⊢ with hfor
    obtain ⟨r, -, hr, hname⟩ := stay k a ha
    rw [hr]
    exact hname
  · obtain ⟨a, ha⟩ := Option.isSome_iff_exists.1 hin
    obtain ⟨a', ha'⟩ := Option.isSome_iff_exists.1 hin'
    split_ifs at ha ha' with hfor hfor'
    obtain ⟨r, -, hr, -⟩ := stay k a ha
    obtain ⟨r', hr', -⟩ := Option.bind_eq_some_iff.1 ha'
    exact (String.toList_inj.1 (distinct_tableKeywords.eq_of_strip? (List.mem_map_of_mem hk)
      (List.mem_map_of_mem hk') hr hr')).symm

/-- If a table is named here only because the text goes on, none is named here or at a later place
of the text. -/
lemma tableAt?_suffix (hs : startsBlank s = true) (hnone : tableAt? before t = none)
    (h : tableAt? before (t ++ s) = some (name, rest)) {u : List Char} (hu : u <:+ t)
    (before' : List Char) : tableAt? before' u = none := by
  obtain ⟨hbefore, hfirst⟩ := tableAt?_eq_some.1 h
  obtain ⟨k, hk, hhere⟩ := List.exists_of_findSome?_eq_some hfirst
  split_ifs at hhere with hfor
  obtain ⟨r, hr, hname⟩ := Option.bind_eq_some_iff.1 hhere
  have hplain := distinct_tableKeywords.plain k.toList (List.mem_map_of_mem hk)
  obtain ⟨r, hstrip, rfl⟩ | hopens := strip?_append_cases hplain hs hr
  · rw [tableName?_append hs, Option.map_eq_some_iff] at hname
    obtain ⟨a, ha, -⟩ := hname
    rw [tableAt?, if_neg (by simpa using hbefore), List.findSome?_eq_none_iff] at hnone
    have hnot := hnone k hk
    rw [if_neg hfor, hstrip, Option.bind_some, ha] at hnot
    cases hnot
  · cases hthere : tableAt? before' u with
    | none => rfl
    | some a =>
      -- a keyword here would end with the text, and no name is behind it
      obtain ⟨-, hfirst'⟩ := tableAt?_eq_some.1 hthere
      obtain ⟨k', hk', hhere'⟩ := List.exists_of_findSome?_eq_some hfirst'
      split_ifs at hhere' with hfor'
      obtain ⟨r', hr', hname'⟩ := Option.bind_eq_some_iff.1 hhere'
      obtain ⟨rfl, -⟩ := distinct_tableKeywords.strip?_of_opens (List.mem_map_of_mem hk)
        (List.mem_map_of_mem hk') hopens hu hr'
      cases hname'

lemma tablesFrom_eq_nil (h : ∀ u, u <:+ t → ∀ before, tableAt? before u = none)
    (before : List Char) (skip : Nat) : tablesFrom before skip t = [] := by
  induction t generalizing before skip with
  | nil => rw [tablesFrom]
  | cons c t ih =>
    have hlater : ∀ u, u <:+ t → ∀ before, tableAt? before u = none :=
      fun u hu => h u (hu.trans (List.suffix_cons c t))
    cases skip with
    | succ skip => rw [tablesFrom, ih hlater]
    | zero => rw [tablesFrom, h _ List.suffix_rfl, ih hlater]

lemma tablesFrom_append (hs : startsBlank s = true) (before : List Char) (skip : Nat) :
    tablesFrom before skip t <+: tablesFrom before skip (t ++ s) := by
  induction t generalizing before skip with
  | nil =>
    rw [tablesFrom]
    exact List.nil_prefix
  | cons c t ih =>
    rw [List.cons_append]
    cases skip with
    | succ skip =>
      rw [tablesFrom, tablesFrom]
      exact ih _ _
    | zero =>
      rw [tablesFrom, tablesFrom]
      cases hhere : tableAt? before (c :: t) with
      | some a =>
        obtain ⟨name, rest⟩ := a
        have hthere : tableAt? before (c :: (t ++ s)) = some (name, rest ++ s) :=
          tableAt?_append hs hhere
        have hlength : (t ++ s).length - (rest ++ s).length = t.length - rest.length := by
          simp only [List.length_append]
          omega
        rw [hthere]
        dsimp only
        rw [hlength]
        exact (List.prefix_cons_inj _).2 (ih _ _)
      | none =>
        cases hthere : tableAt? before (c :: (t ++ s)) with
        | none => exact ih _ _
        | some a =>
          have hnone : ∀ u, u <:+ t → ∀ before', tableAt? before' u = none :=
            fun u hu => tableAt?_suffix hs hhere hthere (hu.trans (List.suffix_cons c t))
          dsimp only
          rw [tablesFrom_eq_nil hnone]
          exact List.nil_prefix

/-- The tables of a text are named first when the text goes on with white space. -/
lemma tableNames_append (hs : startsBlank s = true) (q : List Char) :
    tableNames q <+: tableNames (q ++ s) :=
  firstSeen_prefix (tablesFrom_append hs [] 0)

end QueryTutor.Analysis
