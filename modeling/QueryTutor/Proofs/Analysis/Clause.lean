import QueryTutor.Analysis.Column
import QueryTutor.Proofs.Text.Phrase

/-!
# Clauses of texts that go on

The clauses of a text that goes on with white space begin where they did, and maybe at later places.
So the columns that it selects stay, if it selects any.
-/

namespace QueryTutor.Analysis
open Text Phrase

variable {phrases : List String} {before : Option Char} {t s rest : List Char}

/-! ## Top level -/

lemma length_topLevelAfter (depth : Nat) (quoted : Bool) (t : List Char) :
    (topLevelAfter depth quoted t).length = t.length := by
  induction t generalizing depth quoted with
  | nil => rfl
  | cons c t ih =>
    rw [topLevelAfter]
    split_ifs <;> rw [List.length_cons, ih, List.length_cons]

/-- Which characters stand at top level does not depend on what follows. -/
lemma exists_topLevelAfter_append (depth : Nat) (quoted : Bool) (t s : List Char) :
    ∃ marks, topLevelAfter depth quoted (t ++ s) = topLevelAfter depth quoted t ++ marks := by
  induction t generalizing depth quoted with
  | nil => exact ⟨_, rfl⟩
  | cons c t ih =>
    rw [List.cons_append, topLevelAfter, topLevelAfter]
    split_ifs
    · exact (ih ..).imp fun _ h => by rw [h, List.cons_append]
    · exact (ih ..).imp fun _ h => by rw [h, List.cons_append]
    · exact (ih ..).imp fun _ h => by rw [h, List.cons_append]
    · exact (ih ..).imp fun _ h => by rw [h, List.cons_append]
    · exact (ih ..).imp fun _ h => by rw [h, List.cons_append]

/-! ## One of several phrases -/

/-- The phrases are distinct, and none ends in a space. -/
structure Closed (phrases : List String) : Prop where
  distinct : Distinct (phrases.map String.toList)
  getLast?_ne : ∀ p ∈ phrases, p.toList.getLast? ≠ some ' '

lemma closed_boundaryPhrases : Closed boundaryPhrases where
  distinct := distinct_of_areDistinct (by
    -- the letters of the phrases first, lest they are worked out again for each pair
    simp only [boundaryPhrases, joinSides, List.flatMap_cons, List.flatMap_nil, List.map_cons,
      List.map_nil, String.toList_append, String.reduceToList, List.append_nil, List.cons_append,
      List.nil_append]
    decide)
  getLast?_ne := by decide

lemma Closed.eq_of_wholeAt? (h : Closed phrases) {p k : String} (hp : p ∈ phrases) (hk : k ∈ phrases)
    {rest' : List Char} (hwhole : wholeAt? p.toList before t = some rest)
    (hwhole' : wholeAt? k.toList before t = some rest') : p = k := by
  obtain ⟨-, hstrip, -⟩ := wholeAt?_eq_some.1 hwhole
  obtain ⟨-, hstrip', -⟩ := wholeAt?_eq_some.1 hwhole'
  exact String.toList_inj.1
    (h.distinct.eq_of_strip? (List.mem_map_of_mem hp) (List.mem_map_of_mem hk) hstrip hstrip')

/-- A phrase that stands here stands here when the text goes on. -/
lemma phraseAt?_append (hphrases : Closed phrases) (hs : startsBlank s = true)
    (h : phraseAt? phrases before t = some rest) :
    phraseAt? phrases before (t ++ s) = some (rest ++ s) := by
  have hword := startsWithWord_of_startsBlank hs
  refine findSome?_of_unique (k := (· ++ s)) ?_ ?_ h
  · exact fun p hp _ hwhole => wholeAt?_append (hphrases.getLast?_ne p hp) hword hwhole
  · intro p hp k hk hwhole hwhole'
    obtain ⟨r, hr⟩ := Option.isSome_iff_exists.1 hwhole
    obtain ⟨r', hr'⟩ := Option.isSome_iff_exists.1 hwhole'
    exact hphrases.eq_of_wholeAt? hk hp hr' (wholeAt?_append (hphrases.getLast?_ne p hp) hword hr)

/-- If a phrase stands here only because the text goes on, none stands here or at a later place of
the text. -/
lemma phraseAt?_suffix (hphrases : Closed phrases) (hs : startsBlank s = true)
    (hnone : phraseAt? phrases before t = none) (h : phraseAt? phrases before (t ++ s) = some rest)
    {u : List Char} (hu : u <:+ t) (before' : Option Char) : phraseAt? phrases before' u = none := by
  obtain ⟨p, hp, hwhole⟩ := List.exists_of_findSome?_eq_some h
  obtain ⟨hbefore, hstrip, hword⟩ := wholeAt?_eq_some.1 hwhole
  have hplain := hphrases.distinct.plain p.toList (List.mem_map_of_mem hp)
  obtain ⟨r, hr, rfl⟩ | hopens := strip?_append_cases hplain hs hstrip
  · rw [startsWithWord_append (startsWithWord_of_startsBlank hs)] at hword
    have hhere := List.findSome?_eq_none_iff.1 hnone p hp
    rw [wholeAt?_eq_some.2 ⟨hbefore, hr, hword⟩] at hhere
    cases hhere
  · refine List.findSome?_eq_none_iff.2 fun k hk => ?_
    cases hwhole' : wholeAt? k.toList before' u with
    | none => rfl
    | some r =>
      obtain ⟨-, hstrip', -⟩ := wholeAt?_eq_some.1 hwhole'
      obtain ⟨-, hspace⟩ := hphrases.distinct.strip?_of_opens (List.mem_map_of_mem hp)
        (List.mem_map_of_mem hk) hopens hu hstrip'
      exact absurd hspace (hphrases.getLast?_ne k hk)

/-! ## Boundaries -/

lemma boundariesFrom_eq_nil
    (h : ∀ u, u <:+ t → ∀ before, phraseAt? boundaryPhrases before u = none) (before : Option Char)
    (skip start : Nat) (top : List Bool) : boundariesFrom before skip start t top = [] := by
  induction t generalizing before skip start top with
  | nil => rw [boundariesFrom]
  | cons c t ih =>
    have hlater : ∀ u, u <:+ t → ∀ before, phraseAt? boundaryPhrases before u = none :=
      fun u hu => h u (hu.trans (List.suffix_cons c t))
    cases skip with
    | succ skip => rw [boundariesFrom, ih hlater]
    | zero => rw [boundariesFrom, h _ List.suffix_rfl, ih hlater]

/-- The boundaries of a text stay when it goes on with white space. -/
lemma boundariesFrom_append (hs : startsBlank s = true) (before : Option Char) (skip start : Nat)
    {top : List Bool} (htop : top.length = t.length) (marks : List Bool) :
    boundariesFrom before skip start t top
      <+: boundariesFrom before skip start (t ++ s) (top ++ marks) := by
  induction t generalizing before skip start top with
  | nil =>
    rw [boundariesFrom]
    exact List.nil_prefix
  | cons c t ih =>
    cases top with
    | nil => cases htop
    | cons mark top =>
      have htop' : top.length = t.length := Nat.succ.inj htop
      rw [List.cons_append, List.cons_append]
      cases skip with
      | succ skip =>
        rw [boundariesFrom, boundariesFrom]
        exact ih _ _ _ htop'
      | zero =>
        rw [boundariesFrom, boundariesFrom]
        cases hhere : phraseAt? boundaryPhrases before (c :: t) with
        | some rest =>
          have hthere : phraseAt? boundaryPhrases before (c :: (t ++ s)) = some (rest ++ s) :=
            phraseAt?_append closed_boundaryPhrases hs hhere
          -- the keyword and the places it takes are the same, counted from the other end
          have hlength : (t ++ s).length - (rest ++ s).length = t.length - rest.length := by
            simp only [List.length_append]
            omega
          have hkeyword : (c :: (t ++ s)).take ((t ++ s).length + 1 - (rest ++ s).length)
              = (c :: t).take (t.length + 1 - rest.length) := by
            have hlength' : (t ++ s).length + 1 - (rest ++ s).length
                = t.length + 1 - rest.length := by
              simp only [List.length_append]
              omega
            rw [hlength', ← List.cons_append,
              List.take_append_of_le_length (by rw [List.length_cons]; omega)]
          rw [hthere]
          dsimp only
          rw [hkeyword, hlength]
          cases mark with
          | true => exact List.prefix_cons_inj _ |>.2 (ih _ _ _ htop')
          | false => exact ih _ _ _ htop'
        | none =>
          cases hthere : phraseAt? boundaryPhrases before (c :: (t ++ s)) with
          | none => exact ih _ _ _ htop'
          | some rest =>
            have hnone : ∀ u, u <:+ t → ∀ before', phraseAt? boundaryPhrases before' u = none :=
              fun u hu => phraseAt?_suffix closed_boundaryPhrases hs hhere hthere
                (hu.trans (List.suffix_cons c t))
            dsimp only
            rw [boundariesFrom_eq_nil hnone]
            exact List.nil_prefix

lemma start_lt_of_mem_boundariesFrom {skip start : Nat} {top : List Bool} {b : Boundary}
    (h : b ∈ boundariesFrom before skip start t top) : b.start < start + t.length := by
  induction t generalizing before skip start top with
  | nil =>
    rw [boundariesFrom] at h
    cases h
  | cons c t ih =>
    have later : ∀ {before skip top}, b ∈ boundariesFrom before skip (start + 1) t top →
        b.start < start + (c :: t).length := fun h => by
      have := ih h
      rw [List.length_cons]
      omega
    cases skip with
    | succ skip =>
      rw [boundariesFrom] at h
      exact later h
    | zero =>
      rw [boundariesFrom] at h
      split at h
      case h_1 =>
        dsimp only at h
        split_ifs at h
        · obtain rfl | h := List.mem_cons.1 h
          · exact Nat.lt_add_of_pos_right (Nat.succ_pos _)
          · exact later h
        · exact later h
      case h_2 => exact later h

/-- The clauses of a text begin where they did when it goes on with white space. -/
lemma boundaries_append (hs : startsBlank s = true) (q : List Char) :
    boundaries q <+: boundaries (q ++ s) := by
  obtain ⟨marks, hmarks⟩ := exists_topLevelAfter_append 0 false q s
  rw [boundaries, boundaries, topLevel, topLevel, hmarks]
  exact boundariesFrom_append hs none 0 0 (length_topLevelAfter 0 false q) marks

lemma start_lt_of_mem_boundaries {q : List Char} {b : Boundary} (h : b ∈ boundaries q) :
    b.start < q.length := by
  have := start_lt_of_mem_boundariesFrom h
  rwa [Nat.zero_add] at this

/-! ## Columns -/

lemma slice_append {q : List Char} {stop : Nat} (hstop : stop ≤ q.length) (s : List Char)
    (start : Nat) : slice (q ++ s) start stop = slice q start stop := by
  rw [slice, slice]
  obtain h | h := Nat.lt_or_ge stop start
  · rw [Nat.sub_eq_zero_of_le h.le, List.take_zero, List.take_zero]
  · rw [List.drop_append_of_le_length (h.trans hstop),
      List.take_append_of_le_length (by rw [List.length_drop]; omega)]

/-- What a text selects from somewhere stays when the text goes on with white space. -/
lemma selectList?_append (hs : startsBlank s = true) {q list : List Char}
    (h : selectList? q = some list) : selectList? (q ++ s) = some list := by
  obtain ⟨more, hmore⟩ := boundaries_append hs q
  rw [selectList?] at h ⊢
  split at h
  case h_1 b f later hat =>
    have hat' : boundariesAt "select".toList (q ++ s) = b :: f :: (later ++ more) := by
      rw [boundariesAt] at hat
      rw [boundariesAt, ← hmore, dropWhile_append_of_ne_nil (by rw [hat]; nofun), hat]
      rfl
    rw [hat']
    dsimp only
    split_ifs at h ⊢ with hfrom
    rw [← Option.some.inj h]
    have hf : f ∈ boundaries q := (List.dropWhile_sublist _).subset (by
      rw [← boundariesAt, hat]
      exact List.mem_cons_of_mem _ List.mem_cons_self)
    rw [slice_append (start_lt_of_mem_boundaries hf).le]
  case h_2 => cases h

/-- The columns that a text selects stay when the text goes on with white space. -/
lemma columnNames_append (hs : startsBlank s = true) {q : List Char} (h : columnNames q ≠ []) :
    columnNames (q ++ s) = columnNames q := by
  cases hlist : selectList? q with
  | none =>
    rw [columnNames, hlist] at h
    exact absurd rfl h
  | some list => rw [columnNames, columnNames, hlist, selectList?_append hs hlist]

end QueryTutor.Analysis
