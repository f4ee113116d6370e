import Mathlib.Data.Nat.Find
import QueryTutor.Proofs.Analysis.Boundary
import QueryTutor.Proofs.Analysis.Reference

/-!
# Cutting at top level

A text is cut at its commas at top level and nowhere else.  Where it is cut nothing is open, so that
each piece has by itself the marks that it has in the text, and the pieces with commas between them
are the text again.  There is no other way to cut it so.
-/

namespace QueryTutor.Analysis

variable {separator c : Char} {ps : List (Char × Bool)} {t u v : List Char}
  {parts : List (List Char)}

/-! ## Marked texts -/

/-- A marked text is cut at the first separator whose mark is set. -/
lemma splitMarked_append (h : (separator, true) ∉ ps) (qs : List (Char × Bool)) :
    splitMarked separator (ps ++ (separator, true) :: qs)
      = ps.map Prod.fst :: splitMarked separator qs := by
  induction ps with
  | nil =>
    rw [List.nil_append, splitMarked, if_pos (by rw [beq_self_eq_true, Bool.and_true])]
    rfl
  | cons p ps ih =>
    obtain ⟨hp, hps⟩ := not_or.1 (mt List.mem_cons.2 h)
    rw [List.cons_append, splitMarked, if_neg (by grind), ih hps]
    rfl

lemma splitMarked_eq_singleton (h : (separator, true) ∉ ps) :
    splitMarked separator ps = [ps.map Prod.fst] := by
  induction ps with
  | nil => rfl
  | cons p ps ih =>
    obtain ⟨hp, hps⟩ := not_or.1 (mt List.mem_cons.2 h)
    rw [splitMarked, if_neg (by grind), ih hps]
    rfl

/-! ## Texts without commas at top level -/

/-- No comma of the text is at top level. -/
def Uncut (t : List Char) : Prop :=
  ∀ i, t[i]? = some ',' → ¬ AtTop t i

lemma length_topLevel (t : List Char) : (topLevel t).length = t.length :=
  length_topLevelAfter 0 false t

lemma uncut_iff : Uncut t ↔ (',', true) ∉ t.zip (topLevel t) := by
  constructor
  · intro h hmem
    obtain ⟨i, hi⟩ := List.mem_iff_getElem?.1 hmem
    obtain ⟨hcomma, htop⟩ := List.getElem?_zip_eq_some.1 hi
    exact h i hcomma htop
  · intro h i hcomma htop
    apply h
    exact List.mem_iff_getElem?.2 ⟨i, List.getElem?_zip_eq_some.2 ⟨hcomma, htop⟩⟩

lemma uncut_of_not_mem (h : ',' ∉ t) : Uncut t :=
  fun _ hcomma _ => h (List.mem_of_getElem? hcomma)

lemma Uncut.splitTopLevel (h : Uncut t) : splitTopLevel t = [t] := by
  rw [Analysis.splitTopLevel, splitMarked_eq_singleton (uncut_iff.1 h),
    List.map_fst_zip (length_topLevel t).ge]

/-! ## Cuts -/

/-- The text is in two parts at a comma at top level: each part has the marks that it has by itself.
-/
structure CutsAt (u v : List Char) : Prop where
  uncut : Uncut u
  marks : topLevel (u ++ ',' :: v) = topLevel u ++ true :: topLevel v

lemma CutsAt.splitTopLevel (h : CutsAt u v) :
    splitTopLevel (u ++ ',' :: v) = u :: splitTopLevel v := by
  rw [Analysis.splitTopLevel, h.marks, List.zip_append (length_topLevel u).symm, List.zip_cons_cons,
    splitMarked_append (uncut_iff.1 h.uncut), List.map_fst_zip (length_topLevel u).ge]
  rfl

/-- Behind a comma at top level the marks are those of a text that begins there. -/
lemma topLevel_append_comma (h : AtTop (u ++ ',' :: v) u.length) :
    topLevel (u ++ ',' :: v) = topLevel u ++ true :: topLevel v := by
  obtain ⟨depth, quoted, htop⟩ := exists_topLevelAfter_drop 0 false u (',' :: v)
  rw [AtTop, topLevel, htop, ← length_topLevel u, topLevel,
    List.getElem?_append_right le_rfl, Nat.sub_self] at h
  have hhead : (topLevelAfter depth quoted (',' :: v)).headD false = true := by
    rw [List.headD_eq_head?_getD, List.head?_eq_getElem?, h]
    rfl
  rw [topLevel, htop, topLevelAfter_of_headD hhead]
  rfl

/-- A text has a first comma at top level, or none. -/
lemma uncut_or_cutsAt (t : List Char) : Uncut t ∨ ∃ u v, t = u ++ ',' :: v ∧ CutsAt u v := by
  by_cases h : ∃ i, t[i]? = some ',' ∧ AtTop t i
  · right
    classical
    obtain ⟨hcomma, htop⟩ := Nat.find_spec h
    have hfirst := fun j hj => Nat.find_min h (m := j) hj
    generalize Nat.find h = i at hcomma htop hfirst
    obtain ⟨hi, hchar⟩ := List.getElem?_eq_some_iff.1 hcomma
    have hsplit : t = t.take i ++ ',' :: t.drop (i + 1) := by
      rw [← hchar, ← List.drop_eq_getElem_cons hi, List.take_append_drop]
    have hlen : (t.take i).length = i := List.length_take_of_le hi.le
    generalize t.take i = u at hsplit hlen
    generalize t.drop (i + 1) = v at hsplit
    subst hsplit hlen
    have hmarks := topLevel_append_comma htop
    refine ⟨u, v, rfl, ⟨fun j hj hjtop => ?_, hmarks⟩⟩
    -- a comma at top level in the first part would be an earlier one of the text
    have hlt : j < u.length := (List.getElem?_eq_some_iff.1 hj).1
    apply hfirst j hlt
    constructor
    · rw [List.getElem?_append_left hlt, hj]
    · rw [AtTop, hmarks, List.getElem?_append_left (by rwa [length_topLevel])]
      exact hjtop
  · left
    intro i hcomma htop
    exact h ⟨i, hcomma, htop⟩

/-! ## The pieces of a text -/

/-- The parts of a text at its commas at top level. -/
structure IsCut (t : List Char) (parts : List (List Char)) : Prop where
  ne_nil : parts ≠ []
  joined : [','].intercalate parts = t
  uncut : ∀ part ∈ parts, Uncut part
  marks : topLevel t = [true].intercalate (parts.map topLevel)

lemma Uncut.isCut (h : Uncut t) : IsCut t [t] where
  ne_nil := List.cons_ne_nil t []
  joined := List.intercalate_singleton
  uncut := List.forall_mem_singleton.2 h
  marks := List.intercalate_singleton.symm

lemma CutsAt.isCut (h : CutsAt u v) (hv : IsCut v parts) : IsCut (u ++ ',' :: v) (u :: parts) where
  ne_nil := List.cons_ne_nil u parts
  joined := by
    rw [List.intercalate_cons_of_ne_nil hv.ne_nil, hv.joined, List.append_assoc]
    rfl
  uncut := List.forall_mem_cons.2 ⟨h.uncut, hv.uncut⟩
  marks := by
    have hne : parts.map topLevel ≠ [] := by simpa using hv.ne_nil
    rw [List.map_cons, List.intercalate_cons_of_ne_nil hne, ← hv.marks, h.marks, List.append_assoc]
    rfl

lemma isCut_splitTopLevel (t : List Char) : IsCut t (splitTopLevel t) := by
  -- on the length, as the text is cut behind a whole piece
  induction hn : t.length using Nat.strong_induction_on generalizing t with
  | _ n ih =>
    obtain h | ⟨u, v, rfl, h⟩ := uncut_or_cutsAt t
    · rw [h.splitTopLevel]
      exact h.isCut
    · rw [h.splitTopLevel]
      apply h.isCut
      apply ih v.length _ v rfl
      rw [← hn, List.length_append, List.length_cons]
      omega

/-- The first of several parts ends at a comma at top level. -/
lemma IsCut.cutsAt (h : IsCut t (u :: parts)) (hne : parts ≠ []) :
    ∃ v, t = u ++ ',' :: v ∧ CutsAt u v ∧ IsCut v parts := by
  have hmaps : parts.map topLevel ≠ [] := by simpa using hne
  have hjoined := h.joined
  have hmarks := h.marks
  rw [List.intercalate_cons_of_ne_nil hne, List.append_assoc] at hjoined
  rw [List.map_cons, List.intercalate_cons_of_ne_nil hmaps, List.append_assoc] at hmarks
  obtain rfl : u ++ ',' :: [','].intercalate parts = t := hjoined
  obtain ⟨huncut, hparts⟩ := List.forall_mem_cons.1 h.uncut
  have htop : AtTop (u ++ ',' :: [','].intercalate parts) u.length := by
    rw [AtTop, hmarks, ← length_topLevel u, List.getElem?_append_right le_rfl, Nat.sub_self]
    rfl
  have hown := topLevel_append_comma htop
  refine ⟨_, rfl, ⟨huncut, hown⟩, hne, rfl, hparts, ?_⟩
  rw [hown] at hmarks
  exact (List.cons.inj (List.append_cancel_left hmarks)).2

/-- A part is a piece of the text. -/
lemma IsCut.isInfix_of_mem {part : List Char} (h : IsCut t parts) (hpart : part ∈ parts) :
    part <:+: t := by
  induction parts generalizing t with
  | nil => cases hpart
  | cons u parts ih =>
    cases parts with
    | nil =>
      obtain rfl := List.mem_singleton.1 hpart
      have hjoined := h.joined
      rw [List.intercalate_singleton] at hjoined
      rw [hjoined]
    | cons w parts =>
      obtain ⟨v, rfl, -, hv⟩ := h.cutsAt (List.cons_ne_nil w parts)
      cases hpart with
      | head => exact (List.prefix_append _ _).isInfix
      | tail _ hpart =>
        exact (ih hv hpart).trans
          ((List.suffix_cons ',' v).trans (List.suffix_append u _)).isInfix

/-- A text is cut into the pieces whose joining with commas gives it back, none of which has a comma
at top level, and whose marks make up the marks of the text with those of the commas between them.
There are no other such pieces. -/
theorem splitTopLevel_only_cut (t : List Char) :
    IsCut t (splitTopLevel t) ∧ ∀ parts, IsCut t parts → parts = splitTopLevel t := by
  refine ⟨isCut_splitTopLevel t, fun parts h => ?_⟩
  induction parts generalizing t with
  | nil => exact absurd rfl h.ne_nil
  | cons u parts ih =>
    cases parts with
    | nil =>
      obtain rfl : u = t := by simpa using h.joined
      exact (h.uncut u List.mem_cons_self).splitTopLevel.symm
    | cons w parts =>
      obtain ⟨v, rfl, hcuts, hv⟩ := h.cutsAt (List.cons_ne_nil w parts)
      rw [hcuts.splitTopLevel, ← ih v hv]

/-- A parenthesis closed too often opens nothing, and one that stays open holds all that follows. -/
example : splitTopLevel "a), f(b, c, d".toList = ["a)".toList, " f(b, c, d".toList] := by
  decide

end QueryTutor.Analysis
