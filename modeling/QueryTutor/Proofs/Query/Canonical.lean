import QueryTutor.Proofs.Query.Lexeme
import QueryTutor.Proofs.Text.Small

/-!
# Canonical form

The passes that make the canonical form write out the lexemes of a text, one spacing for all.  So
texts have the same form exactly if they have the same lexemes, and the form of a form is the form.
-/

namespace QueryTutor.Query
open Text Lexeme

lemma spaceAfter_nil (held : Option (List Char)) : spaceAfter held [] = (held.getD []).reverse :=
  rfl

lemma spaceAfter_operator (held : Option (List Char)) (o : Operator) (r : List Char) :
    spaceAfter held (o.text ++ r) = o.spaced ++ spaceAfter none r := by
  cases o <;> rfl

lemma spaceAfter_cons {c : Char} {r : List Char} (h : operator? (c :: r) = none)
    (held : Option (List Char)) :
    spaceAfter held (c :: r)
      = if isBlank c then spaceAfter (held.map (c :: ·)) r
        else (held.getD []).reverse ++ c :: spaceAfter (some []) r := by
  rw [spaceAfter.eq_def]
  split
  case h_8 heq =>
    cases heq
    rfl
  case h_1 heq => cases heq
  all_goals
    rename_i heq
    rw [heq] at h
    cases h

/-- The held characters are white space. -/
def HeldBlank (held : Option (List Char)) : Prop :=
  ∀ c ∈ held.getD [], isBlank c = true

lemma HeldBlank.map_cons {held : Option (List Char)} (h : HeldBlank held) {c : Char}
    (hc : isBlank c = true) : HeldBlank (held.map (c :: ·)) := by
  cases held with
  | none => nofun
  | some bs => exact List.forall_mem_cons.2 ⟨hc, h⟩

lemma HeldBlank.reverse {held : Option (List Char)} (h : HeldBlank held) :
    ∀ c ∈ (held.getD []).reverse, isBlank c = true :=
  fun c hc => h c (List.mem_reverse.1 hc)

/-- What is written between a run and an operator, and behind the operator, is its spacing. -/
lemma spaced_eq (w : List Char) (o : Operator) :
    o.spaced = gap (run w) (op o) ++ (o.text ++ [' ']) := by
  cases o <;> rfl

lemma tight_text_append (o : Operator) (t : List Char) :
    tight (o.text ++ ' ' :: t) = o.text ++ apart (tight t) := by
  have hne : o.text ≠ [] := by cases o <;> exact List.cons_ne_nil _ _
  rw [tight_append_solid hne fun _ => o.not_isBlank, tightEnd_cons_blank (by decide)]

lemma tight_spaced (o : Operator) (t : List Char) :
    tight (o.spaced ++ t) = o.text ++ apart (tight t) := by
  have hgap : (gap (run []) (op o)).all isBlank = true := by cases o <;> decide
  rw [List.all_eq_true] at hgap
  rw [spaced_eq [], List.append_assoc, List.append_assoc, tight_append_blank hgap,
    List.singleton_append, tight_text_append]

lemma tightEnd_spaced (w : List Char) (o : Operator) (t : List Char) :
    tightEnd (o.spaced ++ t) = gap (run w) (op o) ++ o.text ++ apart (tight t) := by
  rw [spaced_eq w, List.append_assoc, List.append_assoc, List.singleton_append]
  cases o
  case comma =>
    change tightEnd (',' :: ' ' :: t) = _
    rw [tightEnd_cons (by decide), tightEnd_cons_blank (by decide)]
    rfl
  all_goals
    rw [gap, List.singleton_append, tightEnd_cons_blank (by decide), tight_text_append]
    · rfl
    · nofun

lemma apart_append {u : List Char} (hu : u ≠ []) (v : List Char) :
    apart (u ++ v) = ' ' :: (u ++ v) := by
  obtain ⟨c, u, rfl⟩ := List.exists_cons_of_ne_nil hu
  rfl

lemma renderAfter_op (o : Operator) {ls : List Lexeme} (h : ∀ l ∈ ls, l.IsRead) :
    renderAfter (op o) ls = apart (render ls) := by
  cases ls with
  | nil => rfl
  | cons l ls =>
    rw [render, apart_append (h l List.mem_cons_self).text_ne_nil]
    rfl

/-- What is collected of a run begins the next lexeme. -/
lemma exists_scanAfter_eq {cs : List Char} (hcs : cs ≠ []) (t : List Char) :
    ∃ v ls, scanAfter cs t = run (cs.reverse ++ v) :: ls := by
  induction t using text_induction generalizing cs with
  | nil => exact ⟨[], [], by rw [List.append_nil]; exact close_of_ne_nil hcs⟩
  | operator o r =>
    rw [scanAfter_operator, close_of_ne_nil hcs]
    exact ⟨[], _, by rw [List.append_nil]; rfl⟩
  | other c r hnone ih =>
    rw [scanAfter_cons hnone]
    split_ifs
    · rw [close_of_ne_nil hcs]
      exact ⟨[], _, by rw [List.append_nil]; rfl⟩
    · obtain ⟨v, ls, h⟩ := ih (List.cons_ne_nil c cs)
      rw [List.reverse_cons, List.append_assoc] at h
      exact ⟨[c] ++ v, ls, h⟩

lemma renderAfter_run_scanAfter (w : List Char) {cs : List Char} (hcs : cs ≠ [])
    (t : List Char) :
    renderAfter (run w) (scanAfter cs t) = ' ' :: render (scanAfter cs t) := by
  obtain ⟨v, ls, h⟩ := exists_scanAfter_eq hcs t
  rw [h]
  rfl

/-- Squeezing and trimming what has its operators spaced writes out the lexemes: at the beginning
and behind an operator, behind white space that separates from a run, and within a run. -/
structure WritesOut (t : List Char) : Prop where
  fresh : ∀ held, HeldBlank held → tight (spaceAfter held t) = render (scan t)
  apart : ∀ w bs, bs ≠ [] → HeldBlank (some bs) →
    tightEnd (spaceAfter (some bs) t) = renderAfter (run w) (scan t)
  within : ∀ cs, cs ≠ [] →
    cs.reverse ++ tightEnd (spaceAfter (some []) t) = render (scanAfter cs t)

lemma heldBlank_nil : HeldBlank (some []) := nofun

lemma tight_held {held : Option (List Char)} (h : HeldBlank held) (t : List Char) :
    tight ((held.getD []).reverse ++ t) = tight t :=
  tight_append_blank h.reverse t

lemma writesOut_nil : WritesOut [] where
  fresh held h := by
    rw [spaceAfter_nil, ← List.append_nil (held.getD []).reverse, tight_held h]
    rfl
  apart w bs hne h := by
    have hend := tightEnd_append_blank (by simpa using hne) h.reverse []
    rw [List.append_nil] at hend
    rw [spaceAfter_nil, hend]
    rfl
  within cs hcs := by
    change _ = render (close cs)
    rw [close_of_ne_nil hcs]
    rfl

lemma writesOut_operator (o : Operator) {r : List Char} (h : WritesOut r) :
    WritesOut (o.text ++ r) := by
  have hwrite : ∀ w, tightEnd (o.spaced ++ spaceAfter none r)
      = renderAfter (run w) (op o :: scan r) := fun w => by
    rw [tightEnd_spaced w, h.fresh none nofun, renderAfter, renderAfter_op o isRead_of_mem_scan]
    rfl
  constructor
  case fresh =>
    intro held _
    rw [spaceAfter_operator, tight_spaced, h.fresh none nofun, scan_operator]
    exact congrArg _ (renderAfter_op o isRead_of_mem_scan).symm
  case apart =>
    intro w bs _ _
    rw [spaceAfter_operator, hwrite w, scan_operator]
  case within =>
    intro cs hcs
    rw [spaceAfter_operator, hwrite cs.reverse, scanAfter_operator, close_of_ne_nil hcs]
    rfl

lemma writesOut_cons {c : Char} {r : List Char} (hnone : operator? (c :: r) = none)
    (h : WritesOut r) : WritesOut (c :: r) := by
  cases hc : isBlank c with
  | true =>
    constructor
    case fresh =>
      intro held hheld
      rw [spaceAfter_cons hnone, if_pos hc, h.fresh _ (hheld.map_cons hc), scan_cons hnone,
        if_pos hc]
    case apart =>
      intro w bs _ hbs
      rw [spaceAfter_cons hnone, if_pos hc, scan_cons hnone, if_pos hc]
      exact h.apart w _ (List.cons_ne_nil c bs) (hbs.map_cons hc)
    case within =>
      intro cs hcs
      rw [spaceAfter_cons hnone, if_pos hc, scanAfter_cons hnone, if_pos hc,
        close_of_ne_nil hcs]
      have hrest := h.apart cs.reverse [c] (List.cons_ne_nil c []) (heldBlank_nil.map_cons hc)
      exact congrArg _ hrest
  | false =>
    have hnot : ¬ isBlank c = true := Bool.eq_false_iff.1 hc
    have hrun := h.within [c] (List.cons_ne_nil c [])
    constructor
    case fresh =>
      intro held hheld
      rw [spaceAfter_cons hnone, if_neg hnot, tight_held hheld, tight_cons hc,
        scan_cons hnone, if_neg hnot]
      exact hrun
    case apart =>
      intro w bs hne hbs
      rw [spaceAfter_cons hnone, if_neg hnot,
        tightEnd_append_blank (by simpa using hne) hbs.reverse, tight_cons hc,
        scan_cons hnone, if_neg hnot, renderAfter_run_scanAfter w (List.cons_ne_nil c []), ← hrun]
      rfl
    case within =>
      intro cs hcs
      rw [spaceAfter_cons hnone, if_neg hnot, scanAfter_cons hnone, if_neg hnot,
        ← h.within (c :: cs) (List.cons_ne_nil c cs), List.reverse_cons, List.append_assoc]
      exact congrArg _ (tightEnd_cons hc _)

lemma writesOut (t : List Char) : WritesOut t := by
  induction t using text_induction with
  | nil => exact writesOut_nil
  | operator o r ih => exact writesOut_operator o ih
  | other c r hnone ih => exact writesOut_cons hnone ih

lemma tight_spaceOperators (t : List Char) : tight (spaceOperators t) = render (scan t) :=
  (writesOut t).fresh _ heldBlank_nil

/-- The second text is the first one with white space and semicolons behind it. -/
def Trails (u v : List Char) : Prop :=
  ∃ s, (∀ c ∈ s, isTrailer c = true) ∧ v = u ++ s

namespace Trails

lemma of_dropTrailing (t : List Char) : Trails (Text.dropTrailing isTrailer t) t :=
  exists_dropTrailing_append isTrailer t

lemma dropTrailing {u v : List Char} (h : Trails u v) :
    Text.dropTrailing isTrailer v = Text.dropTrailing isTrailer u := by
  obtain ⟨s, hs, rfl⟩ := h
  exact dropTrailing_append_of_all hs

lemma append_left (w : List Char) {u v : List Char} (h : Trails u v) :
    Trails (w ++ u) (w ++ v) := by
  obtain ⟨s, hs, rfl⟩ := h
  exact ⟨s, hs, (List.append_assoc w u s).symm⟩

lemma of_all {s : List Char} (h : ∀ c ∈ s, isTrailer c = true) : Trails [] s :=
  ⟨s, h, rfl⟩

lemma trimLeft {u v : List Char} (h : Trails u v) : Trails (Text.trimLeft u) (Text.trimLeft v) := by
  obtain ⟨s, hs, rfl⟩ := h
  have hsuffix : ∀ c ∈ s.dropWhile isBlank, isTrailer c = true := fun c hc =>
    hs c ((List.dropWhile_suffix isBlank).subset hc)
  rw [Text.trimLeft, Text.trimLeft, List.dropWhile_append]
  split_ifs with hnil
  · rw [List.isEmpty_iff.1 hnil]
    exact of_all hsuffix
  · exact ⟨s, hs, rfl⟩

lemma squeeze {u v : List Char} (h : Trails u v) : Trails (Text.squeeze u) (Text.squeeze v) := by
  obtain ⟨s, hs, rfl⟩ := h
  induction u with
  | nil =>
    refine of_all fun c hc => ?_
    cases hblank : isBlank c with
    | true => rw [isTrailer, hblank, Bool.true_or]
    | false =>
      have hmem : c ∈ solid (Text.squeeze s) := List.mem_filter.2 ⟨hc, by rw [hblank]; rfl⟩
      rw [solid_squeeze] at hmem
      exact hs c (List.mem_of_mem_filter hmem)
  | cons c u ih =>
    cases hc : isBlank c with
    | true =>
      rw [List.cons_append, squeeze_cons_blank hc, squeeze_cons_blank hc]
      exact append_left [' '] ih.trimLeft
    | false =>
      rw [List.cons_append, squeeze_cons hc, squeeze_cons hc]
      exact append_left [c] ih

end Trails

lemma not_endsOperator_of_isTrailer {c : Char} (h : isTrailer c = true) :
    endsOperator c = false := by
  rw [endsOperator, Bool.or_eq_false_iff, beq_eq_false_iff_ne, beq_eq_false_iff_ne]
  constructor <;> rintro rfl <;> exact absurd h (by decide)

lemma operator?_eq_none_of_isTrailer {c : Char} (h : isTrailer c = true) (r : List Char) :
    operator? (c :: r) = none := by
  rw [operator?_eq_none_iff]
  intro o r ho
  cases o <;> cases ho <;> exact absurd h (by decide)

lemma Trails.spaceAfter_nil (held : Option (List Char)) {s : List Char}
    (hs : ∀ c ∈ s, isTrailer c = true) :
    Trails (spaceAfter held []) (spaceAfter held s) := by
  induction s generalizing held with
  | nil => exact ⟨[], nofun, (List.append_nil _).symm⟩
  | cons c s ih =>
    obtain ⟨hc, hs⟩ := List.forall_mem_cons.1 hs
    rw [spaceAfter_cons (operator?_eq_none_of_isTrailer hc s)]
    split_ifs
    · obtain ⟨s', hs', h⟩ := ih (held.map (c :: ·)) hs
      rw [h]
      cases held with
      | none => exact ⟨s', hs', rfl⟩
      | some bs =>
        refine ⟨c :: s', List.forall_mem_cons.2 ⟨hc, hs'⟩, ?_⟩
        change (c :: bs).reverse ++ s' = bs.reverse ++ c :: s'
        rw [List.reverse_cons, List.append_assoc, List.singleton_append]
    · obtain ⟨s', hs', h⟩ := ih (some []) hs
      rw [h]
      exact ⟨c :: s', List.forall_mem_cons.2 ⟨hc, hs'⟩, rfl⟩

lemma Trails.spaceAfter (held : Option (List Char)) {u v : List Char} (h : Trails u v) :
    Trails (spaceAfter held u) (spaceAfter held v) := by
  obtain ⟨s, hs, rfl⟩ := h
  induction u using text_induction generalizing held with
  | nil => exact spaceAfter_nil held hs
  | operator o u ih =>
    rw [List.append_assoc, spaceAfter_operator, spaceAfter_operator]
    exact (ih none).append_left _
  | other c u hnone ih =>
    have hnone' : operator? (c :: (u ++ s)) = none :=
      operator?_append hnone fun d hd =>
        not_endsOperator_of_isTrailer (hs d (List.mem_of_mem_head? hd))
    rw [List.cons_append, spaceAfter_cons hnone, spaceAfter_cons hnone']
    split_ifs
    · exact ih _
    · exact ((ih _).append_left [c]).append_left _

lemma solid_spaceAfter {held : Option (List Char)} (h : HeldBlank held) (t : List Char) :
    solid (spaceAfter held t) = solid t := by
  induction t using text_induction generalizing held with
  | nil => exact solid_of_all_blank h.reverse
  | operator o t ih =>
    rw [spaceAfter_operator, solid_append, @ih none nofun, solid_append]
    cases o <;> rfl
  | other c t hnone ih =>
    rw [spaceAfter_cons hnone]
    cases hc : isBlank c with
    | true => rw [if_pos rfl, ih (h.map_cons hc), solid_cons_blank hc]
    | false =>
      rw [if_neg Bool.false_ne_true, solid_append, solid_of_all_blank h.reverse, List.nil_append,
        solid_cons hc, ih heldBlank_nil, solid_cons hc]

/-- Dropping the semicolons at the end of a text that is trimmed afterwards means dropping all
white space and semicolons there. -/
lemma trim_dropSemicolons (t : List Char) :
    trim (dropSemicolons t) = trim (dropTrailing isTrailer t) := by
  unfold dropSemicolons
  split_ifs with h
  · rfl
  · have hblank : ∀ c ∈ t.reverse.takeWhile isTrailer, isBlank c = true := by
      intro c hc
      have htrailer := List.mem_takeWhile_imp hc
      rw [isTrailer, Bool.or_eq_true, beq_iff_eq] at htrailer
      refine htrailer.resolve_right ?_
      rintro rfl
      exact h (List.contains_iff_mem.2 hc)
    have ht : t = dropTrailing isTrailer t ++ (t.reverse.takeWhile isTrailer).reverse := by
      rw [dropTrailing, ← List.reverse_append, List.takeWhile_append_dropWhile,
        List.reverse_reverse]
    conv_lhs => rw [ht]
    rw [trim, trim, trimRight, trimRight,
      dropTrailing_append_of_all fun c hc => hblank c (List.mem_reverse.1 hc)]

lemma isTrailer_of_isBlank {c : Char} (h : isBlank c = true) : isTrailer c = true := by
  rw [isTrailer, h, Bool.true_or]

/-- What ends in the same character that counts as a text that ends in no trailer does so too. -/
lemma dropTrailing_of_solid_eq {t u : List Char} (ht : ∀ c ∈ t.getLast?, isBlank c = false)
    (hu : ∀ c ∈ u.getLast?, isTrailer c = false) (h : solid t = solid u) :
    dropTrailing isTrailer t = t := by
  have hblank : ∀ c ∈ u.getLast?, isBlank c = false := fun c hc =>
    Bool.eq_false_iff.2 fun hb =>
      absurd (isTrailer_of_isBlank hb) (Bool.eq_false_iff.1 (hu c hc))
  rwa [dropTrailing_eq_self_iff, ← getLast?_solid ht, h, getLast?_solid hblank]

/-- The canonical form without a pass for the semicolons. -/
lemma canonical_eq_tight (raw : List Char) :
    canonical raw = tight (spaceOperators (dropTrailing isTrailer (lower raw))) := by
  have htrails : Trails (spaceOperators (dropTrailing isTrailer (lower raw)))
      (spaceOperators (lower raw)) :=
    (Trails.of_dropTrailing (lower raw)).spaceAfter (some [])
  have hend : dropTrailing isTrailer
      (trimRight (squeeze (spaceOperators (dropTrailing isTrailer (lower raw)))))
        = trimRight (squeeze (spaceOperators (dropTrailing isTrailer (lower raw)))) :=
    dropTrailing_of_solid_eq getLast?_dropTrailing getLast?_dropTrailing
      ((solid_tightEnd _).trans (solid_spaceAfter heldBlank_nil _))
  rw [canonical, trim_dropSemicolons, htrails.squeeze.dropTrailing,
    ← dropTrailing_dropTrailing fun c => isTrailer_of_isBlank (c := c), ← trimRight, hend, trim,
    trimRight_trimRight]
  rfl

/-- The canonical form writes out the lexemes. -/
lemma canonical_eq_render (raw : List Char) : canonical raw = render (lexemes raw) := by
  rw [canonical_eq_tight, tight_spaceOperators, lexemes]

/-- Only letter case, white space and the trailing semicolons are lost. -/
lemma solid_canonical (raw : List Char) :
    solid (canonical raw) = solid (dropTrailing isTrailer (lower raw)) := by
  rw [canonical_eq_tight, tight_eq, solid_trimLeft, solid_tightEnd]
  exact solid_spaceAfter heldBlank_nil _

lemma lower_canonical (raw : List Char) : lower (canonical raw) = canonical raw := by
  refine lower_of_isSmall fun c hc => ?_
  cases hblank : isBlank c with
  | true => exact isSmall_of_isBlank hblank
  | false =>
    have hsolid : c ∈ solid (canonical raw) := List.mem_filter.2 ⟨hc, by rw [hblank]; rfl⟩
    rw [solid_canonical] at hsolid
    have hmem := (isPrefix_dropTrailing isTrailer (lower raw)).mem (List.mem_of_mem_filter hsolid)
    exact isSmall_of_mem_lower hmem

/-- A canonical form ends in no white space and no semicolon. -/
lemma dropTrailing_canonical (raw : List Char) :
    dropTrailing isTrailer (canonical raw) = canonical raw := by
  refine dropTrailing_of_solid_eq ?_ getLast?_dropTrailing (solid_canonical raw)
  rw [canonical_eq_tight, tight, trim_eq]
  exact getLast?_dropTrailing

/-- The lexemes of a text can be read from its canonical form. -/
lemma lexemes_canonical (raw : List Char) : lexemes (canonical raw) = lexemes raw := by
  rw [lexemes, lower_canonical, dropTrailing_canonical, canonical_eq_render, scan_render]
  exact isRead_of_mem_scan

/-- Texts have the same canonical form exactly if they have the same lexemes.  The form keeps the
lexemes, and all characters but white space, letter case and trailing semicolons. -/
theorem canonical_eq_iff_lexemes_eq (x y : List Char) :
    (canonical x = canonical y ↔ lexemes x = lexemes y) ∧
      lexemes (canonical x) = lexemes x ∧
      solid (canonical x) = solid (dropTrailing isTrailer (lower x)) := by
  refine ⟨⟨fun h => ?_, fun h => ?_⟩, lexemes_canonical x, solid_canonical x⟩
  · rw [← lexemes_canonical x, h, lexemes_canonical y]
  · rw [canonical_eq_render, canonical_eq_render, h]

/-- The canonical form of a canonical form is the form itself. -/
theorem canonical_canonical (x : List Char) : canonical (canonical x) = canonical x := by
  rw [canonical_eq_render, lexemes_canonical, ← canonical_eq_render]

end QueryTutor.Query
