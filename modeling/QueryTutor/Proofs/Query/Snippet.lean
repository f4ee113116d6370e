import QueryTutor.Proofs.Query.Canonical
import QueryTutor.Proofs.Query.Division

/-!
# Snippets of a query

A piece of a text that cuts no operator is read as the same lexemes as in its context, its first and
its last run apart, which may be longer there.  So its canonical form stands in the form of the text.
-/

namespace QueryTutor.Query
open Text Lexeme

namespace Lexeme

lemma render_cons (l : Lexeme) (ls : List Lexeme) : render (l :: ls) = l.text ++ renderAfter l ls :=
  rfl

lemma renderAfter_cons (last l : Lexeme) (ls : List Lexeme) :
    renderAfter last (l :: ls) = gap last l ++ l.text ++ renderAfter l ls :=
  rfl

/-- What is written behind a run is the same for all runs. -/
lemma renderAfter_run (v w : List Char) (ls : List Lexeme) :
    renderAfter (run v) ls = renderAfter (run w) ls := by
  cases ls with
  | nil => rfl
  | cons l ls =>
    cases l with
    | op o => cases o <;> rfl
    | run u => rfl

/-! ## Lexemes in front -/

lemma render_suffix_renderAfter (l : Lexeme) (ls : List Lexeme) : render ls <:+ renderAfter l ls := by
  cases ls with
  | nil => exact List.suffix_rfl
  | cons l' ls =>
    rw [render_cons, renderAfter_cons, List.append_assoc]
    exact List.suffix_append _ _

/-- The last lexemes are written at the end. -/
lemma render_suffix_render_append (front ls : List Lexeme) : render ls <:+ render (front ++ ls) := by
  induction front with
  | nil => exact List.suffix_rfl
  | cons l front ih =>
    rw [List.cons_append, render_cons]
    exact (ih.trans (render_suffix_renderAfter l _)).trans (List.suffix_append _ _)

lemma render_close_append_suffix (cs before : List Char) (ls : List Lexeme) :
    render (close cs ++ ls) <:+ render (close (cs ++ before) ++ ls) := by
  cases cs with
  | nil => exact render_suffix_render_append _ ls
  | cons c cs =>
    rw [close_of_ne_nil (List.cons_ne_nil c cs), close_of_ne_nil (by simp), List.reverse_append,
      List.singleton_append, List.singleton_append, render_cons, render_cons, text, text,
      List.append_assoc, renderAfter_run (before.reverse ++ _) (c :: cs).reverse]
    exact List.suffix_append _ _

/-- What has been collected of a run before changes only what is written in front. -/
lemma render_scanAfter_suffix (cs before t : List Char) :
    render (scanAfter cs t) <:+ render (scanAfter (cs ++ before) t) := by
  induction t using text_induction generalizing cs with
  | nil =>
    have hclose := render_close_append_suffix cs before []
    rwa [List.append_nil, List.append_nil] at hclose
  | operator o t ih =>
    rw [scanAfter_operator, scanAfter_operator]
    exact render_close_append_suffix cs before _
  | other c t hnone ih =>
    rw [scanAfter_cons hnone, scanAfter_cons hnone]
    split_ifs
    · exact render_close_append_suffix cs before _
    · exact ih (c :: cs)

/-! ## Lexemes behind -/

/-- The first lexemes open the second ones: they are the first of them, but for a last run that may
go on. -/
inductive Opens : List Lexeme → List Lexeme → Prop where
  | nil (ls : List Lexeme) : Opens [] ls
  | run {v w : List Char} (ls : List Lexeme) : v <+: w → Opens [run v] (run w :: ls)
  | cons (l : Lexeme) {ls ls' : List Lexeme} : Opens ls ls' → Opens (l :: ls) (l :: ls')

namespace Opens

variable {ls ls' : List Lexeme}

lemma append_left (front : List Lexeme) (h : Opens ls ls') : Opens (front ++ ls) (front ++ ls') := by
  induction front with
  | nil => exact h
  | cons l front ih => exact .cons l ih

lemma renderAfter (h : Opens ls ls') (last : Lexeme) :
    Lexeme.renderAfter last ls <+: Lexeme.renderAfter last ls' := by
  induction h generalizing last with
  | nil ls => exact List.nil_prefix
  | @run v w ls hvw =>
    have hgap : gap last (Lexeme.run v) = gap last (Lexeme.run w) := by cases last <;> rfl
    rw [renderAfter_cons, renderAfter_cons, hgap]
    refine List.IsPrefix.trans ?_ (List.prefix_append _ _)
    rw [Lexeme.renderAfter, List.append_nil]
    exact (List.prefix_append_right_inj _).2 hvw
  | cons l _ ih => exact (List.prefix_append_right_inj _).2 (ih l)

lemma render (h : Opens ls ls') : Lexeme.render ls <+: Lexeme.render ls' := by
  cases h with
  | nil ls => exact List.nil_prefix
  | @run v w ls hvw =>
    rw [render_cons, render_cons, Lexeme.renderAfter, List.append_nil]
    exact hvw.trans (List.prefix_append _ _)
  | cons l h => exact (List.prefix_append_right_inj _).2 (h.renderAfter l)

end Opens

lemma opens_close (cs t : List Char) : Opens (close cs) (scanAfter cs t) := by
  cases cs with
  | nil => exact .nil _
  | cons c cs =>
    obtain ⟨v, ls, h⟩ := exists_scanAfter_eq (List.cons_ne_nil c cs) t
    rw [h, close_of_ne_nil (List.cons_ne_nil c cs)]
    exact .run ls (List.prefix_append _ v)

end Lexeme

/-! ## Parted texts -/

/-- The lexemes of the first part open those of a parted text. -/
lemma Parted.opens {u v : List Char} (h : Parted u v) (cs : List Char) :
    Opens (scanAfter cs u) (scanAfter cs (u ++ v)) := by
  induction h generalizing cs with
  | nil v => exact opens_close cs v
  | operator o _ ih =>
    rw [List.append_assoc, scanAfter_operator, scanAfter_operator]
    exact (Opens.cons _ (ih [])).append_left _
  | @other c u v hnone _ ih =>
    rw [List.cons_append, scanAfter_cons (operator?_of_append (u := c :: u) hnone), scanAfter_cons hnone]
    split_ifs
    · exact (ih []).append_left _
    · exact ih (c :: cs)

/-- The lexemes of a parted text end in those of its second part, read behind some of a run. -/
lemma Parted.exists_scanAfter_append {u v : List Char} (h : Parted u v) (cs : List Char) :
    ∃ front collected, scanAfter cs (u ++ v) = front ++ scanAfter collected v := by
  induction h generalizing cs with
  | nil v => exact ⟨[], cs, rfl⟩
  | operator o _ ih =>
    obtain ⟨front, collected, h⟩ := ih []
    refine ⟨close cs ++ op o :: front, collected, ?_⟩
    rw [List.append_assoc, scanAfter_operator, h, List.append_assoc, List.cons_append]
  | @other c u v hnone _ ih =>
    rw [List.cons_append, scanAfter_cons hnone]
    split_ifs
    · obtain ⟨front, collected, h⟩ := ih []
      exact ⟨close cs ++ front, collected, by rw [h, List.append_assoc]⟩
    · exact ih (c :: cs)

/-- What is written for the middle of a text in three parts stands in what is written for it. -/
lemma render_scan_isInfix {x s y : List Char} (hx : Parted x (s ++ y)) (hs : Parted s y) :
    render (scan s) <:+: render (scan (x ++ (s ++ y))) := by
  obtain ⟨front, collected, h⟩ := hx.exists_scanAfter_append []
  rw [scan, scan, h]
  exact (hs.opens []).render.isInfix.trans
    ((render_scanAfter_suffix [] collected _).trans (render_suffix_render_append front _)).isInfix

/-- Behind a text that ends in no trailer only what follows is cut short. -/
lemma dropTrailing_append_of_ne_nil {x s : List Char} (hne : s ≠ [])
    (hs : dropTrailing isTrailer s = s) (y : List Char) :
    dropTrailing isTrailer (x ++ (s ++ y)) = x ++ (s ++ dropTrailing isTrailer y) := by
  have hlast : ∀ c ∈ (x ++ s).getLast?, isTrailer c = false := by
    rw [List.getLast?_append_of_ne_nil x hne]
    exact dropTrailing_eq_self_iff.1 hs
  rw [← List.append_assoc, dropTrailing_append_of_getLast? hlast, List.append_assoc]

/-- A text divided without cutting an operator stays parted when trailers before the division count
to what follows, and trailers at its end are dropped. -/
lemma Parted.dropTrailing {s trailers y : List Char} (htrailers : ∀ c ∈ trailers, isTrailer c = true)
    (h : Parted (s ++ trailers) y) : Parted s (Text.dropTrailing isTrailer (trailers ++ y)) := by
  obtain ⟨z, -, hz⟩ := exists_dropTrailing_append isTrailer (trailers ++ y)
  cases trailers with
  | nil =>
    rw [List.append_nil, ← List.nil_append y, hz] at h
    exact h.shorten
  | cons c trailers =>
    refine parted_of_head s fun d hd => ?_
    obtain ⟨t, ht⟩ := List.head?_eq_some_iff.1 hd
    rw [ht, List.cons_append, List.cons_append, List.cons.injEq] at hz
    obtain ⟨rfl, -⟩ := hz
    exact not_endsOperator_of_isTrailer (htrailers c List.mem_cons_self)

/-- The canonical form of a piece stands in the form of the text, where the piece cuts no operator
and small letters are made piece by piece. -/
lemma canonical_isInfix {x s y : List Char}
    (hlower : lower (x ++ s ++ y) = lower x ++ lower s ++ lower y)
    (hx : ¬ Straddles (x ++ s ++ y) x.length) (hy : ¬ Straddles (x ++ s ++ y) (x ++ s).length) :
    canonical s <:+: canonical (x ++ s ++ y) := by
  obtain ⟨hpx, hps⟩ := parted_of_not_straddles hx hy
  obtain ⟨hpx, hps⟩ := parted_lower hlower hpx hps
  rw [canonical_eq_render, canonical_eq_render, lexemes, lexemes, hlower]
  obtain ⟨trailers, htrailers, hlow⟩ := exists_dropTrailing_append isTrailer (lower s)
  generalize hs : dropTrailing isTrailer (lower s) = s' at hlow
  have hkept : dropTrailing isTrailer s' = s' := hs ▸ dropTrailing_dropTrailing (fun _ => id) _
  rw [hlow] at hpx hps
  by_cases hne : s' = []
  · rw [hne]
    exact List.nil_infix
  · rw [hlow, List.append_assoc, List.append_assoc, dropTrailing_append_of_ne_nil hne hkept]
    refine render_scan_isInfix ?_ (hps.dropTrailing htrailers)
    obtain ⟨z, -, hz⟩ := exists_dropTrailing_append isTrailer (trailers ++ lower y)
    rw [List.append_assoc, hz, ← List.append_assoc s'] at hpx
    exact hpx.shorten

end QueryTutor.Query
