import Mathlib.Data.List.TakeWhile
import QueryTutor.Proofs.Query.Sequence
import QueryTutor.Query.Comment

/-!
# Comments at the front of a query

A comment line at the front of a query leaves nothing but white space when comments are taken out,
and changes nothing behind it.
-/

namespace QueryTutor.Query

open Text

namespace Node

/-! ## The outline of a statement behind comments -/

lemma skips_joined : Skips fun ns => joinAll (nameAll (pairAll ns)) :=
  (skips_pairAll.comp skips_nameAll).comp skips_joinAll

lemma map_rebuild_remarks {f : Option Group → List Node → List Node} {ps : List Node}
    (hps : ∀ p ∈ ps, IsIdle p) : ps.map (Node.rebuild (· == .remark) f) = ps := by
  rw [List.map_congr_left fun p hp => (hps p hp).rebuild (.inl rfl), List.map_id']

/-- White space and comments stay at the front of an outline, in no groups but their own, and the
outline goes on with what it is without them. -/
theorem outline_front {n : Node} (hn : IsLeader n) (ns : List Node) :
    ∃ n' ns', IsLeader n' ∧ ∀ ps : List Node, (∀ p ∈ ps, IsIdle p) →
      ∃ ps', (∀ p ∈ ps', IsIdle p) ∧ outline (ps ++ n :: ns) = ps' ++ n' :: ns' := by
  obtain ⟨m, ms, hm, hjoined⟩ := skips_joined.front ns hn
  let f : Option Group → List Node → List Node := fun _ => alignRemarks
  have hlead := hm.rebuild (· == .remark) f
  obtain ⟨hled, hframe⟩ := foldl_remarkAfter (ms.map (Node.rebuild (· == .remark) f))
    (led_singleton hlead)
  obtain ⟨n', ns', hn', hbehind⟩ := hled.exists_reverse
  refine ⟨n', ns', hn', fun ps hps => ⟨(ps.foldl remarkAfter []).reverse, ?_, ?_⟩⟩
  · intro p hp
    exact foldl_remarkAfter_idle hps (List.forall_mem_nil _) p (List.mem_reverse.1 hp)
  · have houtline : outline (ps ++ n :: ns)
        = alignRemarks ((ps ++ m :: ms).map (Node.rebuild (· == .remark) f)) := by
      rw [← hjoined hps, ← rebuildAll_eq_map]
      rfl
    have hskip : remarkAfter (ps.foldl remarkAfter []) (m.rebuild (· == .remark) f)
        = [m.rebuild (· == .remark) f] ++ ps.foldl remarkAfter [] := by
      rw [remarkAfter, hlead.isGroupOf (by decide), if_neg Bool.false_ne_true]
      rfl
    rw [houtline, List.map_append, map_rebuild_remarks hps, List.map_cons, alignRemarks,
      List.foldl_append, List.foldl_cons, hskip, hframe, List.reverse_append, hbehind]

lemma outline_idle {ps : List Node} (hps : ∀ p ∈ ps, IsIdle p) : ∀ p ∈ outline ps, IsIdle p := by
  have houtline : outline ps = alignRemarks ps := by
    have h : outline ps = alignRemarks (rebuildAll (· == .remark) (fun _ => alignRemarks)
        (joinAll (nameAll (pairAll ps)))) := rfl
    rw [h, skips_joined.idle hps, rebuildAll_eq_map, map_rebuild_remarks hps]
  rw [houtline, alignRemarks]
  exact fun p hp => foldl_remarkAfter_idle hps (List.forall_mem_nil _) p (List.mem_reverse.1 hp)

/-! ## Taking comments out -/

/-- Nothing but white space is left of the node, and it is no hint. -/
structure IsFaint (n : Node) : Prop where
  isBlank : ∀ c ∈ n.text, isBlank c = true
  hint : n.isLeafOf [.hint] = false

lemma isFaint_spaceFor (comment : Node) : IsFaint (spaceFor comment) := by
  rw [spaceFor]
  split_ifs with hempty
  · exact ⟨List.forall_mem_singleton.2 rfl, rfl⟩
  · refine ⟨fun c hc => ?_, rfl⟩
    have hbreak := List.mem_takeWhile_imp (List.mem_reverse.1 hc)
    obtain rfl | rfl : c = '\r' ∨ c = '\n' := by simpa using hbreak
    · rfl
    · rfl

lemma isFaint_leave {kept : List Node} (h : ∀ n ∈ kept, IsFaint n) (comment : Node) :
    ∀ n ∈ leave kept comment, IsFaint n := by
  cases kept with
  | nil => exact h
  | cons last kept =>
    rw [leave]
    split_ifs
    · exact h
    · exact List.forall_mem_cons.2 ⟨isFaint_spaceFor comment, h⟩

lemma textOf_append (ns ms : List Node) : textOf (ns ++ ms) = textOf ns ++ textOf ms := by
  induction ns with
  | nil => rfl
  | cons n ns ih => rw [List.cons_append, textOf, textOf, ih, List.append_assoc]

lemma isBlank_of_mem_textOf {ns : List Node} (h : ∀ n ∈ ns, IsFaint n) :
    ∀ c ∈ textOf ns, isBlank c = true := by
  induction ns with
  | nil => exact List.forall_mem_nil _
  | cons n ns ih =>
    obtain ⟨hn, hns⟩ := List.forall_mem_cons.1 h
    exact List.forall_mem_append.2 ⟨hn.isBlank, ih hns⟩

/-- Behind white space, the node leaves nothing but white space when comments are taken out. -/
def Fades (n : Node) : Prop :=
  ∀ kept : List Node, (∀ k ∈ kept, IsFaint k) →
    ∃ kept' : List Node, (∀ k ∈ kept', IsFaint k) ∧
      ∀ ns, stripAfter kept (n :: ns) = stripAfter kept' ns

lemma exists_stripAfter {ps : List Node} (h : ∀ p ∈ ps, Fades p) {kept : List Node}
    (hkept : ∀ k ∈ kept, IsFaint k) : ∃ kept' : List Node, (∀ k ∈ kept', IsFaint k) ∧
      ∀ ns, stripAfter kept (ps ++ ns) = stripAfter kept' ns := by
  induction ps generalizing kept with
  | nil => exact ⟨kept, hkept, fun _ => rfl⟩
  | cons p ps ih =>
    obtain ⟨hp, hps⟩ := List.forall_mem_cons.1 h
    obtain ⟨kept₁, hkept₁, heq₁⟩ := hp kept hkept
    obtain ⟨kept₂, hkept₂, heq₂⟩ := ih hps hkept₁
    exact ⟨kept₂, hkept₂, fun ns => by rw [List.cons_append, heq₁, heq₂]⟩

lemma isFaint_of_mem_stripAfter {ps : List Node} (h : ∀ p ∈ ps, Fades p) :
    ∀ n ∈ stripAfter [] ps, IsFaint n := by
  obtain ⟨kept, hkept, heq⟩ := exists_stripAfter h (List.forall_mem_nil _)
  have hstrip := heq []
  rw [List.append_nil, stripAfter] at hstrip
  rw [hstrip]
  exact fun n hn => hkept n (List.mem_reverse.1 hn)

/-- A token with whether it stands inside a group of comments, which does not count for white
space. -/
def mark (inside : Bool) (t : Token) : List (Bool × Token) :=
  [(inside && !t.isSpace, t)]

/-- Nodes of white space and comments fade. -/
lemma fades {n : Node} {inside : Bool} (h : ∀ x ∈ n.read mark inside, x.2.IsLayout) : Fades n := by
  have gone : ∀ {n : Node}, n.strip.isComment = true → Fades n := by
    intro n hcomment kept hkept
    refine ⟨leave kept n, isFaint_leave hkept n, fun ns => ?_⟩
    rw [stripAfter, if_pos hcomment]
  have stays : ∀ {n : Node}, n.strip.isComment = false → IsFaint n.strip → Fades n := by
    intro n hplain hfaint kept hkept
    refine ⟨n.strip :: kept, List.forall_mem_cons.2 ⟨hfaint, hkept⟩, fun ns => ?_⟩
    rw [stripAfter, hplain, if_neg Bool.false_ne_true]
  induction n using induct generalizing inside with
  | leaf t =>
    cases h _ (List.mem_singleton_self _) with
    | comment hkind => exact gone (beq_iff_eq.2 hkind)
    | space hspace hblank =>
      have hplain : (Node.leaf t).isComment = false := by
        obtain hkind | hkind := Token.isSpace_iff.1 hspace <;> rw [isComment, hkind] <;> rfl
      exact stays hplain ⟨hblank, (IsIdle.leaf (.space hspace hblank)).isLeafOf rfl⟩
  | group g ns ih =>
    have hns : ∀ n ∈ ns, Fades n :=
      fun n hn => ih n hn fun x hx => h x (mem_readOf.2 ⟨n, hn, hx⟩)
    have hfaint := isFaint_of_mem_stripAfter hns
    by_cases hg : g = .remark
    · have hhint : (stripAfter [] ns).head?.any (isLeafOf [.hint]) = false := by
        refine Bool.eq_false_iff.2 fun hany => ?_
        obtain ⟨m, hm, hhint⟩ := (Option.any_eq_true ..).1 hany
        have hnone := (hfaint m (List.mem_of_mem_head? hm)).hint
        exact absurd (hhint.symm.trans hnone) nofun
      apply gone
      rw [strip, isComment, hg, hhint]
      rfl
    · apply stays
      · exact Bool.and_eq_false_iff.2 (.inl (beq_eq_false_iff_ne.2 hg))
      · exact ⟨isBlank_of_mem_textOf hfaint, rfl⟩

lemma IsIdle.isLayout_of_mem_read {n : Node} (h : IsIdle n) (inside : Bool) :
    ∀ x ∈ n.read mark inside, x.2.IsLayout := by
  induction h generalizing inside with
  | leaf ht => exact List.forall_mem_singleton.2 ht
  | remark _ ih =>
    intro x hx
    obtain ⟨n, hn, hx⟩ := mem_readOf.1 hx
    exact ih n hn _ x hx

lemma IsIdle.fades {n : Node} (h : IsIdle n) : Fades n :=
  Node.fades (h.isLayout_of_mem_read false)

lemma IsLeader.isComment_strip {n : Node} (h : IsLeader n) : n.strip.isComment = false := by
  cases h with
  | @leaf t solid =>
    refine beq_eq_false_iff_ne.2 fun hkind => ?_
    rw [hkind] at solid
    cases solid
  | group solid => exact Bool.and_eq_false_iff.2 (.inl (beq_eq_false_iff_ne.2 solid))

lemma stripAfter_frame (kept base ns : List Node) (hne : kept ≠ []) :
    stripAfter (kept ++ base) ns = base.reverse ++ stripAfter kept ns := by
  induction ns generalizing kept with
  | nil => exact List.reverse_append
  | cons n ns ih =>
    rw [stripAfter, stripAfter]
    split_ifs
    · obtain ⟨last, kept, rfl⟩ := List.exists_cons_of_ne_nil hne
      rw [List.cons_append, leave, leave]
      split_ifs
      · exact ih _ (List.cons_ne_nil _ _)
      · exact ih (_ :: _ :: _) (List.cons_ne_nil _ _)
    · exact ih (_ :: kept) (List.cons_ne_nil _ _)

/-- Comments at the front leave nothing but white space, and change nothing behind them. -/
theorem strip_front {n : Node} (hn : IsLeader n) (ns : List Node) :
    ∃ ns', ∀ ps : List Node, (∀ p ∈ ps, IsIdle p) →
      ∃ ws, (∀ w ∈ ws, IsFaint w) ∧ stripAfter [] (ps ++ n :: ns) = ws ++ ns' := by
  refine ⟨stripAfter [n.strip] ns, fun ps hps => ?_⟩
  obtain ⟨kept, hkept, heq⟩ := exists_stripAfter (fun p hp => (hps p hp).fades)
    (List.forall_mem_nil _)
  refine ⟨kept.reverse, fun w hw => hkept w (List.mem_reverse.1 hw), ?_⟩
  rw [heq, stripAfter, hn.isComment_strip, if_neg Bool.false_ne_true]
  exact stripAfter_frame [n.strip] kept ns (List.cons_ne_nil _ _)

/-! ## The first token that stays -/

lemma mark_of_mem_read {n : Node} {x : Bool × Token} (hx : x ∈ n.read mark true) :
    x.1 = !x.2.isSpace := by
  induction n using induct with
  | leaf t =>
    rw [List.mem_singleton.1 hx]
    rfl
  | group g ns ih =>
    obtain ⟨n, hn, hx⟩ := mem_readOf.1 hx
    exact ih n hn hx

section Front

variable {t : Token}

/-- If the token comes first in the node, and in no group of comments, it comes first of what is
left of the node. -/
def Fronts (t : Token) (n : Node) : Prop :=
  ∀ lead rest, n.read mark false = lead ++ (false, t) :: rest → (∀ x ∈ lead, x.2.IsLayout) →
    n.strip.isComment = false ∧
      ∃ u x, (∀ c ∈ u, isBlank c = true) ∧ n.strip.text = u ++ t.text ++ x

lemma exists_stripAfter_eq_append (kept ns : List Node) :
    ∃ more, stripAfter kept ns = kept.reverse ++ more := by
  have behind : ∀ {out kept : List Node} {n : Node}, (∃ more, out = (n :: kept).reverse ++ more) →
      ∃ more, out = kept.reverse ++ more := by
    rintro out kept n ⟨more, rfl⟩
    exact ⟨n :: more, by rw [List.reverse_cons, List.append_assoc]; rfl⟩
  induction ns generalizing kept with
  | nil => exact ⟨[], (List.append_nil _).symm⟩
  | cons n ns ih =>
    rw [stripAfter]
    split_ifs
    · cases kept with
      | nil => exact ih []
      | cons last kept =>
        rw [leave]
        split_ifs
        · exact ih (last :: kept)
        · exact behind (ih (spaceFor n :: last :: kept))
    · exact behind (ih (n.strip :: kept))

lemma exists_textOf_stripAfter {ns : List Node} (hns : ∀ n ∈ ns, Fronts t n)
    {lead rest : List (Bool × Token)} (hread : readOf mark false ns = lead ++ (false, t) :: rest)
    (hlead : ∀ x ∈ lead, x.2.IsLayout) {kept : List Node} (hkept : ∀ k ∈ kept, IsFaint k) :
    ∃ u x, (∀ c ∈ u, isBlank c = true) ∧ textOf (stripAfter kept ns) = u ++ t.text ++ x := by
  induction ns generalizing lead kept with
  | nil => exact absurd hread.symm (List.append_ne_nil_of_right_ne_nil _ (List.cons_ne_nil _ _))
  | cons n ns ih =>
    obtain ⟨hn, hns⟩ := List.forall_mem_cons.1 hns
    have behind : ∀ lead', lead = n.read mark false ++ lead' →
        readOf mark false ns = lead' ++ (false, t) :: rest →
        ∃ u x, (∀ c ∈ u, isBlank c = true) ∧
          textOf (stripAfter kept (n :: ns)) = u ++ t.text ++ x := by
      rintro lead' rfl hread'
      obtain ⟨hfront, hlead'⟩ := List.forall_mem_append.1 hlead
      obtain ⟨kept', hkept', heq⟩ := fades hfront kept hkept
      rw [heq]
      exact ih hns hread' hlead' hkept'
    obtain ⟨lead', hlead', hread'⟩ | ⟨front, hfront, hrest⟩ := List.append_eq_append_iff.1 hread
    · exact behind lead' hlead' hread'
    · cases front with
      | nil => exact behind [] (by rw [hfront, List.append_nil, List.append_nil]) hrest.symm
      | cons x front =>
        obtain ⟨rfl, -⟩ := List.cons_eq_cons.1 hrest
        obtain ⟨hplain, u, y, hu, htext⟩ := hn lead front hfront hlead
        obtain ⟨more, hmore⟩ := exists_stripAfter_eq_append (n.strip :: kept) ns
        refine ⟨textOf kept.reverse ++ u, y ++ textOf more, ?_, ?_⟩
        · exact List.forall_mem_append.2
            ⟨isBlank_of_mem_textOf fun k hk => hkept k (List.mem_reverse.1 hk), hu⟩
        · rw [stripAfter, hplain, if_neg Bool.false_ne_true, hmore, List.reverse_cons,
            textOf_append, textOf_append, textOf, textOf, htext]
          simp

/-- The first token that is no white space and no comment stays in front. -/
lemma fronts (ht : t.kind.isLayout = false) (n : Node) : Fronts t n := by
  induction n using induct with
  | leaf u =>
    intro lead rest hread hlead
    cases lead with
    | nil =>
      obtain rfl : u = t := congrArg Prod.snd (List.cons_eq_cons.1 hread).1
      refine ⟨beq_eq_false_iff_ne.2 fun hkind => ?_, [], [], List.forall_mem_nil _, ?_⟩
      · rw [hkind] at ht
        cases ht
      · exact (List.append_nil _).symm
    | cons x lead => cases lead <;> cases (List.cons_eq_cons.1 hread).2
  | group g ns ih =>
    intro lead rest hread hlead
    by_cases hg : g = .remark
    · have hmem : (false, t) ∈ (group g ns).read mark false := by
        rw [hread]
        exact List.mem_append_right _ List.mem_cons_self
      rw [hg, read, beq_self_eq_true, Bool.or_true] at hmem
      obtain ⟨n, -, hmem⟩ := mem_readOf.1 hmem
      have hspace : t.isSpace = true := by simpa using mark_of_mem_read hmem
      obtain hkind | hkind := Token.isSpace_iff.1 hspace <;> rw [hkind] at ht <;> cases ht
    · rw [read_group hg] at hread
      refine ⟨Bool.and_eq_false_iff.2 (.inl (beq_eq_false_iff_ne.2 hg)), ?_⟩
      exact exists_textOf_stripAfter ih hread hlead (List.forall_mem_nil _)

end Front

end Node

end QueryTutor.Query
