import QueryTutor.Proofs.Query.Comment
import QueryTutor.Proofs.Query.Opening

/-!
# Comment lines in front of a query

A comment line in front of a query is no part of its canonical form, whatever it says: the comment
is a token of its own, it stays in the first statement, and when comments are taken out it leaves
white space at most.
-/

namespace QueryTutor.Query

open Text

/-! ## Statements -/

/-- The token is neither white space nor a comment of any kind. -/
structure Token.IsSolid (t : Token) : Prop where
  layout : t.kind.isLayout = false
  hint : t.kind ≠ .hint

lemma Token.IsSolid.kind_ne {t : Token} (h : t.IsSolid) {k : Token.Kind} (hk : k.isLayout = true) :
    t.kind ≠ k := by
  rintro rfl
  exact absurd (hk.symm.trans h.layout) nofun

lemma Token.IsSolid.isRemark {t : Token} (h : t.IsSolid) : t.isRemark = false :=
  Bool.or_eq_false_iff.2 ⟨beq_eq_false_iff_ne.2 (h.kind_ne rfl), beq_eq_false_iff_ne.2 h.hint⟩

lemma Token.IsSolid.isSpace {t : Token} (h : t.IsSolid) : t.isSpace = false :=
  Bool.or_eq_false_iff.2
    ⟨beq_eq_false_iff_ne.2 (h.kind_ne rfl), beq_eq_false_iff_ne.2 (h.kind_ne rfl)⟩

namespace Node

/-- White space and comments in front of a statement are gathered by themselves. -/
lemma gatherAfter_front {lead : List Token} (hlead : ∀ u ∈ lead, u.IsLayout) {t : Token}
    (ht : t.IsSolid) (ts : List Token) {run : List Node} (hrun : ∀ p ∈ run, IsIdle p) :
    ∃ ps, (∀ p ∈ ps, IsIdle p) ∧
      gatherAfter run (lead ++ t :: ts) = ps ++ .leaf t :: gatherAfter [] ts := by
  have hgroup : ∀ {run : List Node}, (∀ p ∈ run, IsIdle p) →
      IsIdle (.group .remark run.reverse) :=
    fun hrun => .remark fun p hp => hrun p (List.mem_reverse.1 hp)
  induction lead generalizing run with
  | nil =>
    have hbreak : (t.kind == .lineBreak) = false := beq_eq_false_iff_ne.2 (ht.kind_ne rfl)
    rw [List.nil_append, gatherAfter, ht.isRemark, hbreak, Bool.false_and, Bool.or_self,
      if_neg Bool.false_ne_true]
    split_ifs
    · exact ⟨[], List.forall_mem_nil _, rfl⟩
    · exact ⟨[.group .remark run.reverse], List.forall_mem_singleton.2 (hgroup hrun), rfl⟩
  | cons u lead ih =>
    obtain ⟨hu, hlead⟩ := List.forall_mem_cons.1 hlead
    obtain ⟨ps, hps, heq⟩ := ih hlead (List.forall_mem_nil _)
    have hfront := List.forall_mem_cons.2 ⟨IsIdle.leaf hu, hps⟩
    rw [List.cons_append, gatherAfter]
    split_ifs
    · exact ih hlead (List.forall_mem_cons.2 ⟨.leaf hu, hrun⟩)
    · exact ⟨.leaf u :: ps, hfront, by rw [heq, List.cons_append]⟩
    · exact ⟨.group .remark run.reverse :: .leaf u :: ps,
        List.forall_mem_cons.2 ⟨hgroup hrun, hfront⟩, by rw [heq, List.cons_append, List.cons_append]⟩

lemma gatherAfter_idle {lead : List Token} (hlead : ∀ u ∈ lead, u.IsLayout) {run : List Node}
    (hrun : ∀ p ∈ run, IsIdle p) : ∀ p ∈ gatherAfter run lead, IsIdle p := by
  induction lead generalizing run with
  | nil => exact fun p hp => hrun p (List.mem_reverse.1 hp)
  | cons u lead ih =>
    obtain ⟨hu, hlead⟩ := List.forall_mem_cons.1 hlead
    have hrest := List.forall_mem_cons.2 ⟨IsIdle.leaf hu, ih hlead (List.forall_mem_nil _)⟩
    rw [gatherAfter]
    split_ifs
    · exact ih hlead (List.forall_mem_cons.2 ⟨.leaf hu, hrun⟩)
    · exact hrest
    · exact List.forall_mem_cons.2 ⟨.remark fun p hp => hrun p (List.mem_reverse.1 hp), hrest⟩

end Node

namespace Statement

lemma strip?_eq_some {s : Statement} {ns : List Node} (h : strip? s = some ns) :
    ns = Node.stripAfter [] (Node.outline (Node.gather s)) := by
  rw [strip?] at h
  dsimp only at h
  split_ifs at h
  exact (Option.some.inj h).symm

/-- What a statement is without its comments goes on the same behind any white space and comments,
and begins with white space only. -/
lemma strip?_front {t : Token} (ht : t.IsSolid) (hupright : t.leans = false) (ts : List Token) :
    ∃ x, ∀ lead : List Token, (∀ u ∈ lead, u.IsLayout) → ∀ ns, strip? (lead ++ t :: ts) = some ns →
      ∃ u, (∀ c ∈ u, isBlank c = true) ∧ Node.textOf ns = u ++ x := by
  obtain ⟨n, ns', hn, hfront⟩ := Node.outline_front (.leaf ht.layout hupright)
    (Node.gatherAfter [] ts)
  obtain ⟨rest, hstrip⟩ := Node.strip_front hn ns'
  refine ⟨Node.textOf rest, fun lead hlead ns hns => ?_⟩
  obtain ⟨ps, hps, hgather⟩ := Node.gatherAfter_front hlead ht ts (List.forall_mem_nil _)
  obtain ⟨ps', hps', houtline⟩ := hfront ps hps
  obtain ⟨ws, hws, htext⟩ := hstrip ps' hps'
  refine ⟨Node.textOf ws, Node.isBlank_of_mem_textOf hws, ?_⟩
  rw [strip?_eq_some hns, Node.gather, hgather, houtline, htext, Node.textOf_append]

/-- The first token that is no white space and no comment is what is left of a statement in front.
-/
lemma strip?_solid {t : Token} (ht : t.IsSolid) {lead ts : List Token}
    (hlead : ∀ u ∈ lead, u.IsLayout) {ns : List Node} (h : strip? (lead ++ t :: ts) = some ns) :
    ∃ u x, (∀ c ∈ u, isBlank c = true) ∧ Node.textOf ns = u ++ t.text ++ x := by
  obtain ⟨ps, hps, hgather⟩ := Node.gatherAfter_front hlead ht ts (List.forall_mem_nil _)
  have hspace : ∀ t : Token, t.isSpace = true → Node.mark true t = Node.mark false t := by
    intro t hspace
    rw [Node.mark, Node.mark, hspace]
    rfl
  have hread : Node.readOf Node.mark false (Node.outline (Node.gather (lead ++ t :: ts)))
      = Node.readOf Node.mark false ps
        ++ (false, t) :: Node.readOf Node.mark false (Node.gatherAfter [] ts) := by
    rw [Node.readOf_outline hspace, Node.gather, hgather, Node.readOf_append]
    rfl
  have hlayout : ∀ x ∈ Node.readOf Node.mark false ps, x.2.IsLayout := by
    intro x hx
    obtain ⟨p, hp, hx⟩ := Node.mem_readOf.1 hx
    exact (hps p hp).isLayout_of_mem_read false x hx
  rw [strip?_eq_some h]
  exact Node.exists_textOf_stripAfter (fun n _ => Node.fronts ht.layout n) hread hlayout
    (List.forall_mem_nil _)

/-- White space and comments alone leave white space only. -/
lemma strip?_layout {lead : List Token} (hlead : ∀ u ∈ lead, u.IsLayout) {ns : List Node}
    (h : strip? lead = some ns) : ∀ c ∈ Node.textOf ns, isBlank c = true := by
  have hidle : ∀ p ∈ Node.outline (Node.gather lead), Node.IsIdle p :=
    Node.outline_idle (Node.gatherAfter_idle hlead (List.forall_mem_nil _))
  rw [strip?_eq_some h]
  exact Node.isBlank_of_mem_textOf (Node.isFaint_of_mem_stripAfter fun p hp => (hidle p hp).fades)

/-! ### Cutting a query into statements -/

/-- Once something else than white space has been read, what stands before it belongs to the same
statement. -/
lemma splitAfter_front {t : Token} (ht : t.isSpace = false) (ts : List Token)
    (behind : List Token) (p : Progress) (ended : Bool) :
    ∃ s ss, ∀ base, splitAfter (behind ++ t :: base) p ended ts
      = (base.reverse ++ t :: s) :: ss := by
  induction ts generalizing behind p ended with
  | nil =>
    refine ⟨behind.reverse, [], fun base => ?_⟩
    have hsolid : (behind ++ t :: base).all (·.isSpace) = false := by
      rw [List.all_append, List.all_cons, ht, Bool.false_and, Bool.and_false]
    rw [splitAfter, hsolid, if_neg Bool.false_ne_true, List.reverse_append, List.reverse_cons,
      List.append_assoc, List.singleton_append]
  | cons u ts ih =>
    cases hopens : ended && !(u.kind == .blank || u.isLineComment) with
    | true =>
      refine ⟨behind.reverse, splitAfter [u] (Progress.step {} u ts).1 (Progress.step {} u ts).2 ts,
        fun base => ?_⟩
      rw [splitAfter]
      simp only [hopens, if_true, List.reverse_append, List.reverse_cons, List.append_assoc,
        List.singleton_append]
    | false =>
      obtain ⟨s, ss, h⟩ := ih (u :: behind) (p.step u ts).1 (ended || (p.step u ts).2)
      refine ⟨s, ss, fun base => ?_⟩
      rw [← h base, splitAfter]
      simp only [hopens, Bool.false_eq_true, if_false, List.cons_append]

lemma step_layout {u : Token} (hu : u.IsLayout) (ts : List Token) :
    Progress.step {} u ts = ({}, false) := by
  obtain ⟨kind, text⟩ := u
  cases hu with
  | space hspace =>
    obtain hkind | hkind := Token.isSpace_iff.1 hspace
    · cases hkind
      rfl
    · cases hkind
      rfl
  | comment hkind =>
    cases hkind
    rfl

/-- White space and comments open no statement of their own. -/
lemma splitAfter_layout {lead : List Token} (hlead : ∀ u ∈ lead, u.IsLayout)
    (current ts : List Token) :
    splitAfter current {} false (lead ++ ts) = splitAfter (lead.reverse ++ current) {} false ts := by
  induction lead generalizing current with
  | nil => rfl
  | cons u lead ih =>
    obtain ⟨hu, hlead⟩ := List.forall_mem_cons.1 hlead
    rw [List.cons_append, splitAfter, List.reverse_cons, List.append_assoc, List.singleton_append,
      ← ih hlead]
    simp only [Bool.false_and, Bool.false_eq_true, if_false, step_layout hu, Bool.or_self]

/-- All white space and comments in front of a query belong to its first statement. -/
lemma exists_split_front {t : Token} (ht : t.isSpace = false) (ts : List Token) :
    ∃ s ss, ∀ lead : List Token, (∀ u ∈ lead, u.IsLayout) →
      split (lead ++ t :: ts) = (lead ++ t :: s) :: ss := by
  obtain ⟨s, ss, h⟩ := splitAfter_front ht ts [] (Progress.step {} t ts).1 (Progress.step {} t ts).2
  refine ⟨s, ss, fun lead hlead => ?_⟩
  have hfront := h lead.reverse
  rw [List.reverse_reverse] at hfront
  rw [split, splitAfter_layout hlead, List.append_nil, ← hfront, splitAfter]
  simp only [Bool.false_and, Bool.false_eq_true, if_false, Bool.false_or, List.nil_append]

/-! ### Trimming lines -/

lemma breakAfter_append (line base t : List Char) :
    ∃ l ls, breakAfter line t = l :: ls ∧ breakAfter (line ++ base) t = (base.reverse ++ l) :: ls := by
  induction line, t using breakAfter.induct with
  | case1 line => exact ⟨_, _, rfl, congrArg (· :: []) List.reverse_append⟩
  | case2 line r => exact ⟨_, _, rfl, congrArg (· :: breakAfter [] r) List.reverse_append⟩
  | case3 line c r hpair hbreak =>
    rw [breakAfter, breakAfter, if_pos hbreak, if_pos hbreak]
    · exact ⟨_, _, rfl, congrArg (· :: breakAfter [] r) List.reverse_append⟩
    · exact hpair
    · exact hpair
  | case4 line c r hpair hplain ih =>
    rw [breakAfter, breakAfter, if_neg hplain, if_neg hplain]
    · exact ih
    · exact hpair
    · exact hpair

lemma breakAfter_cons {c : Char} (hc : (c == '\r' || c == '\n') = false) (t : List Char) :
    ∃ l ls, breakAfter [] t = l :: ls ∧ breakAfter [] (c :: t) = (c :: l) :: ls := by
  obtain ⟨l, ls, hlines, hline⟩ := breakAfter_append [] [c] t
  refine ⟨l, ls, hlines, ?_⟩
  rw [breakAfter, hc, if_neg Bool.false_ne_true]
  · exact hline
  · rintro r rfl
    cases hc

lemma intercalate_cons (c : Char) (l : List Char) (ls : List (List Char)) :
    ['\n'].intercalate ((c :: l) :: ls) = c :: ['\n'].intercalate (l :: ls) := by
  cases ls <;> rfl

lemma trimLines_cons {c : Char} (hc : isBlank c = false) (t : List Char) :
    trimLines (c :: t) = c :: trimLines t := by
  have hplain : (c == '\r' || c == '\n') = false := by
    rw [Bool.or_eq_false_iff, beq_eq_false_iff_ne, beq_eq_false_iff_ne]
    constructor <;> rintro rfl <;> cases hc
  obtain ⟨l, ls, hlines, hline⟩ := breakAfter_cons hplain t
  rw [trimLines, trimLines, hline, hlines, List.map_cons, List.map_cons, trimRight_cons hc,
    intercalate_cons]

lemma trimLines_append {p : List Char} (hp : ∀ c ∈ p, isBlank c = false) (t : List Char) :
    trimLines (p ++ t) = p ++ trimLines t := by
  induction p with
  | nil => rfl
  | cons c p ih =>
    obtain ⟨hc, hp⟩ := List.forall_mem_cons.1 hp
    rw [List.cons_append, trimLines_cons hc, ih hp, List.cons_append]

/-- One character of white space at the front leaves white space at most. -/
lemma exists_trimLines_cons {c : Char} (hc : isBlank c = true) (t : List Char) :
    ∃ v, (∀ d ∈ v, isBlank d = true) ∧ trimLines (c :: t) = v ++ trimLines t := by
  cases hbreak : c == '\r' || c == '\n' with
  | false =>
    obtain ⟨l, ls, hlines, hline⟩ := breakAfter_cons hbreak t
    rw [trimLines, trimLines, hline, hlines, List.map_cons, List.map_cons, trimRight_cons_blank hc]
    split_ifs with hnil
    · exact ⟨[], List.forall_mem_nil _, by rw [hnil, List.nil_append]⟩
    · exact ⟨[c], List.forall_mem_singleton.2 hc, intercalate_cons ..⟩
  | true =>
    -- a line feed behind a carriage return ends the same line
    by_cases hpair : ∃ r, c = '\r' ∧ t = '\n' :: r
    · obtain ⟨r, rfl, rfl⟩ := hpair
      exact ⟨[], List.forall_mem_nil _, rfl⟩
    · obtain ⟨l, ls, hlines, -⟩ := breakAfter_append [] [] t
      have hline : breakAfter [] (c :: t) = [] :: breakAfter [] t := by
        rw [breakAfter, if_pos hbreak]
        · rfl
        · exact fun r hr hn => hpair ⟨r, hr, hn⟩
      refine ⟨['\n'], List.forall_mem_singleton.2 rfl, ?_⟩
      rw [trimLines, trimLines, hline, hlines]
      rfl

/-- White space at the front of a text leaves white space at most when its lines are trimmed. -/
lemma exists_trimLines_append {u : List Char} (hu : ∀ c ∈ u, isBlank c = true) (t : List Char) :
    ∃ v, (∀ c ∈ v, isBlank c = true) ∧ trimLines (u ++ t) = v ++ trimLines t := by
  induction u with
  | nil => exact ⟨[], List.forall_mem_nil _, rfl⟩
  | cons c u ih =>
    obtain ⟨hc, hu⟩ := List.forall_mem_cons.1 hu
    obtain ⟨v, hv, heq⟩ := ih hu
    obtain ⟨w, hw, heq'⟩ := exists_trimLines_cons hc (u ++ t)
    refine ⟨w ++ v, List.forall_mem_append.2 ⟨hw, hv⟩, ?_⟩
    rw [List.cons_append, heq', heq, List.append_assoc]

end Statement

/-! ## Canonical forms -/

/-- White space has no case and is not passed over when a cased neighbour is looked for. -/
lemma meetsCased_append {u : List Char} (hu : ∀ c ∈ u, isBlank c = true) (t : List Char) :
    meetsCased (t ++ u) = meetsCased t := by
  induction t with
  | nil =>
    cases u with
    | nil => rfl
    | cons c u =>
      have hcase : isCaseIgnorable c = false ∧ isCased c = false :=
        forall_blank (P := fun c => isCaseIgnorable c = false ∧ isCased c = false)
          (by decide +kernel) (hu c List.mem_cons_self)
      have hnone : meetsCased (c :: u) = false := by
        rw [meetsCased, hcase.1, if_neg Bool.false_ne_true, hcase.2]
      exact hnone
  | cons c t ih => rw [List.cons_append, meetsCased, meetsCased, ih]

lemma lowerAfter_append {u : List Char} (hu : ∀ c ∈ u, isBlank c = true) (before t : List Char) :
    lowerAfter (before ++ u) t = lowerAfter before t := by
  induction t generalizing before with
  | nil => rfl
  | cons c t ih =>
    rw [lowerAfter, lowerAfter, meetsCased_append hu, ← List.cons_append, ih]

lemma lower_append {u : List Char} (hu : ∀ c ∈ u, isBlank c = true) (t : List Char) :
    lower (u ++ t) = u ++ lower t := by
  have hafter : ∀ before, lowerAfter before (u ++ t) = u ++ lowerAfter (u.reverse ++ before) t := by
    induction u with
    | nil => exact fun _ => rfl
    | cons c u ih =>
      intro before
      obtain ⟨hc, hu⟩ := List.forall_mem_cons.1 hu
      have hsmall := isSmall_of_isBlank hc
      rw [List.cons_append, lowerAfter, if_neg hsmall.ne_dotted, if_neg hsmall.ne_sigma,
        hsmall.lowerChar, ih hu, List.reverse_cons, List.append_assoc, List.singleton_append,
        List.cons_append]
  have hblank : ∀ c ∈ u.reverse, isBlank c = true := fun c hc => hu c (List.mem_reverse.1 hc)
  rw [lower, hafter, List.append_nil, lower]
  exact congrArg (u ++ ·) (lowerAfter_append hblank [] t)

lemma scan_append {u : List Char} (hu : ∀ c ∈ u, isBlank c = true) (t : List Char) :
    Lexeme.scan (u ++ t) = Lexeme.scan t := by
  induction u with
  | nil => rfl
  | cons c u ih =>
    obtain ⟨hc, hu⟩ := List.forall_mem_cons.1 hu
    rw [List.cons_append,
      Lexeme.scan_cons (operator?_eq_none_of_isTrailer (isTrailer_of_isBlank hc) _), if_pos hc, ih hu]

/-- White space in front of a text is no part of its canonical form. -/
lemma canonical_append {u : List Char} (hu : ∀ c ∈ u, isBlank c = true) (t : List Char) :
    canonical (u ++ t) = canonical t := by
  rw [canonical_eq_render, canonical_eq_render, lexemes, lexemes, lower_append hu,
    dropTrailing_append]
  split_ifs with hnil
  · rw [hnil, dropTrailing_eq_nil_iff.2 fun c hc => isTrailer_of_isBlank (hu c hc)]
  · rw [scan_append hu]

/-! ## Comment lines -/

/-- The comments can be taken out: no statement is too large or nests too deep. -/
def Strippable (raw : List Char) : Prop :=
  ((Statement.split (Token.scan raw)).mapM Statement.strip?).isSome = true

lemma Strippable.exists_withoutComments {raw : List Char} (h : Strippable raw) {s : Statement}
    {ss : List Statement} (hsplit : Statement.split (Token.scan raw) = s :: ss) :
    ∃ ns nss, Statement.strip? s = some ns ∧ ss.mapM Statement.strip? = some nss ∧
      withoutComments raw = Statement.trimLines (Node.textOf ns)
        ++ nss.flatMap fun ns => Statement.trimLines (Node.textOf ns) := by
  obtain ⟨all, hall⟩ := Option.isSome_iff_exists.1 h
  rw [withoutComments, hall]
  rw [hsplit, List.mapM_cons] at hall
  cases hns : Statement.strip? s with
  | none =>
    rw [hns] at hall
    cases hall
  | some ns =>
    cases hnss : ss.mapM Statement.strip? with
    | none =>
      rw [hns, hnss] at hall
      cases hall
    | some nss =>
      rw [hns, hnss] at hall
      cases hall
      exact ⟨ns, nss, rfl, rfl, rfl⟩

/-- White space and comments alone leave white space only. -/
lemma Strippable.isBlank_withoutComments {raw : List Char} (h : Strippable raw)
    (hlayout : ∀ u ∈ Token.scan raw, u.IsLayout) : ∀ c ∈ withoutComments raw, isBlank c = true := by
  have hsplit : Statement.split (Token.scan raw)
      = if (Token.scan raw).reverse.all (·.isSpace) then [] else [Token.scan raw] := by
    have hread := Statement.splitAfter_layout hlayout [] []
    rw [List.append_nil, List.append_nil, Statement.splitAfter, List.reverse_reverse] at hread
    exact hread
  split_ifs at hsplit
  · rw [withoutComments, hsplit]
    exact List.forall_mem_nil _
  · obtain ⟨ns, nss, hns, hnss, htext⟩ := h.exists_withoutComments hsplit
    have hblank := Statement.strip?_layout hlayout hns
    obtain ⟨v, hv, htrim⟩ := Statement.exists_trimLines_append hblank []
    cases hnss
    rw [List.append_nil] at htrim
    rw [htext, htrim]
    exact List.forall_mem_append.2
      ⟨List.forall_mem_append.2 ⟨hv, List.forall_mem_nil _⟩, List.forall_mem_nil _⟩

/-- The tokens of a text are white space and comments up to the first other token, if there is
one. -/
lemma exists_lead (raw : List Char) : ∃ lead rest : List Token, Token.scan raw = lead ++ rest ∧
    (∀ u ∈ lead, u.IsLayout) ∧ ∀ t ∈ rest.head?, t.kind.isLayout = false ∧
      (Token.scan raw).find? (fun t => !t.kind.isLayout) = some t := by
  refine ⟨(Token.scan raw).takeWhile (·.kind.isLayout), (Token.scan raw).dropWhile (·.kind.isLayout),
    List.takeWhile_append_dropWhile.symm, fun u hu => ?_, fun t ht => ?_⟩
  · have hkind : u.kind.isLayout = true := List.mem_takeWhile_imp (p := fun u : Token => u.kind.isLayout) hu
    exact Token.isLayout_of_mem_scan ((List.takeWhile_prefix _).subset hu) hkind
  · have hfind := (List.find?_not_eq_head?_dropWhile ..).trans ht
    exact ⟨by simpa using List.find?_some hfind, hfind⟩

/-- A query opens no statement if its first token keeps it from it. -/
lemma Strippable.not_opensStatement {raw : List Char} (h : Strippable raw) {lead s : List Token}
    {ss : List Statement} {t : Token} (hlead : ∀ u ∈ lead, u.IsLayout) (ht : t.IsSolid)
    (hsplit : Statement.split (Token.scan raw) = (lead ++ t :: s) :: ss) {p y : List Char}
    (hp : t.text = p ++ y) (hbars : Bars p) : opensStatement (prepared raw) = false := by
  obtain ⟨ns, nss, hns, -, htext⟩ := h.exists_withoutComments hsplit
  obtain ⟨u, x, hu, hx⟩ := Statement.strip?_solid ht hlead hns
  obtain ⟨v, hv, htrim⟩ := Statement.exists_trimLines_append hu (p ++ (y ++ x))
  have hfront : Node.textOf ns = u ++ (p ++ (y ++ x)) := by
    rw [hx, hp, List.append_assoc, List.append_assoc]
  rw [prepared, htext, hfront, htrim, Statement.trimLines_append hbars.solid, List.append_assoc,
    canonical_append hv, List.append_assoc]
  exact hbars.bars _

/-- A comment line in front of a query is no part of its canonical form, unless the query opens no
statement anyway. -/
theorem prepared_remark {c : List Char} (hc : ∀ d ∈ c, d ≠ '\r' ∧ d ≠ '\n') {q : List Char}
    (hopen : ∀ t ∈ (Token.scan q).find? fun t => !t.kind.isLayout,
      t.kind ≠ .hint ∧ t.isOddShift = false)
    (hq : Strippable q) (hremark : Strippable (Token.remark c ++ q)) :
    prepared (Token.remark c ++ q) = prepared q ∨
      opensStatement (prepared (Token.remark c ++ q)) = false ∧
        opensStatement (prepared q) = false := by
  obtain ⟨lead, rest, hscan, hlead, hrest⟩ := exists_lead q
  have hcomment : (⟨.comment, Token.remark c⟩ : Token).IsLayout :=
    .comment rfl ⟨'-', rfl, List.mem_cons_self⟩
  have hlead' := List.forall_mem_cons.2 ⟨hcomment, hlead⟩
  cases rest with
  | nil =>
    rw [List.append_nil] at hscan
    have hblank := hq.isBlank_withoutComments (hscan ▸ hlead)
    have hblank' := hremark.isBlank_withoutComments (by rw [Token.scan_remark hc, hscan]; exact hlead')
    left
    rw [prepared, prepared, ← List.append_nil (withoutComments q), canonical_append hblank,
      ← List.append_nil (withoutComments (Token.remark c ++ q)), canonical_append hblank']
  | cons t ts =>
    obtain ⟨hlayout, hfind⟩ := hrest t rfl
    obtain ⟨hhint, hshift⟩ := hopen t hfind
    have ht : t.IsSolid := ⟨hlayout, hhint⟩
    obtain ⟨s, ss, hsplit⟩ := Statement.exists_split_front ht.isSpace ts
    have hsplit₁ : Statement.split (Token.scan q) = (lead ++ t :: s) :: ss := by
      rw [hscan, hsplit lead hlead]
    have hsplit₂ : Statement.split (Token.scan (Token.remark c ++ q))
        = (⟨.comment, Token.remark c⟩ :: lead ++ t :: s) :: ss := by
      rw [Token.scan_remark hc, hscan, ← hsplit _ hlead', List.cons_append]
    cases hleans : t.leans with
    | false =>
      left
      obtain ⟨ns, nss, hns, hnss, htext⟩ := hq.exists_withoutComments hsplit₁
      obtain ⟨ns', nss', hns', hnss', htext'⟩ := hremark.exists_withoutComments hsplit₂
      obtain ⟨x, hstrip⟩ := Statement.strip?_front ht hleans s
      obtain ⟨u, hu, hx⟩ := hstrip lead hlead ns hns
      obtain ⟨u', hu', hx'⟩ := hstrip _ hlead' ns' hns'
      obtain ⟨v, hv, htrim⟩ := Statement.exists_trimLines_append hu x
      obtain ⟨v', hv', htrim'⟩ := Statement.exists_trimLines_append hu' x
      obtain rfl := Option.some.inj (hnss.symm.trans hnss')
      rw [prepared, prepared, htext, htext', hx, hx', htrim, htrim', List.append_assoc,
        List.append_assoc, canonical_append hv, canonical_append hv']
    | true =>
      right
      have hmem : t ∈ Token.scan q := by
        rw [hscan]
        exact List.mem_append_right _ List.mem_cons_self
      obtain ⟨p, y, hp, hbars⟩ :=
        exists_bars_of_leans (Token.shape_of_mem_scanUpTo hmem) hleans hshift
      exact ⟨hremark.not_opensStatement hlead' ht hsplit₂ hp hbars,
        hq.not_opensStatement hlead ht hsplit₁ hp hbars⟩

end QueryTutor.Query
