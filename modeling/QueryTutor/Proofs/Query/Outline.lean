import QueryTutor.Proofs.Query.Token
import QueryTutor.Query.Outline.Build

/-!
# The front of an outline

White space and comments at the front of a statement stay where they are while its outline is made,
and do not change the outline of the rest, as long as the first node behind them is not of the few
sorts that are joined on to whatever stands before them.
-/

namespace QueryTutor.Query

/-- The token can be joined on to a comment that stands before it. -/
def Token.leans (t : Token) : Bool :=
  [.cast, .zoneShift, .typeName, .assignment].contains t.kind || t.isOneOf ["AS", "TIMESTAMP"]

namespace Node

/-- Nothing but white space and comments that are no hints. -/
inductive IsIdle : Node → Prop where
  | leaf {t : Token} (h : t.IsLayout) : IsIdle (.leaf t)
  | remark {ns : List Node} (h : ∀ n ∈ ns, IsIdle n) : IsIdle (.group .remark ns)

/-- A node that is no white space and no comment, and is not joined on to a comment before it. -/
inductive IsLeader : Node → Prop where
  | leaf {t : Token} (solid : t.kind.isLayout = false) (upright : t.leans = false) :
      IsLeader (.leaf t)
  | group {g : Group} {ns : List Node} (solid : g ≠ .remark) (upright : g ≠ .typedLiteral) :
      IsLeader (.group g ns)

end Node

lemma Token.isSpace_iff {t : Token} :
    t.isSpace = true ↔ t.kind = .blank ∨ t.kind = .lineBreak := by
  rw [Token.isSpace, Bool.or_eq_true, beq_iff_eq, beq_iff_eq]

lemma Token.IsLayout.isLayout {t : Token} (h : t.IsLayout) : t.kind.isLayout = true := by
  cases h with
  | space hspace => obtain hkind | hkind := Token.isSpace_iff.1 hspace <;> rw [hkind] <;> rfl
  | comment hkind => rw [hkind]; rfl

namespace Node

section Shape

variable {n : Node} {ns : List Node}

/-- White space and comments are of no kind beside their own. -/
lemma IsIdle.isLeafOf (h : IsIdle n) {ks : List Token.Kind} (hks : ks.any (·.isLayout) = false) :
    n.isLeafOf ks = false := by
  cases h with
  | remark => rfl
  | leaf ht =>
    rw [List.any_eq_false] at hks
    refine Bool.eq_false_iff.2 fun hmem => hks _ (List.contains_iff_mem.1 hmem) ht.isLayout

lemma IsIdle.isWordOf (h : IsIdle n) (words : List String) : n.isWordOf words = false := by
  cases h with
  | remark => rfl
  | @leaf t ht =>
    refine Bool.eq_false_iff.2 fun hword => ?_
    have hkind : t.kind = .keyword := beq_iff_eq.1 (Bool.and_eq_true_iff.1 hword).1
    have hlayout := ht.isLayout
    rw [hkind] at hlayout
    cases hlayout

lemma IsIdle.isGroupOf (h : IsIdle n) {gs : List Group} (hgs : gs.contains .remark = false) :
    n.isGroupOf gs = false := by
  cases h with
  | remark => exact hgs
  | leaf => rfl

lemma IsLeader.isSpace (h : IsLeader n) : n.isSpace = false := by
  cases h with
  | group => rfl
  | @leaf t solid =>
    refine Bool.eq_false_iff.2 fun hspace => ?_
    obtain hkind | hkind := Token.isSpace_iff.1 hspace <;> rw [hkind] at solid <;> cases solid

end Shape

/-- A pass leaves white space and comments at the front of a list as they are, and makes of the rest
what it makes of it alone. -/
structure Skips (pass : List Node → List Node) : Prop where
  idle : ∀ {ps : List Node}, (∀ p ∈ ps, IsIdle p) → pass ps = ps
  front : ∀ {n : Node} (ns : List Node), IsLeader n → ∃ n' ns', IsLeader n' ∧
    ∀ {ps : List Node}, (∀ p ∈ ps, IsIdle p) → pass (ps ++ n :: ns) = ps ++ n' :: ns'

lemma Skips.comp {f g : List Node → List Node} (hf : Skips f) (hg : Skips g) :
    Skips fun ns => g (f ns) where
  idle hps := by rw [hf.idle hps, hg.idle hps]
  front ns hn := by
    obtain ⟨n₁, ns₁, hn₁, h₁⟩ := hf.front ns hn
    obtain ⟨n₂, ns₂, hn₂, h₂⟩ := hg.front ns₁ hn₁
    exact ⟨n₂, ns₂, hn₂, fun hps => by rw [h₁ hps, h₂ hps]⟩

lemma Skips.foldl {α : Type} {pass : α → List Node → List Node} {as : List α}
    (h : ∀ a ∈ as, Skips (pass a)) : Skips fun ns => as.foldl (fun ns a => pass a ns) ns := by
  induction as with
  | nil => exact ⟨fun _ => rfl, fun ns hn => ⟨_, ns, hn, fun _ => rfl⟩⟩
  | cons a as ih =>
    obtain ⟨ha, has⟩ := List.forall_mem_cons.1 h
    exact ha.comp (ih has)

lemma rebuildAll_eq_map (closed : Group → Bool) (f : Option Group → List Node → List Node)
    (ns : List Node) : rebuildAll closed f ns = ns.map (rebuild closed f) := by
  induction ns with
  | nil => rfl
  | cons n ns ih => rw [rebuildAll, ih, List.map_cons]

lemma IsIdle.rebuild {closed : Group → Bool} {f : Option Group → List Node → List Node}
    (hf : closed .remark = true ∨ Skips (f (some .remark))) {n : Node} (h : IsIdle n) :
    n.rebuild closed f = n := by
  induction h with
  | leaf => rfl
  | @remark ns hns ih =>
    rw [Node.rebuild]
    split_ifs with hclosed
    · rfl
    · have hinner : rebuildAll closed f ns = ns := by
        rw [rebuildAll_eq_map, List.map_congr_left ih, List.map_id']
      rw [hinner, (hf.resolve_left hclosed).idle hns]

lemma IsLeader.rebuild (closed : Group → Bool) (f : Option Group → List Node → List Node)
    {n : Node} (h : IsLeader n) : IsLeader (n.rebuild closed f) := by
  cases h with
  | leaf solid upright => exact .leaf solid upright
  | group solid upright =>
    rw [Node.rebuild]
    split_ifs <;> exact .group solid upright

/-- A pass that skips the front of one list does so when it is done everywhere. -/
lemma Skips.everywhere {closed : Group → Bool} {f : Option Group → List Node → List Node}
    (hf : Skips (f none)) (hremark : closed .remark = true ∨ Skips (f (some .remark))) :
    Skips (everywhere closed f) := by
  have inner : ∀ {ps : List Node}, (∀ p ∈ ps, IsIdle p) → ps.map (Node.rebuild closed f) = ps := by
    intro ps hps
    rw [List.map_congr_left fun p hp => (hps p hp).rebuild hremark, List.map_id']
  constructor
  case idle =>
    intro ps hps
    rw [Node.everywhere, rebuildAll_eq_map, inner hps, hf.idle hps]
  case front =>
    intro n ns hn
    obtain ⟨n', ns', hn', h⟩ := hf.front (ns.map (Node.rebuild closed f)) (hn.rebuild closed f)
    refine ⟨n', ns', hn', fun hps => ?_⟩
    rw [Node.everywhere, rebuildAll_eq_map, List.map_append, inner hps, List.map_cons, h hps]

/-- The last of some nodes, which come last first, leads the list that they end in. -/
def Led (done : List Node) : Prop :=
  ∃ n ∈ done.getLast?, IsLeader n

lemma led_singleton {n : Node} (h : IsLeader n) : Led [n] :=
  ⟨n, rfl, h⟩

lemma led_append (us : List Node) {vs : List Node} (hne : vs ≠ []) : Led (us ++ vs) ↔ Led vs := by
  obtain ⟨n, hn⟩ := Option.isSome_iff_exists.1 (List.getLast?_isSome.2 hne)
  rw [Led, Led, List.getLast?_append, hn]
  rfl

lemma Led.cons {done : List Node} (h : Led done) (n : Node) : Led (n :: done) := by
  have hne : done ≠ [] := by
    rintro rfl
    obtain ⟨m, hm, -⟩ := h
    cases hm
  exact (led_append [n] hne).2 h

/-- Another leader in place of the node read last. -/
lemma Led.replace {m : Node} {done : List Node} (h : Led (m :: done)) {n : Node}
    (hn : IsLeader n) : Led (n :: done) := by
  by_cases hne : done = []
  · rw [hne]
    exact led_singleton hn
  · exact ((led_append [m] hne).1 h).cons n

/-- A leader stays one when more is put into its group. -/
lemma Led.regroup {g : Group} {ns : List Node} {done : List Node} (h : Led (.group g ns :: done))
    (more : List Node) : Led (.group g more :: done) := by
  by_cases hne : done = []
  · obtain ⟨n, hn, hlead⟩ := h
    rw [hne] at hn
    cases hn
    cases hlead with
    | group solid upright =>
      rw [hne]
      exact led_singleton (.group solid upright)
  · exact ((led_append [_] hne).1 h).cons _

lemma Led.exists_reverse {done : List Node} (h : Led done) :
    ∃ n ns, IsLeader n ∧ done.reverse = n :: ns := by
  obtain ⟨n, hn, hlead⟩ := h
  obtain ⟨us, rfl⟩ := List.getLast?_eq_some_iff.1 hn
  exact ⟨n, us.reverse, hlead, by simp⟩

/-- A node that is no white space has a last one. -/
lemma exists_solid {done : List Node} (h : ∃ n ∈ done, n.isSpace = false) :
    ∃ blanks first rest, done = blanks ++ first :: rest ∧ (∀ b ∈ blanks, b.isSpace = true)
      ∧ first.isSpace = false := by
  induction done with
  | nil => exact absurd h nofun
  | cons m done ih =>
    cases hm : m.isSpace with
    | false => exact ⟨[], m, done, rfl, nofun, hm⟩
    | true =>
      obtain ⟨n, hn, hsolid⟩ := h
      have hn : n ∈ done := by
        refine (List.mem_cons.1 hn).resolve_left ?_
        rintro rfl
        exact Bool.false_ne_true (hsolid.symm.trans hm)
      obtain ⟨blanks, first, rest, rfl, hblanks, hfirst⟩ := ih ⟨n, hn, hsolid⟩
      exact ⟨m :: blanks, first, rest, rfl, List.forall_mem_cons.2 ⟨hm, hblanks⟩, hfirst⟩

lemma takeWhile_isSpace {blanks rest : List Node} {first : Node}
    (hblanks : ∀ b ∈ blanks, b.isSpace = true) (hfirst : first.isSpace = false) :
    (blanks ++ first :: rest).takeWhile isSpace = blanks := by
  rw [List.takeWhile_append_of_pos hblanks, List.takeWhile_cons, hfirst, if_neg Bool.false_ne_true,
    List.append_nil]

lemma Led.exists_solid {done : List Node} (h : Led done) :
    ∃ blanks first rest, done = blanks ++ first :: rest ∧ (∀ b ∈ blanks, b.isSpace = true)
      ∧ first.isSpace = false := by
  obtain ⟨n, hn, hlead⟩ := h
  exact Node.exists_solid ⟨n, List.mem_of_mem_getLast? hn, hlead.isSpace⟩

section Pairs

variable {pair : Pair}

/-- What was read before everything that is still open stays in front. -/
lemma pairAfter_frame (base ns : List Node) (current : List Node) :
    pairAfter pair (current ++ base) [] ns = base.reverse ++ pairAfter pair current [] ns ∧
      ∀ outer bottom, pairAfter pair current (outer ++ [bottom ++ base]) ns
        = base.reverse ++ pairAfter pair current (outer ++ [bottom]) ns := by
  induction ns generalizing current with
  | nil =>
    constructor
    · exact List.reverse_append
    · intro outer bottom
      simp [pairAfter]
  | cons n ns ih =>
    simp only [pairAfter]
    split_ifs
    · exact ⟨(ih [n]).2 [] current, fun outer => (ih [n]).2 (current :: outer)⟩
    · refine ⟨(ih (n :: current)).1, fun outer bottom => ?_⟩
      cases outer with
      | nil => exact (ih (_ :: bottom)).1
      | cons around outer => exact (ih (_ :: around)).2 outer bottom
    · exact ⟨(ih (n :: current)).1, (ih (n :: current)).2⟩

lemma foldl_append_flatten (outer : List (List Node)) (current : List Node) :
    outer.foldl (fun inner around => inner ++ around) current = current ++ outer.flatten := by
  induction outer generalizing current with
  | nil => exact (List.append_nil current).symm
  | cons around outer ih => rw [List.foldl_cons, ih, List.flatten_cons, List.append_assoc]

lemma led_pairAfter (hsort : pair.sort ≠ .remark) (hsort' : pair.sort ≠ .typedLiteral)
    (ns : List Node) {current : List Node} {outer : List (List Node)}
    (h : Led (current ++ outer.flatten)) :
    ∃ n ns', IsLeader n ∧ pairAfter pair current outer ns = n :: ns' := by
  induction ns generalizing current outer with
  | nil =>
    rw [pairAfter, foldl_append_flatten]
    exact h.exists_reverse
  | cons n ns ih =>
    simp only [pairAfter]
    split_ifs
    · exact ih (h.cons n)
    · cases outer with
      | nil => exact ih (h.cons n)
      | cons around outer =>
        have hgroup : IsLeader (.group pair.sort (n :: current).reverse) := .group hsort hsort'
        apply ih
        by_cases hne : around ++ outer.flatten = []
        · rw [List.cons_append, hne]
          exact led_singleton hgroup
        · rw [List.flatten_cons] at h
          exact ((led_append _ hne).1 h).cons _
    · exact ih (h.cons n)

lemma pairAfter_idle {ps : List Node} (hps : ∀ p ∈ ps, IsIdle p)
    (hpair : ∀ p, IsIdle p → pair.isOpening p = false ∧ pair.isClosing p = false)
    (current ns : List Node) :
    pairAfter pair current [] (ps ++ ns) = pairAfter pair (ps.reverse ++ current) [] ns := by
  induction ps generalizing current with
  | nil => rfl
  | cons p ps ih =>
    obtain ⟨hp, hps⟩ := List.forall_mem_cons.1 hps
    obtain ⟨hopening, hclosing⟩ := hpair p hp
    simp only [List.cons_append, pairAfter, hopening, hclosing, Bool.false_eq_true, if_false]
    rw [ih hps, List.reverse_cons, List.append_assoc, List.singleton_append]

lemma skips_pairAfter (hpair : ∀ p, IsIdle p → pair.isOpening p = false ∧ pair.isClosing p = false)
    (hsort : pair.sort ≠ .remark) (hsort' : pair.sort ≠ .typedLiteral) :
    Skips (pairAfter pair [] []) := by
  have skip : ∀ {ps : List Node}, (∀ p ∈ ps, IsIdle p) → ∀ ns,
      pairAfter pair [] [] (ps ++ ns) = ps ++ pairAfter pair [] [] ns := by
    intro ps hps ns
    rw [pairAfter_idle hps hpair, List.append_nil]
    exact ((pairAfter_frame ps.reverse ns []).1).trans (by rw [List.reverse_reverse])
  constructor
  case idle =>
    intro ps hps
    have h := skip hps []
    rwa [List.append_nil, pairAfter, List.foldl_nil, List.reverse_nil, List.append_nil] at h
  case front =>
    intro n ns hn
    obtain ⟨n', ns', hn', h⟩ : ∃ n' ns', IsLeader n' ∧ pairAfter pair [] [] (n :: ns) = n' :: ns' := by
      simp only [pairAfter]
      split_ifs
      · exact led_pairAfter hsort hsort' ns (led_singleton hn)
      · exact led_pairAfter hsort hsort' ns (led_singleton hn)
      · exact led_pairAfter hsort hsort' ns (led_singleton hn)
    exact ⟨n', ns', hn', fun hps => by rw [skip hps, h]⟩

/-- Making pairs skips the front of a list. -/
lemma skips_pairUp (hpair : ∀ p, IsIdle p → pair.isOpening p = false ∧ pair.isClosing p = false)
    (hsort : pair.sort ≠ .remark) (hsort' : pair.sort ≠ .typedLiteral) : Skips (pairUp pair) := by
  have h := skips_pairAfter hpair hsort hsort'
  exact h.everywhere (.inr h)

end Pairs

/-- Brackets, parentheses and blocks are made of what stands behind the front. -/
lemma skips_pairAll : Skips pairAll := by
  have brackets : Skips (pairUp bracketPair) :=
    skips_pairUp (fun p hp => ⟨hp.isLeafOf rfl, hp.isLeafOf rfl⟩) nofun nofun
  have parentheses : Skips (pairUp parenthesisPair) :=
    skips_pairUp (fun p hp => ⟨hp.isLeafOf rfl, hp.isLeafOf rfl⟩) nofun nofun
  have words : ∀ pair ∈ wordPairs, Skips (pairUp pair) := by
    intro pair hpair
    simp only [wordPairs, List.mem_cons, List.not_mem_nil, or_false] at hpair
    obtain rfl | rfl | rfl | rfl := hpair <;>
      exact skips_pairUp (fun p hp => ⟨hp.isWordOf _, hp.isWordOf _⟩) nofun nofun
  exact (brackets.comp parentheses).comp (.foldl words)

/-- A pass from right to left that keeps white space and comments, and leaders in front of what they
come to lead, skips the front. -/
lemma Skips.foldr {step : Node → List Node → List Node}
    (idle : ∀ p rest, IsIdle p → step p rest = p :: rest)
    (leader : ∀ n rest, IsLeader n → ∃ n' rest', IsLeader n' ∧ step n rest = n' :: rest') :
    Skips fun ns => ns.foldr step [] where
  idle {ps} hps := by
    induction ps with
    | nil => rfl
    | cons p ps ih =>
      obtain ⟨hp, hps⟩ := List.forall_mem_cons.1 hps
      exact (idle p _ hp).trans (congrArg (p :: ·) (ih hps))
  front {n} ns hn := by
    obtain ⟨n', ns', hn', h⟩ := leader n (ns.foldr step []) hn
    refine ⟨n', ns', hn', fun {ps} hps => ?_⟩
    induction ps with
    | nil => exact h
    | cons p ps ih =>
      obtain ⟨hp, hps⟩ := List.forall_mem_cons.1 hps
      exact (idle p _ hp).trans (congrArg (p :: ·) (ih hps))

end Node

end QueryTutor.Query
