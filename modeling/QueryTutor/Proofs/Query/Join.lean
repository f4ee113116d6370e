import QueryTutor.Proofs.Query.Phrase

/-!
# Joins at the front of an outline

Signs and words join the nodes around them.  A join looks back no further than the last node that is
no white space, so what stands before a node that has been read stays as it is.
-/

namespace QueryTutor.Query.Node

section Reading

variable {j : Join}

/-- What the next node may be joined on to has been read. -/
def Join.Ready (j : Join) (done : List Node) (last : Option Node) (owed : Nat) : Prop :=
  (last.isSome = true ∧ j.takesBefore = true) ∨ 0 < owed → ∃ n ∈ done, n.isSpace = false

lemma Join.exists_extend (j : Join) (first : Node) (more : List Node) :
    ∃ ns, j.extend first more = .group j.sort ns := by
  rw [Join.extend]
  split_ifs
  · exact exists_adopt j.sort first more
  · exact ⟨first :: more, rfl⟩

lemma Join.close_append (j : Join) (skipped : List Node) (first : Node) (rest behind : List Node) :
    j.close skipped.length (skipped ++ first :: rest) behind
      = j.extend first (skipped.reverse ++ behind) :: rest := by
  rw [Join.close, List.drop_left, List.take_left]

/-- The nodes that a join takes in from before it do not depend on what was read before them. -/
lemma Join.Ready.exists_close {done : List Node} {last : Option Node} {owed : Nat}
    (h : j.Ready done last owed) (hlast : last.isSome = true) (n : Node) :
    ∃ skipped first rest, (if owed = 1 then done else n :: done) = skipped ++ first :: rest ∧
      ∀ base behind, j.close
          (if owed = 1 || !j.takesBefore then 0
            else ((done ++ base).takeWhile isSpace).length + 1)
          (if owed = 1 then done ++ base else n :: (done ++ base)) behind
        = j.extend first (skipped.reverse ++ behind) :: (rest ++ base) := by
  by_cases howed : owed = 1
  · obtain ⟨m, hm, -⟩ := h (.inr (by omega))
    obtain ⟨first, rest, rfl⟩ := List.exists_cons_of_ne_nil (List.ne_nil_of_mem hm)
    refine ⟨[], first, rest, if_pos howed, fun base behind => ?_⟩
    rw [if_pos howed, decide_eq_true howed, Bool.true_or, if_pos rfl]
    rfl
  · rw [if_neg howed, decide_eq_false howed, Bool.false_or]
    cases htakes : j.takesBefore with
    | false =>
      refine ⟨[], n, done, rfl, fun base behind => ?_⟩
      rw [if_neg howed]
      rfl
    | true =>
      obtain ⟨blanks, first, rest, rfl, hblanks, hfirst⟩ := exists_solid (h (.inl ⟨hlast, htakes⟩))
      refine ⟨n :: blanks, first, rest, rfl, fun base behind => ?_⟩
      rw [if_neg howed, List.append_assoc, List.cons_append, takeWhile_isSpace hblanks hfirst]
      exact j.close_append (n :: blanks) first (rest ++ base) behind

/-- What becomes of the nodes read so far, and of those owed, when one more node is read. -/
inductive Join.Step (j : Join) (done : List Node) (owed : Nat) (n : Node) (rest : List Node) :
    List Node → Nat → Prop where
  | pass (h : 1 < owed) : Step j done owed n rest done (owed - 1)
  | keep (h : owed ≤ 1) : Step j done owed n rest (if owed = 1 then done else n :: done) 0
  | join {skipped before : List Node} {first : Node} (h : owed ≤ 1)
      (here : (if owed = 1 then done else n :: done) = skipped ++ first :: before) :
      Step j done owed n rest
        (j.extend first (skipped.reverse ++ rest.take (j.reach rest)) :: before) (j.reach rest)

/-- Reading one node, which does the same whatever else stands before the nodes read so far. -/
lemma Join.Ready.exists_step {done : List Node} {last : Option Node} {owed : Nat}
    (h : j.Ready done last owed) (n : Node) (rest : List Node) :
    ∃ done' last' owed', j.Step done owed n rest done' owed' ∧ j.Ready done' last' owed' ∧
      ∀ base, j.joinAfter (done ++ base) last owed (n :: rest)
        = j.joinAfter (done' ++ base) last' owed' rest := by
  by_cases howed : owed > 1
  · refine ⟨done, last, owed - 1, .pass howed, fun hneeds => ?_, fun base => ?_⟩
    · exact h (hneeds.imp_right fun _ => by omega)
    · rw [joinAfter, if_pos howed]
  have hle : owed ≤ 1 := Nat.le_of_not_lt howed
  have here_append : ∀ base : List Node, (if owed = 1 then done ++ base else n :: (done ++ base))
      = (if owed = 1 then done else n :: done) ++ base := by
    intro base
    split_ifs <;> rfl
  cases hspace : n.isSpace with
  | true =>
    refine ⟨_, last, 0, .keep hle, fun hneeds => ?_, fun base => ?_⟩
    · obtain ⟨m, hm, hsolid⟩ := h (.inl (hneeds.resolve_right (Nat.lt_irrefl 0)))
      refine ⟨m, ?_, hsolid⟩
      split_ifs
      · exact hm
      · exact List.mem_cons_of_mem n hm
    · rw [joinAfter, if_neg howed]
      dsimp only
      rw [if_pos hspace, here_append]
  | false =>
    cases hjoins : j.joins n && last.any j.fitsBefore && j.fitsBehind ((nextSolid? rest).map (·.1))
      with
    | true =>
      have hlast : last.isSome = true := by
        rw [Bool.and_eq_true, Bool.and_eq_true] at hjoins
        obtain ⟨m, rfl, -⟩ := (Option.any_eq_true ..).1 hjoins.1.2
        rfl
      obtain ⟨skipped, first, before, here, hclose⟩ := h.exists_close hlast n
      let made := j.extend first (skipped.reverse ++ rest.take (j.reach rest))
      refine ⟨made :: before, some made, j.reach rest, .join hle here, fun _ => ?_, fun base => ?_⟩
      · obtain ⟨inside, hgroup⟩ := j.exists_extend first (skipped.reverse ++ rest.take (j.reach rest))
        exact ⟨made, List.mem_cons_self, by rw [show made = .group j.sort inside from hgroup]; rfl⟩
      · rw [joinAfter, if_neg howed]
        dsimp only
        rw [hspace, if_neg Bool.false_ne_true, if_pos hjoins]
        rw [hclose base (rest.take (j.reach rest))]
        rfl
    | false =>
      refine ⟨_, some n, 0, .keep hle, fun _ => ?_, fun base => ?_⟩
      · split_ifs with hone
        · exact h (.inr (by omega))
        · exact ⟨n, List.mem_cons_self, hspace⟩
      · rw [joinAfter, if_neg howed]
        dsimp only
        rw [hspace, hjoins, if_neg Bool.false_ne_true, if_neg Bool.false_ne_true, here_append]

/-- What stands before the nodes that a join can still reach stays in front. -/
lemma Join.Ready.frame {done : List Node} {last : Option Node} {owed : Nat}
    (h : j.Ready done last owed) (base ns : List Node) :
    j.joinAfter (done ++ base) last owed ns = base.reverse ++ j.joinAfter done last owed ns := by
  induction ns generalizing done last owed with
  | nil => exact List.reverse_append
  | cons n ns ih =>
    obtain ⟨done', last', owed', -, h', heq⟩ := h.exists_step n ns
    have heq' := heq []
    rw [List.append_nil, List.append_nil] at heq'
    rw [heq, heq', ih h']

/-- A leader in front stays in front, whatever is joined on to it. -/
lemma Join.Ready.led {done : List Node} {last : Option Node} {owed : Nat}
    (h : j.Ready done last owed) (hsort : j.sort ≠ .remark) (hsort' : j.sort ≠ .typedLiteral)
    (hled : Led done) (ns : List Node) :
    ∃ n ns', IsLeader n ∧ j.joinAfter done last owed ns = n :: ns' := by
  induction ns generalizing done last owed with
  | nil => exact hled.exists_reverse
  | cons n ns ih =>
    obtain ⟨done', last', owed', hstep, h', heq⟩ := h.exists_step n ns
    have heq := heq []
    rw [List.append_nil, List.append_nil] at heq
    rw [heq]
    have here : Led (if owed = 1 then done else n :: done) := by
      split_ifs
      · exact hled
      · exact hled.cons n
    cases hstep with
    | pass => exact ih h' hled
    | keep => exact ih h' here
    | @join skipped before first _ hhere =>
      apply ih h'
      obtain ⟨inside, hgroup⟩ := j.exists_extend first (skipped.reverse ++ ns.take (j.reach ns))
      rw [hgroup]
      rw [hhere] at here
      exact ((led_append _ (List.cons_ne_nil _ _)).1 here).replace (.group hsort hsort')

/-- The join happens neither at white space and comments nor between them and a leader, and what it
makes leads whatever is joined on to it. -/
structure Join.IsShy (j : Join) : Prop where
  idle : ∀ p, IsIdle p → j.joins p = false
  leader : ∀ n, IsLeader n → j.joins n = true → ∀ p, IsIdle p → j.fitsBefore p = false
  sort : j.takesBefore = true → j.sort ≠ .remark ∧ j.sort ≠ .typedLiteral

lemma Join.IsShy.joinAfter_idle (hj : j.IsShy) {ps : List Node} (hps : ∀ p ∈ ps, IsIdle p)
    (done ns : List Node) (last : Option Node) (hlast : ∀ p ∈ last, IsIdle p) :
    ∃ last', (∀ p ∈ last', IsIdle p) ∧
      j.joinAfter done last 0 (ps ++ ns) = j.joinAfter (ps.reverse ++ done) last' 0 ns := by
  induction ps generalizing done last with
  | nil => exact ⟨last, hlast, rfl⟩
  | cons p ps ih =>
    obtain ⟨hp, hps⟩ := List.forall_mem_cons.1 hps
    have hstep : ∃ last', (∀ p ∈ last', IsIdle p) ∧ j.joinAfter done last 0 (p :: (ps ++ ns))
        = j.joinAfter (p :: done) last' 0 (ps ++ ns) := by
      rw [joinAfter, if_neg (Nat.not_lt_zero 1)]
      dsimp only
      rw [hj.idle p hp]
      cases p.isSpace with
      | true => exact ⟨last, hlast, rfl⟩
      | false => exact ⟨some p, fun q hq => Option.some.inj hq ▸ hp, rfl⟩
    obtain ⟨last', hlast', heq⟩ := hstep
    obtain ⟨last'', hlast'', heq'⟩ := ih hps (p :: done) last' hlast'
    refine ⟨last'', hlast'', ?_⟩
    rw [List.cons_append, heq, heq', List.reverse_cons, List.append_assoc, List.singleton_append]

lemma Join.IsShy.joinAfter_leader (hj : j.IsShy) {n : Node} (hn : IsLeader n) (base ns : List Node)
    {last : Option Node} (hlast : ∀ p ∈ last, IsIdle p) :
    j.joinAfter base last 0 (n :: ns) = j.joinAfter (n :: base) (some n) 0 ns := by
  have hnone : (j.joins n && last.any j.fitsBefore && j.fitsBehind ((nextSolid? ns).map (·.1)))
      = false := by
    cases hjoins : j.joins n with
    | false => rfl
    | true =>
      cases last with
      | none => rfl
      | some p => rw [Option.any_some, hj.leader n hn hjoins p (hlast p rfl)]; rfl
  rw [joinAfter, if_neg (Nat.not_lt_zero 1)]
  dsimp only
  rw [hn.isSpace, hnone]
  rfl

/-- A shy join skips the front of a list. -/
lemma Join.IsShy.skips (hj : j.IsShy) : Skips (j.joinAfter [] none 0) where
  idle {ps} hps := by
    obtain ⟨last, -, heq⟩ := hj.joinAfter_idle hps [] [] none nofun
    rw [List.append_nil, List.append_nil] at heq
    rw [heq, joinAfter, List.reverse_reverse]
  front {n} ns hn := by
    have skip : ∀ {ps : List Node}, (∀ p ∈ ps, IsIdle p) →
        j.joinAfter [] none 0 (ps ++ n :: ns) = j.joinAfter (n :: ps.reverse) (some n) 0 ns := by
      intro ps hps
      obtain ⟨last, hlast, heq⟩ := hj.joinAfter_idle hps [] (n :: ns) none nofun
      rw [heq, List.append_nil, hj.joinAfter_leader hn _ _ hlast]
    cases htakes : j.takesBefore with
    | true =>
      have hready : j.Ready [n] (some n) 0 := fun _ => ⟨n, List.mem_cons_self, hn.isSpace⟩
      obtain ⟨hsort, hsort'⟩ := hj.sort htakes
      obtain ⟨n', ns', hn', h⟩ := hready.led hsort hsort' (led_singleton hn) ns
      refine ⟨n', ns', hn', fun {ps} hps => ?_⟩
      rw [skip hps, ← h]
      exact (hready.frame ps.reverse ns).trans (by rw [List.reverse_reverse])
    | false =>
      -- the leader itself is out of reach
      have hready : j.Ready [] (some n) 0 := by
        rintro (⟨-, h⟩ | h)
        · exact absurd (htakes.symm.trans h) Bool.false_ne_true
        · exact absurd h (Nat.lt_irrefl 0)
      refine ⟨n, j.joinAfter [] (some n) 0 ns, hn, fun {ps} hps => ?_⟩
      rw [skip hps]
      refine (hready.frame (n :: ps.reverse) ns).trans ?_
      rw [List.reverse_cons, List.reverse_reverse, List.append_assoc, List.singleton_append]

lemma Join.IsShy.skips_everywhere (hj : j.IsShy) (closed : Group → Bool) :
    Skips (j.everywhere closed) :=
  hj.skips.everywhere (.inr hj.skips)

end Reading

/-! ## The joins of an outline -/

section Fits

variable {n p : Node}

lemma IsIdle.isNamed (h : IsIdle p) : p.isNamed = false := by
  rw [Node.isNamed, h.isGroupOf rfl, h.isLeafOf rfl, Bool.or_false]

lemma IsIdle.isOperand (h : IsIdle p) : p.isOperand = false := by
  rw [Node.isOperand, isPlainValue, h.isGroupOf rfl, h.isLeafOf rfl, h.isWordOf]
  rfl

lemma IsIdle.isSide (h : IsIdle p) : p.isSide = false := by
  rw [Node.isSide, isPlainValue, h.isGroupOf rfl, h.isLeafOf rfl, h.isWordOf]
  rfl

/-- A leader is none of the tokens that are joined on to comments. -/
lemma IsLeader.isLeafOf (h : IsLeader n) {ks : List Token.Kind}
    (hks : ks ⊆ [.cast, .zoneShift, .typeName, .assignment]) : n.isLeafOf ks = false := by
  cases h with
  | group => rfl
  | @leaf t _ upright =>
    rw [Token.leans, Bool.or_eq_false_iff] at upright
    refine Bool.eq_false_iff.2 fun hmem => Bool.eq_false_iff.1 upright.1 ?_
    exact List.contains_iff_mem.2 (hks (List.contains_iff_mem.1 hmem))

lemma IsLeader.isWordOf (h : IsLeader n) {words : List String} (hwords : words ⊆ ["AS", "TIMESTAMP"]) :
    n.isWordOf words = false := by
  cases h with
  | group => rfl
  | @leaf t _ upright =>
    rw [Token.leans, Bool.or_eq_false_iff] at upright
    refine Bool.eq_false_iff.2 fun hword => Bool.eq_false_iff.1 upright.2 ?_
    obtain ⟨hkind, hany⟩ := Bool.and_eq_true_iff.1 hword
    obtain ⟨w, hw, heq⟩ := List.any_eq_true.1 hany
    exact Bool.and_eq_true_iff.2 ⟨hkind, List.any_eq_true.2 ⟨w, hwords hw, heq⟩⟩

lemma IsLeader.isGroupOf (h : IsLeader n) {gs : List Group} (hgs : gs ⊆ [.remark, .typedLiteral]) :
    n.isGroupOf gs = false := by
  cases h with
  | leaf => rfl
  | group solid upright =>
    refine Bool.eq_false_iff.2 fun hmem => ?_
    have hmem := hgs (List.contains_iff_mem.1 hmem)
    simp only [List.mem_cons, List.not_mem_nil, or_false] at hmem
    exact hmem.elim solid upright

/-- A join at a node that no leader is. -/
lemma isShy_of_not_joins {j : Join} (idle : ∀ p, IsIdle p → j.joins p = false)
    (leader : ∀ n, IsLeader n → j.joins n = false)
    (sort : j.takesBefore = true → j.sort ≠ .remark ∧ j.sort ≠ .typedLiteral) : j.IsShy where
  idle := idle
  leader n hn hjoins := absurd (hjoins.symm.trans (leader n hn)) nofun
  sort := sort

end Fits

lemma isShy_memberJoin : memberJoin.IsShy where
  idle p hp := by
    have arrow : (p.token?.any fun t => t.kind == .operator
        && (t.text == ['-', '>'] || t.text == ['-', '>', '>'])) = false := by
      refine hp.any_token? fun t ht => ?_
      have hlayout := ht.isLayout
      cases hkind : t.kind <;> rw [hkind] at hlayout <;> first | rfl | cases hlayout
    exact Bool.or_eq_false_iff.2 ⟨hp.isLeafOf rfl, arrow⟩
  leader _ _ _ _ hp := hp.isNamed
  sort _ := ⟨nofun, nofun⟩

lemma isShy_elementJoin : elementJoin.IsShy where
  idle _ hp := hp.isGroupOf rfl
  leader _ _ _ _ hp := Bool.or_eq_false_iff.2 ⟨hp.isNamed, hp.isGroupOf rfl⟩
  sort _ := ⟨nofun, nofun⟩

lemma isShy_castJoin : castJoin.IsShy :=
  isShy_of_not_joins (fun _ hp => hp.isLeafOf rfl) (fun _ hn => hn.isLeafOf (by decide))
    fun _ => ⟨nofun, nofun⟩

lemma isShy_zoneJoin : zoneJoin.IsShy :=
  isShy_of_not_joins (fun _ hp => hp.isLeafOf rfl) (fun _ hn => hn.isLeafOf (by decide))
    fun _ => ⟨nofun, nofun⟩

lemma isShy_literalJoin : literalJoin.IsShy :=
  isShy_of_not_joins (fun _ hp => Bool.or_eq_false_iff.2 ⟨hp.isLeafOf rfl, hp.isWordOf _⟩)
    (fun _ hn => Bool.or_eq_false_iff.2 ⟨hn.isLeafOf (by decide), hn.isWordOf (by decide)⟩) nofun

lemma isShy_unitJoin : unitJoin.IsShy :=
  isShy_of_not_joins (fun _ hp => hp.isGroupOf rfl) (fun _ hn => hn.isGroupOf (by decide)) nofun

lemma isShy_operationJoin : operationJoin.IsShy where
  idle _ hp := hp.isLeafOf rfl
  leader _ _ _ _ hp := hp.isOperand
  sort _ := ⟨nofun, nofun⟩

lemma isShy_equationJoin : equationJoin.IsShy where
  idle _ hp := hp.isLeafOf rfl
  leader _ _ _ _ hp := hp.isSide
  sort _ := ⟨nofun, nofun⟩

lemma isShy_aliasJoin : aliasJoin.IsShy :=
  isShy_of_not_joins (fun _ hp => hp.isWordOf _) (fun _ hn => hn.isWordOf (by decide))
    fun _ => ⟨nofun, nofun⟩

lemma isShy_bindingJoin : bindingJoin.IsShy :=
  isShy_of_not_joins (fun _ hp => hp.isLeafOf rfl) (fun _ hn => hn.isLeafOf (by decide))
    fun _ => ⟨nofun, nofun⟩

/-- Calls, conditions and names are made of what stands behind the front. -/
lemma skips_nameAll : Skips nameAll := by
  have alike : ∀ {pass : List Node → List Node} (closed : Group → Bool), Skips pass →
      Skips (everywhere closed fun _ => pass) :=
    fun _ h => h.everywhere (.inr h)
  have conditions : Skips (everywhere (· == .condition) groupConditions) :=
    Skips.everywhere (f := groupConditions) skips_conditionsAfter (.inr skips_conditionsAfter)
  exact (alike _ skips_groupWindows).comp <| (alike _ skips_groupCalls).comp <|
    conditions.comp <| (isShy_memberJoin.skips_everywhere _).comp <|
    (isShy_elementJoin.skips_everywhere _).comp <| (alike _ skips_groupNames).comp
    (alike _ skips_groupOrders)

/-- Values are joined to what stands behind the front. -/
lemma skips_joinAll : Skips joinAll := by
  have signs : Skips fun ns => [castJoin, zoneJoin, literalJoin, unitJoin, operationJoin,
      equationJoin, aliasJoin].foldl (fun ns j => j.all ns) ns := by
    apply @Skips.foldl _ Join.all
    simp only [List.forall_mem_cons]
    exact ⟨isShy_castJoin.skips_everywhere _, isShy_zoneJoin.skips_everywhere _,
      isShy_literalJoin.skips_everywhere _, isShy_unitJoin.skips_everywhere _,
      isShy_operationJoin.skips_everywhere _, isShy_equationJoin.skips_everywhere _,
      isShy_aliasJoin.skips_everywhere _, List.forall_mem_nil _⟩
  have aliases : Skips (everywhere (fun _ => false) fun _ => groupAliases) :=
    Skips.everywhere (f := fun _ => groupAliases) skips_groupAliases (.inr skips_groupAliases)
  have bindings : Skips bindingJoin.all := isShy_bindingJoin.skips_everywhere (· == .binding)
  have h := (signs.comp aliases).comp bindings
  unfold joinAll
  exact h

end QueryTutor.Query.Node
