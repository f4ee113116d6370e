import QueryTutor.Proofs.Query.Outline
import QueryTutor.Proofs.Text.Case

/-!
# Phrases at the front of an outline

The passes that group calls, conditions and names keep the white space and the comments at the front
of a list out of their groups.
-/

namespace QueryTutor.Query

open Text

/-- White space and comments do not begin like a word in capitals. -/
lemma Token.IsLayout.opener {t : Token} (h : t.IsLayout) :
    ∀ c ∈ t.text.head?, upperChar c = [c] ∧ c.isUpper = false := by
  intro c hc
  cases h with
  | space _ hblank =>
    exact forall_blank (P := fun c => upperChar c = [c] ∧ c.isUpper = false) (by decide)
      (hblank c (List.mem_of_mem_head? hc))
  | comment _ hmark =>
    obtain ⟨d, hd, hmark⟩ := hmark
    rw [Option.mem_unique hc hd]
    simp only [List.mem_cons, List.not_mem_nil, or_false] at hmark
    obtain rfl | rfl | rfl := hmark <;> decide

lemma Token.IsLayout.text_ne {t : Token} (h : t.IsLayout) {word : List Char}
    (hword : word.head?.any (·.isUpper) = true) : t.text ≠ word := by
  rintro rfl
  obtain ⟨c, hc, hupper⟩ := (Option.any_eq_true ..).1 hword
  exact absurd hupper (Bool.eq_false_iff.1 (h.opener c hc).2)

lemma Token.IsLayout.capitals_ne {t : Token} (h : t.IsLayout) {word : List Char}
    (hword : word.head?.any (·.isUpper) = true) : t.capitals ≠ word := by
  intro heq
  cases htext : t.text with
  | nil =>
    rw [← heq, Token.capitals, htext] at hword
    cases hword
  | cons c r =>
    obtain ⟨hcapital, hupper⟩ := h.opener c (by rw [htext]; rfl)
    have : t.capitals = c :: upper r := by
      rw [Token.capitals, htext, upper, List.flatMap_cons, hcapital]
      rfl
    rw [← heq, this] at hword
    exact absurd hword (Bool.eq_false_iff.1 hupper)

namespace Node

lemma IsIdle.any_token? {p : Node} (h : IsIdle p) {f : Token → Bool}
    (hf : ∀ t : Token, t.IsLayout → f t = false) : p.token?.any f = false := by
  cases h with
  | remark => rfl
  | leaf ht => exact hf _ ht

lemma skips_groupWindows : Skips groupWindows := by
  apply Skips.foldr
  · intro p rest hp
    rw [hp.isWordOf, if_neg Bool.false_ne_true]
  · intro n rest hn
    split_ifs
    · split
      case h_1 place _ =>
        split_ifs
        · exact ⟨.group .window (n :: rest.take (place + 1)), rest.drop (place + 1),
            .group nofun nofun, rfl⟩
        · exact ⟨n, rest, hn, rfl⟩
      case h_2 => exact ⟨n, rest, hn, rfl⟩
    · exact ⟨n, rest, hn, rfl⟩

lemma definesTable_append {ps : List Node} (hps : ∀ p ∈ ps, IsIdle p) (ns : List Node) :
    definesTable (ps ++ ns) = definesTable ns := by
  have skip : ∀ {f : Token → Bool}, (∀ t : Token, t.IsLayout → f t = false) →
      ((ps ++ ns).any fun n => n.token?.any f) = ns.any fun n => n.token?.any f := by
    intro f hf
    have hnone : (ps.any fun n => n.token?.any f) = false := by
      rw [List.any_eq_false]
      exact fun p hp => Bool.eq_false_iff.1 ((hps p hp).any_token? hf)
    rw [List.any_append, hnone, Bool.false_or]
  have reads : ∀ {word : String}, word.toList.head?.any (·.isUpper) = true →
      ((ps ++ ns).any fun n => n.token?.any fun t => t.capitals == word.toList)
        = ns.any fun n => n.token?.any fun t => t.capitals == word.toList :=
    fun hword => skip fun t ht => beq_eq_false_iff_ne.2 (ht.capitals_ne hword)
  have hcreate := reads (by decide : "CREATE".toList.head?.any (·.isUpper) = true)
  have htable := reads (by decide : "TABLE".toList.head?.any (·.isUpper) = true)
  have has := skip (f := fun t => t.text == "AS".toList)
    fun t ht => beq_eq_false_iff_ne.2 (ht.text_ne (by decide))
  simp only [definesTable, hcreate, htable, has]

lemma skips_groupCalls : Skips groupCalls := by
  have fold : Skips fun ns => ns.foldr (fun n rest =>
      if n.isAnyName && callReach rest > 0 then withNext .call n (callReach rest) rest
      else n :: rest) [] := by
    apply Skips.foldr
    · intro p rest hp
      rw [isAnyName, hp.isLeafOf rfl, Bool.false_and, if_neg Bool.false_ne_true]
    · intro n rest hn
      split_ifs
      · exact ⟨.group .call (n :: rest.take (callReach rest)), rest.drop (callReach rest),
          .group nofun nofun, rfl⟩
      · exact ⟨n, rest, hn, rfl⟩
  constructor
  case idle =>
    intro ps hps
    rw [groupCalls]
    split_ifs
    · rfl
    · exact fold.idle hps
  case front =>
    intro n ns hn
    cases hdefines : definesTable (n :: ns) with
    | true =>
      refine ⟨n, ns, hn, fun hps => ?_⟩
      rw [groupCalls, definesTable_append hps, hdefines, if_pos rfl]
    | false =>
      obtain ⟨n', ns', hn', h⟩ := fold.front ns hn
      refine ⟨n', ns', hn', fun hps => ?_⟩
      rw [groupCalls, definesTable_append hps, hdefines, if_neg Bool.false_ne_true]
      exact h hps

/-- A pass that reads a list from left to right, with what it has made so far last first, skips the
front when it keeps idle nodes, never looks behind a leader, and keeps a leader in front. -/
lemma Skips.reading (pass : List Node → List Node → List Node)
    (nil : ∀ done, pass done [] = done.reverse)
    (idle : ∀ done p ns, IsIdle p → pass done (p :: ns) = pass (p :: done) ns)
    (leader : ∀ base n ns, IsLeader n → (∀ p ∈ base, IsIdle p) →
      pass base (n :: ns) = base.reverse ++ pass [] (n :: ns))
    (led : ∀ n ns, IsLeader n → ∃ n' ns', IsLeader n' ∧ pass [] (n :: ns) = n' :: ns') :
    Skips (pass []) := by
  have skip : ∀ {ps : List Node}, (∀ p ∈ ps, IsIdle p) → ∀ done ns,
      pass done (ps ++ ns) = pass (ps.reverse ++ done) ns := by
    intro ps hps
    induction ps with
    | nil => exact fun _ _ => rfl
    | cons p ps ih =>
      obtain ⟨hp, hps⟩ := List.forall_mem_cons.1 hps
      intro done ns
      rw [List.cons_append, idle _ _ _ hp, ih hps, List.reverse_cons, List.append_assoc,
        List.singleton_append]
  constructor
  case idle =>
    intro ps hps
    have h := skip hps [] []
    rwa [List.append_nil, List.append_nil, nil, List.reverse_reverse] at h
  case front =>
    intro n ns hn
    obtain ⟨n', ns', hn', h⟩ := led n ns hn
    refine ⟨n', ns', hn', fun {ps} hps => ?_⟩
    have hbase : ∀ p ∈ ps.reverse, IsIdle p := fun p hp => hps p (List.mem_reverse.1 hp)
    rw [skip hps, List.append_nil, leader _ _ _ hn hbase, List.reverse_reverse, h]

lemma conditionsAfter_frame (base done : List Node) (condition : Option (List Node))
    (ns : List Node) :
    conditionsAfter (done ++ base) condition ns
      = base.reverse ++ conditionsAfter done condition ns := by
  induction ns generalizing done condition with
  | nil =>
    cases condition with
    | none => exact List.reverse_append
    | some inside => exact @List.reverse_append _ (_ :: done) base
  | cons n ns ih =>
    cases condition with
    | none =>
      rw [conditionsAfter, conditionsAfter]
      split_ifs
      · exact ih done _
      · exact ih (n :: done) none
    | some inside =>
      rw [conditionsAfter, conditionsAfter]
      split_ifs
      · exact ih (n :: _ :: done) none
      · exact ih done _

/-- Once a leader has been read, or a condition has been opened, the list has a leader in front. -/
lemma led_conditionsAfter (ns : List Node) {done : List Node} {condition : Option (List Node)}
    (h : Led done ∨ done = [] ∧ condition.isSome = true) :
    ∃ n ns', IsLeader n ∧ conditionsAfter done condition ns = n :: ns' := by
  have close : ∀ {done : List Node} {inside : List Node}, Led done ∨ done = [] →
      Led (.group .condition inside :: done) := by
    rintro done inside (h | rfl)
    · exact h.cons _
    · exact led_singleton (.group nofun nofun)
  induction ns generalizing done condition with
  | nil =>
    cases condition with
    | none => exact (h.resolve_right nofun).exists_reverse
    | some inside => exact (close (h.imp_right And.left)).exists_reverse
  | cons n ns ih =>
    cases condition with
    | none =>
      have hdone := h.resolve_right nofun
      rw [conditionsAfter]
      split_ifs
      · exact ih (.inl hdone)
      · exact ih (.inl (hdone.cons n))
    | some inside =>
      rw [conditionsAfter]
      split_ifs
      · exact ih (.inl ((close (h.imp_right And.left)).cons n))
      · exact ih (h.imp_right fun hempty => ⟨hempty.1, rfl⟩)

lemma skips_conditionsAfter : Skips (conditionsAfter [] none) := by
  apply Skips.reading fun done ns => conditionsAfter done none ns
  · exact fun _ => rfl
  · intro done p ns hp
    rw [conditionsAfter, hp.isWordOf, if_neg Bool.false_ne_true]
  · exact fun base n ns _ _ => conditionsAfter_frame base [] none (n :: ns)
  · intro n ns hn
    rw [conditionsAfter]
    split_ifs
    · exact led_conditionsAfter ns (.inr ⟨rfl, rfl⟩)
    · exact led_conditionsAfter ns (.inl (led_singleton hn))

lemma skips_groupNames : Skips groupNames := by
  have idle : ∀ {ps : List Node}, (∀ p ∈ ps, IsIdle p) → groupNames ps = ps := by
    intro ps hps
    have hself : ∀ p ∈ ps, (if p.isLeafOf [.name, .quotedName] then Node.group .identifier [p]
        else p) = p := by
      intro p hp
      rw [(hps p hp).isLeafOf rfl, if_neg Bool.false_ne_true]
    rw [groupNames, List.map_congr_left hself, List.map_id']
  constructor
  case idle => exact idle
  case front =>
    intro n ns hn
    have hlead : IsLeader (if n.isLeafOf [.name, .quotedName] then Node.group .identifier [n]
        else n) := by
      split_ifs
      · exact .group nofun nofun
      · exact hn
    refine ⟨_, groupNames ns, hlead, fun hps => ?_⟩
    rw [groupNames, List.map_append]
    exact congrArg (· ++ _) (idle hps)

/-- What a direction does to what was read before it. -/
lemma orderAfter_solid {blanks : List Node} {first : Node}
    (hblanks : ∀ b ∈ blanks, b.isSpace = true) (hfirst : first.isSpace = false)
    (rest : List Node) (n : Node) :
    orderAfter (blanks ++ first :: rest) n
      = if n.isLeafOf [.ordering]
          && (first.isGroupOf [.identifier] || first.isLeafOf [.number, .hexadecimal]) then
          .group .identifier (first :: blanks.reverse ++ [n]) :: rest
        else n :: (blanks ++ first :: rest) := by
  rw [orderAfter]
  dsimp only
  rw [takeWhile_isSpace hblanks hfirst, List.drop_left]
  cases n.isLeafOf [.ordering] <;> rfl

lemma orderAfter_idle {done : List Node} (hdone : ∀ p ∈ done, IsIdle p) (n : Node) :
    orderAfter done n = n :: done := by
  rw [orderAfter]
  split_ifs
  · dsimp only
    split
    case h_1 first rest hdrop =>
      have hfirst : IsIdle first := hdone _ (List.mem_of_mem_drop (hdrop ▸ List.mem_cons_self))
      rw [hfirst.isGroupOf rfl, hfirst.isLeafOf rfl, Bool.or_false, if_neg Bool.false_ne_true]
    case h_2 => rfl
  · rfl

/-- Behind a leader, a direction looks at nothing before it, and a leader stays in front. -/
lemma foldl_orderAfter (ns : List Node) {done : List Node} (hled : Led done) :
    Led (ns.foldl orderAfter done) ∧
      ∀ base, ns.foldl orderAfter (done ++ base) = ns.foldl orderAfter done ++ base := by
  induction ns generalizing done with
  | nil => exact ⟨hled, fun _ => rfl⟩
  | cons n ns ih =>
    obtain ⟨blanks, first, rest, rfl, hblanks, hfirst⟩ := hled.exists_solid
    have hstep : Led (orderAfter (blanks ++ first :: rest) n) := by
      rw [orderAfter_solid hblanks hfirst]
      split_ifs
      · exact ((led_append _ (List.cons_ne_nil _ _)).1 hled).replace (.group nofun nofun)
      · exact hled.cons n
    refine ⟨(ih hstep).1, fun base => ?_⟩
    rw [List.foldl_cons, List.foldl_cons, ← (ih hstep).2, List.append_assoc, List.cons_append,
      orderAfter_solid hblanks hfirst, orderAfter_solid hblanks hfirst]
    split_ifs
    · rfl
    · simp

lemma skips_groupOrders : Skips groupOrders := by
  have leader : ∀ {base : List Node} {n : Node}, (∀ p ∈ base, IsIdle p) → IsLeader n →
      ∀ ns, (n :: ns).foldl orderAfter base = (n :: ns).foldl orderAfter [] ++ base := by
    intro base n hbase hn ns
    rw [List.foldl_cons, List.foldl_cons, orderAfter_idle hbase, orderAfter_idle (List.forall_mem_nil _)]
    exact (foldl_orderAfter ns (led_singleton hn)).2 base
  apply Skips.reading fun done ns => (ns.foldl orderAfter done).reverse
  · exact fun _ => rfl
  · intro done p ns hp
    rw [List.foldl_cons, orderAfter, hp.isLeafOf rfl, if_neg Bool.false_ne_true]
  · intro base n ns hn hbase
    rw [leader hbase hn, List.reverse_append]
  · intro n ns hn
    rw [List.foldl_cons, orderAfter_idle (List.forall_mem_nil _)]
    exact (foldl_orderAfter ns (led_singleton hn)).1.exists_reverse

/-- What a name does to what was read before it. -/
lemma aliasesAfter_solid {blanks : List Node} {first : Node}
    (hblanks : ∀ b ∈ blanks, b.isSpace = true) (hfirst : first.isSpace = false)
    (rest : List Node) (free : Bool) {n : Node} (hn : n.isSpace = false) (ns : List Node) :
    aliasesAfter (blanks ++ first :: rest) free (n :: ns)
      = if free && n.isGroupOf [.identifier] && first.takesAlias then
          aliasesAfter (adopt .identifier first (blanks.reverse ++ [n]) :: rest) false ns
        else aliasesAfter (n :: (blanks ++ first :: rest)) true ns := by
  rw [aliasesAfter, hn, if_neg Bool.false_ne_true]
  dsimp only
  rw [takeWhile_isSpace hblanks hfirst, List.drop_left]
  cases free && n.isGroupOf [.identifier] <;> rfl

lemma exists_adopt (g : Group) (first : Node) (more : List Node) :
    ∃ ns, adopt g first more = .group g ns := by
  cases first with
  | leaf t => exact ⟨.leaf t :: more, rfl⟩
  | group h inside =>
    by_cases heq : h = g
    · exact ⟨inside ++ more, by rw [adopt, if_pos (beq_iff_eq.2 heq), heq]⟩
    · exact ⟨.group h inside :: more, by rw [adopt, if_neg (mt beq_iff_eq.1 heq)]⟩

lemma aliasesAfter_idle {done : List Node} (hdone : ∀ p ∈ done, IsIdle p) (n : Node)
    (ns : List Node) : aliasesAfter done true (n :: ns) = aliasesAfter (n :: done) true ns := by
  rw [aliasesAfter]
  split_ifs
  · rfl
  · dsimp only
    split
    case h_1 first rest hdrop =>
      have hfirst : IsIdle first := hdone _ (List.mem_of_mem_drop (hdrop ▸ List.mem_cons_self))
      rw [takesAlias, hfirst.isGroupOf rfl, hfirst.isLeafOf rfl, Bool.or_false,
        if_neg Bool.false_ne_true]
    case h_2 => rfl
  · rfl

/-- Behind a leader, a name looks at nothing before it, and a leader stays in front. -/
lemma aliasesAfter_led (ns : List Node) {done : List Node} (free : Bool) (hled : Led done) :
    (∃ n ns', IsLeader n ∧ aliasesAfter done free ns = n :: ns') ∧
      ∀ base, aliasesAfter (done ++ base) free ns = base.reverse ++ aliasesAfter done free ns := by
  induction ns generalizing done free with
  | nil => exact ⟨hled.exists_reverse, fun base => List.reverse_append⟩
  | cons n ns ih =>
    cases hn : n.isSpace with
    | true =>
      obtain ⟨hlead, hframe⟩ := ih free (hled.cons n)
      rw [aliasesAfter, if_pos hn]
      refine ⟨hlead, fun base => ?_⟩
      rw [aliasesAfter, if_pos hn]
      exact hframe base
    | false =>
      obtain ⟨blanks, first, rest, rfl, hblanks, hfirst⟩ := hled.exists_solid
      rw [aliasesAfter_solid hblanks hfirst _ _ hn]
      split_ifs with htakes
      · have hled' : Led (adopt .identifier first (blanks.reverse ++ [n]) :: rest) := by
          obtain ⟨inside, hadopt⟩ := exists_adopt .identifier first (blanks.reverse ++ [n])
          rw [hadopt]
          exact ((led_append _ (List.cons_ne_nil _ _)).1 hled).replace (.group nofun nofun)
        refine ⟨(ih false hled').1, fun base => ?_⟩
        rw [List.append_assoc, List.cons_append, aliasesAfter_solid hblanks hfirst _ _ hn,
          if_pos htakes]
        exact (ih false hled').2 base
      · refine ⟨(ih true (hled.cons n)).1, fun base => ?_⟩
        rw [List.append_assoc, List.cons_append, aliasesAfter_solid hblanks hfirst _ _ hn,
          if_neg htakes, ← (ih true (hled.cons n)).2]
        simp

lemma skips_groupAliases : Skips groupAliases := by
  apply Skips.reading fun done ns => aliasesAfter done true ns
  · exact fun _ => rfl
  · intro done p ns hp
    rw [aliasesAfter, hp.isGroupOf rfl, Bool.and_false, if_neg Bool.false_ne_true, ite_self]
  · intro base n ns hn hbase
    rw [aliasesAfter_idle hbase, aliasesAfter_idle (List.forall_mem_nil _)]
    exact (aliasesAfter_led ns true (led_singleton hn)).2 base
  · intro n ns hn
    rw [aliasesAfter_idle (List.forall_mem_nil _)]
    exact (aliasesAfter_led ns true (led_singleton hn)).1

/-- What a comment does to what was read before it. -/
lemma remarkAfter_solid {blanks : List Node} {first : Node}
    (hblanks : ∀ b ∈ blanks, b.isSpace = true) (hfirst : first.isSpace = false)
    (rest : List Node) (n : Node) :
    remarkAfter (blanks ++ first :: rest) n
      = match n.isGroupOf [.remark], first with
        | true, .group g ns => .group g (ns ++ blanks.reverse ++ [n]) :: rest
        | _, _ => n :: (blanks ++ first :: rest) := by
  rw [remarkAfter]
  dsimp only
  rw [takeWhile_isSpace hblanks hfirst, List.drop_left]
  cases n.isGroupOf [.remark] <;> cases first <;> rfl

/-- Behind a leader, a comment looks at nothing before it, and a leader stays in front. -/
lemma foldl_remarkAfter (ns : List Node) {done : List Node} (hled : Led done) :
    Led (ns.foldl remarkAfter done) ∧
      ∀ base, ns.foldl remarkAfter (done ++ base) = ns.foldl remarkAfter done ++ base := by
  induction ns generalizing done with
  | nil => exact ⟨hled, fun _ => rfl⟩
  | cons n ns ih =>
    have hstep : Led (remarkAfter done n) ∧
        ∀ base, remarkAfter (done ++ base) n = remarkAfter done n ++ base := by
      obtain ⟨blanks, first, rest, rfl, hblanks, hfirst⟩ := hled.exists_solid
      have plain : Led (n :: (blanks ++ first :: rest)) ∧ ∀ base : List Node,
          n :: (blanks ++ first :: (rest ++ base)) = n :: (blanks ++ first :: rest) ++ base :=
        ⟨hled.cons n, fun base => by simp⟩
      simp only [List.append_assoc, List.cons_append, remarkAfter_solid hblanks hfirst]
      cases n.isGroupOf [.remark] with
      | false => exact plain
      | true =>
        cases first with
        | leaf t => exact plain
        | group g inside =>
          have hgroup := (led_append _ (List.cons_ne_nil _ _)).1 hled
          exact ⟨hgroup.regroup _, fun _ => rfl⟩
    refine ⟨(ih hstep.1).1, fun base => ?_⟩
    rw [List.foldl_cons, List.foldl_cons, hstep.2, (ih hstep.1).2]

lemma IsIdle.remarkAfter {done : List Node} {n : Node} (hdone : ∀ p ∈ done, IsIdle p)
    (hn : IsIdle n) : ∀ p ∈ remarkAfter done n, IsIdle p := by
  have plain : ∀ p ∈ n :: done, IsIdle p := List.forall_mem_cons.2 ⟨hn, hdone⟩
  rw [Node.remarkAfter]
  split_ifs
  · dsimp only
    split
    case h_1 g ns rest hdrop =>
      have hbehind : ∀ p ∈ .group g ns :: rest, IsIdle p :=
        fun p hp => hdone p (List.mem_of_mem_drop (hdrop ▸ hp))
      obtain ⟨hgroup, hrest⟩ := List.forall_mem_cons.1 hbehind
      cases hgroup with
      | remark hns =>
        refine List.forall_mem_cons.2 ⟨.remark ?_, hrest⟩
        simp only [List.forall_mem_append, List.mem_reverse]
        exact ⟨⟨hns, fun p hp => hdone p ((List.takeWhile_prefix _).subset hp)⟩,
          List.forall_mem_singleton.2 hn⟩
    case h_2 => exact plain
  · exact plain

lemma foldl_remarkAfter_idle {ps : List Node} (hps : ∀ p ∈ ps, IsIdle p) {done : List Node}
    (hdone : ∀ p ∈ done, IsIdle p) : ∀ p ∈ ps.foldl remarkAfter done, IsIdle p := by
  induction ps generalizing done with
  | nil => exact hdone
  | cons p ps ih =>
    obtain ⟨hp, hps⟩ := List.forall_mem_cons.1 hps
    exact ih hps (hp.remarkAfter hdone)

end Node

end QueryTutor.Query
