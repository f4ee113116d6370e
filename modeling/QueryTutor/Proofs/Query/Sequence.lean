import Mathlib.Data.List.Basic
import Mathlib.Data.List.TakeWhile
import QueryTutor.Proofs.Query.Join
import QueryTutor.Query.Outline.Build

/-!
# The order of the tokens

Making groups moves no token: whatever is read off the tokens of a statement one after the other is
the same in its outline, even when it is known which tokens stand inside a group of comments.
-/

namespace QueryTutor.Query.Node

/-- Nodes are built from tokens by making groups. -/
@[elab_as_elim]
theorem induct {P : Node → Prop} (leaf : ∀ t, P (.leaf t))
    (group : ∀ g ns, (∀ n ∈ ns, P n) → P (.group g ns)) : ∀ n, P n
  | .leaf t => leaf t
  | .group g ns => group g ns fun n _ => induct leaf group n

mutual

/-- What is read off the tokens of a node, where it is known whether a token stands inside a group
of comments. -/
def read {α : Type} (f : Bool → Token → List α) (inside : Bool) : Node → List α
  | .leaf t => f inside t
  | .group g ns => readOf f (inside || g == .remark) ns

/-- What is read off the tokens of nodes that follow each other. -/
def readOf {α : Type} (f : Bool → Token → List α) (inside : Bool) : List Node → List α
  | [] => []
  | n :: ns => n.read f inside ++ readOf f inside ns

end

section Reading

variable {α : Type} {f : Bool → Token → List α} {inside : Bool}

lemma read_group {g : Group} (hg : g ≠ .remark) (ns : List Node) :
    (group g ns).read f inside = readOf f inside ns := by
  rw [read, beq_eq_false_iff_ne.2 hg, Bool.or_false]

@[simp]
lemma readOf_nil : readOf f inside [] = [] := rfl

@[simp]
lemma readOf_cons (n : Node) (ns : List Node) :
    readOf f inside (n :: ns) = n.read f inside ++ readOf f inside ns := rfl

lemma readOf_eq_flatMap (ns : List Node) : readOf f inside ns = ns.flatMap (read f inside) := by
  induction ns with
  | nil => rfl
  | cons n ns ih => rw [readOf_cons, List.flatMap_cons, ih]

@[simp]
lemma readOf_append (ns ms : List Node) :
    readOf f inside (ns ++ ms) = readOf f inside ns ++ readOf f inside ms := by
  rw [readOf_eq_flatMap, readOf_eq_flatMap, readOf_eq_flatMap, List.flatMap_append]

lemma mem_readOf {x : α} {ns : List Node} :
    x ∈ readOf f inside ns ↔ ∃ n ∈ ns, x ∈ n.read f inside := by
  rw [readOf_eq_flatMap, List.mem_flatMap]

/-- The same can be read off the nodes before and behind the pass. -/
def Keeps (f : Bool → Token → List α) (pass : List Node → List Node) : Prop :=
  ∀ inside ns, readOf f inside (pass ns) = readOf f inside ns

lemma Keeps.comp {pass pass' : List Node → List Node} (h : Keeps f pass) (h' : Keeps f pass') :
    Keeps f fun ns => pass' (pass ns) :=
  fun inside ns => (h' inside _).trans (h inside ns)

lemma Keeps.foldl {β : Type} {pass : β → List Node → List Node} {bs : List β}
    (h : ∀ b ∈ bs, Keeps f (pass b)) : Keeps f fun ns => bs.foldl (fun ns b => pass b ns) ns := by
  induction bs with
  | nil => exact fun _ _ => rfl
  | cons b bs ih =>
    obtain ⟨hb, hbs⟩ := List.forall_mem_cons.1 h
    exact hb.comp (ih hbs)

lemma readOf_map {ns : List Node} {m : Node → Node}
    (h : ∀ n ∈ ns, (m n).read f inside = n.read f inside) :
    readOf f inside (ns.map m) = readOf f inside ns := by
  rw [readOf_eq_flatMap, readOf_eq_flatMap, List.flatMap_map]
  exact List.flatMap_congr h

lemma read_rebuild {closed : Group → Bool} {pass : Option Group → List Node → List Node}
    (h : ∀ g, Keeps f (pass g)) (inside : Bool) (n : Node) :
    (n.rebuild closed pass).read f inside = n.read f inside := by
  induction n using induct generalizing inside with
  | leaf t => rfl
  | group g ns ih =>
    rw [rebuild]
    split_ifs
    · rfl
    · rw [read, h, rebuildAll_eq_map, readOf_map fun n hn => ih n hn _, read]

lemma Keeps.everywhere {closed : Group → Bool} {pass : Option Group → List Node → List Node}
    (h : ∀ g, Keeps f (pass g)) : Keeps f (everywhere closed pass) := by
  intro inside ns
  rw [Node.everywhere, h, rebuildAll_eq_map, readOf_map fun n _ => read_rebuild h inside n]

/-! ## Pairs -/

lemma readOf_pairAfter {pair : Pair} (hsort : pair.sort ≠ .remark) (current : List Node)
    (outer : List (List Node)) (ns : List Node) :
    readOf f inside (pairAfter pair current outer ns)
      = readOf f inside (current ++ outer.flatten).reverse ++ readOf f inside ns := by
  induction ns generalizing current outer with
  | nil =>
    rw [pairAfter, foldl_append_flatten, readOf_nil, List.append_nil]
  | cons n ns ih =>
    simp only [pairAfter]
    split_ifs
    · simp [ih]
    · cases outer with
      | nil => simp [ih]
      | cons around outer => simp [ih, read_group hsort]
    · simp [ih]

lemma keeps_pairUp {pair : Pair} (hsort : pair.sort ≠ .remark) : Keeps f (pairUp pair) :=
  Keeps.everywhere fun _ _ ns => readOf_pairAfter hsort [] [] ns

lemma keeps_pairAll : Keeps f pairAll := by
  have brackets : Keeps f (pairUp bracketPair) := keeps_pairUp (by decide)
  have parentheses : Keeps f (pairUp parenthesisPair) := keeps_pairUp (by decide)
  have words : ∀ pair ∈ wordPairs, Keeps f (pairUp pair) := by
    intro pair hpair
    simp only [wordPairs, List.mem_cons, List.not_mem_nil, or_false] at hpair
    obtain rfl | rfl | rfl | rfl := hpair <;> exact keeps_pairUp (by decide)
  exact (brackets.comp parentheses).comp (.foldl words)

/-! ## Phrases -/

lemma readOf_withNext {g : Group} (hg : g ≠ .remark) (n : Node) (k : Nat) (rest : List Node) :
    readOf f inside (withNext g n k rest) = readOf f inside (n :: rest) := by
  rw [withNext, readOf_cons, read_group hg, readOf_cons, List.append_assoc, ← readOf_append,
    List.take_append_drop, readOf_cons]

lemma Keeps.foldr {step : Node → List Node → List Node}
    (h : ∀ inside n rest, readOf f inside (step n rest) = readOf f inside (n :: rest)) :
    Keeps f fun ns => ns.foldr step [] := by
  intro inside ns
  induction ns with
  | nil => rfl
  | cons n ns ih => exact (h inside n _).trans (congrArg (n.read f inside ++ ·) ih)

lemma keeps_groupWindows : Keeps f groupWindows := by
  apply Keeps.foldr
  intro inside n rest
  split_ifs
  · split
    · split_ifs
      · exact readOf_withNext (by decide) n _ rest
      · rfl
    · rfl
  · rfl

lemma keeps_groupCalls : Keeps f groupCalls := by
  intro inside ns
  rw [groupCalls]
  split_ifs
  · rfl
  · refine Keeps.foldr (fun inside n rest => ?_) inside ns
    split_ifs
    · exact readOf_withNext (by decide) n _ rest
    · rfl

lemma readOf_conditionsAfter (done : List Node) (condition : Option (List Node)) (ns : List Node) :
    readOf f inside (conditionsAfter done condition ns)
      = readOf f inside done.reverse ++ readOf f inside (condition.getD []).reverse
        ++ readOf f inside ns := by
  have hgroup : Group.condition ≠ .remark := by decide
  induction ns generalizing done condition with
  | nil => cases condition <;> simp [conditionsAfter, read_group hgroup]
  | cons n ns ih =>
    cases condition with
    | none =>
      rw [conditionsAfter]
      split_ifs <;> simp [ih]
    | some inner =>
      rw [conditionsAfter]
      split_ifs <;> simp [ih, read_group hgroup]

lemma keeps_groupConditions (around : Option Group) : Keeps f (groupConditions around) := by
  have conditions : ∀ {inside} ns, readOf f inside (conditionsAfter [] none ns)
      = readOf f inside ns := by
    intro inside ns
    simp [readOf_conditionsAfter]
  intro inside ns
  rw [groupConditions]
  split_ifs
  · rw [readOf_append, conditions, ← readOf_append, List.dropLast_eq_take, List.take_append_drop]
  · exact conditions ns

lemma keeps_groupNames : Keeps f groupNames := by
  intro inside ns
  refine readOf_map fun n _ => ?_
  split_ifs
  · rw [read_group (by decide), readOf_cons, readOf_nil, List.append_nil]
  · rfl

/-- The nodes read so far are white space, or end in white space behind a node that is none. -/
lemma space_or_solid (done : List Node) :
    (∀ n ∈ done, n.isSpace = true) ∨ ∃ blanks first rest, done = blanks ++ first :: rest ∧
      (∀ b ∈ blanks, b.isSpace = true) ∧ first.isSpace = false := by
  by_cases h : ∃ n ∈ done, n.isSpace = false
  · exact .inr (exists_solid h)
  · refine .inl fun n hn => ?_
    cases hspace : n.isSpace with
    | true => rfl
    | false => exact absurd ⟨n, hn, hspace⟩ h

lemma drop_takeWhile_of_space {done : List Node} (h : ∀ n ∈ done, n.isSpace = true) :
    done.drop (done.takeWhile isSpace).length = [] := by
  rw [List.takeWhile_eq_self_iff.2 h, List.drop_length]

lemma keeps_groupOrders : Keeps f groupOrders := by
  have step : ∀ {inside} done n, readOf f inside (orderAfter done n).reverse
      = readOf f inside done.reverse ++ n.read f inside := by
    intro inside done n
    obtain hspace | ⟨blanks, first, rest, rfl, hblanks, hfirst⟩ := space_or_solid done
    · rw [orderAfter]
      dsimp only
      rw [drop_takeWhile_of_space hspace]
      split_ifs <;> simp
    · rw [orderAfter_solid hblanks hfirst]
      split_ifs
      · simp [read_group (show Group.identifier ≠ .remark by decide)]
      · simp
  have fold : ∀ {inside} ns done, readOf f inside (ns.foldl orderAfter done).reverse
      = readOf f inside done.reverse ++ readOf f inside ns := by
    intro inside ns
    induction ns with
    | nil => simp
    | cons n ns ih =>
      intro done
      rw [List.foldl_cons, ih, step, readOf_cons, List.append_assoc]
  exact fun inside ns => fold ns []

lemma read_adopt {g : Group} (hg : g ≠ .remark) (first : Node) (more : List Node) :
    (adopt g first more).read f inside = first.read f inside ++ readOf f inside more := by
  cases first with
  | leaf t => exact read_group hg _
  | group h ns =>
    rw [adopt]
    split_ifs with heq
    · rw [beq_iff_eq.1 heq, read_group hg, read_group hg, readOf_append]
    · rw [read_group hg, readOf_cons]

lemma readOf_aliasesAfter (done : List Node) (free : Bool) (ns : List Node) :
    readOf f inside (aliasesAfter done free ns)
      = readOf f inside done.reverse ++ readOf f inside ns := by
  induction ns generalizing done free with
  | nil => simp [aliasesAfter]
  | cons n ns ih =>
    cases hn : n.isSpace with
    | true =>
      rw [aliasesAfter, if_pos hn, ih]
      simp
    | false =>
      obtain hspace | ⟨blanks, first, rest, rfl, hblanks, hfirst⟩ := space_or_solid done
      · rw [aliasesAfter, hn, if_neg Bool.false_ne_true]
        dsimp only
        rw [drop_takeWhile_of_space hspace]
        split_ifs <;> simp [ih]
      · rw [aliasesAfter_solid hblanks hfirst _ _ hn]
        split_ifs
        · rw [ih]
          simp [read_adopt (show Group.identifier ≠ .remark by decide)]
        · rw [ih]
          simp

lemma keeps_groupAliases : Keeps f groupAliases :=
  fun _ ns => readOf_aliasesAfter [] true ns

/-! ## Joins -/

lemma Join.read_extend {j : Join} (hj : j.sort ≠ .remark) (first : Node) (more : List Node) :
    (j.extend first more).read f inside = first.read f inside ++ readOf f inside more := by
  rw [Join.extend]
  split_ifs
  · exact read_adopt hj first more
  · exact read_group hj _

/-- What has been read, and what is still to be read behind the nodes that are owed, goes on. -/
lemma Join.Step.readOf {j : Join} (hj : j.sort ≠ .remark) {done done' : List Node} {owed owed' : Nat}
    {n : Node} {rest : List Node} (h : j.Step done owed n rest done' owed') :
    Node.readOf f inside done'.reverse ++ Node.readOf f inside (rest.drop owed')
      = Node.readOf f inside done.reverse ++ Node.readOf f inside ((n :: rest).drop owed) := by
  have here : owed ≤ 1 → Node.readOf f inside (if owed = 1 then done else n :: done).reverse
        ++ Node.readOf f inside rest
      = Node.readOf f inside done.reverse ++ Node.readOf f inside ((n :: rest).drop owed) := by
    intro howed
    split_ifs with hone
    · rw [hone, List.drop_succ_cons, List.drop_zero]
    · obtain rfl : owed = 0 := by omega
      simp
  cases h with
  | pass howed =>
    obtain ⟨k, rfl⟩ : ∃ k, owed = k + 1 := ⟨owed - 1, by omega⟩
    rw [List.drop_succ_cons, Nat.add_sub_cancel]
  | keep howed => exact here howed
  | @join skipped before first howed hhere =>
    have hrest : Node.readOf f inside (rest.take (j.reach rest))
        ++ Node.readOf f inside (rest.drop (j.reach rest)) = Node.readOf f inside rest := by
      rw [← readOf_append, List.take_append_drop]
    rw [← here howed, hhere, ← hrest]
    simp [Join.read_extend hj]

lemma Join.Ready.readOf {j : Join} (hj : j.sort ≠ .remark) {done : List Node} {last : Option Node}
    {owed : Nat} (h : j.Ready done last owed) (ns : List Node) :
    Node.readOf f inside (j.joinAfter done last owed ns)
      = Node.readOf f inside done.reverse ++ Node.readOf f inside (ns.drop owed) := by
  induction ns generalizing done last owed with
  | nil => simp [joinAfter]
  | cons n ns ih =>
    obtain ⟨done', last', owed', hstep, h', heq⟩ := h.exists_step n ns
    have heq := heq []
    rw [List.append_nil, List.append_nil] at heq
    rw [heq, ih h', hstep.readOf hj]

lemma Join.keeps_joinAfter {j : Join} (hj : j.sort ≠ .remark) :
    Keeps f (j.joinAfter [] none 0) := by
  have hready : j.Ready [] none 0 := by
    rintro (⟨h, -⟩ | h)
    · cases h
    · exact absurd h (Nat.lt_irrefl 0)
  exact fun _ ns => hready.readOf hj ns

lemma Join.keeps_everywhere {j : Join} (hj : j.sort ≠ .remark) (closed : Group → Bool) :
    Keeps f (j.everywhere closed) :=
  Keeps.everywhere fun _ => Join.keeps_joinAfter hj

lemma keeps_nameAll : Keeps f nameAll := by
  have windows : Keeps f (Node.everywhere (· == .window) fun _ => groupWindows) :=
    Keeps.everywhere fun _ => keeps_groupWindows
  have calls : Keeps f (Node.everywhere (· == .call) fun _ => groupCalls) :=
    Keeps.everywhere fun _ => keeps_groupCalls
  have conditions : Keeps f (Node.everywhere (· == .condition) groupConditions) :=
    Keeps.everywhere keeps_groupConditions
  have members : Keeps f memberJoin.all := Join.keeps_everywhere (by decide) _
  have elements : Keeps f (elementJoin.everywhere fun _ => true) :=
    Join.keeps_everywhere (by decide) _
  have names : Keeps f (Node.everywhere (· == .identifier) fun _ => groupNames) :=
    Keeps.everywhere fun _ => keeps_groupNames
  have orders : Keeps f (Node.everywhere (· == .identifier) fun _ => groupOrders) :=
    Keeps.everywhere fun _ => keeps_groupOrders
  have h := ((((windows.comp calls).comp conditions).comp (members.comp elements)).comp names).comp
    orders
  unfold nameAll
  exact h

lemma keeps_joinAll : Keeps f joinAll := by
  have signs : Keeps f fun ns => [castJoin, zoneJoin, literalJoin, unitJoin, operationJoin,
      equationJoin, aliasJoin].foldl (fun ns j => j.all ns) ns := by
    apply @Keeps.foldl _ _ _ Join.all
    intro j hj
    have hsort : j.sort ≠ .remark := by
      simp only [List.mem_cons, List.not_mem_nil, or_false] at hj
      obtain rfl | rfl | rfl | rfl | rfl | rfl | rfl := hj <;> decide
    exact Join.keeps_everywhere hsort _
  have aliases : Keeps f (Node.everywhere (fun _ => false) fun _ => groupAliases) :=
    Keeps.everywhere fun _ => keeps_groupAliases
  have bindings : Keeps f bindingJoin.all := Join.keeps_everywhere (by decide) _
  have h := (signs.comp aliases).comp bindings
  unfold joinAll
  exact h

/-! ## Comments -/

lemma read_space (hf : ∀ t : Token, t.isSpace = true → f true t = f false t) {n : Node}
    (hn : n.isSpace = true) (inside inside' : Bool) : n.read f inside = n.read f inside' := by
  cases n with
  | group => cases hn
  | leaf t =>
    have h := hf t hn
    cases inside <;> cases inside' <;> first | rfl | exact h | exact h.symm

lemma read_remark {n : Node} (hn : n.isGroupOf [.remark] = true) (inside inside' : Bool) :
    n.read f inside = n.read f inside' := by
  cases n with
  | leaf => cases hn
  | group g ns =>
    obtain rfl : g = .remark := List.mem_singleton.1 (List.contains_iff_mem.1 hn)
    rw [read, read, beq_self_eq_true, Bool.or_true, Bool.or_true]

lemma keeps_alignRemarks (hf : ∀ t : Token, t.isSpace = true → f true t = f false t) :
    Keeps f alignRemarks := by
  have blanks_eq : ∀ {blanks : List Node}, (∀ b ∈ blanks, b.isSpace = true) →
      ∀ inside inside', readOf f inside blanks = readOf f inside' blanks := by
    intro blanks hblanks inside inside'
    induction blanks with
    | nil => rfl
    | cons b blanks ih =>
      obtain ⟨hb, hblanks⟩ := List.forall_mem_cons.1 hblanks
      rw [readOf_cons, readOf_cons, ih hblanks, read_space hf hb inside inside']
  have step : ∀ {inside} done n, readOf f inside (remarkAfter done n).reverse
      = readOf f inside done.reverse ++ n.read f inside := by
    intro inside done n
    obtain hspace | ⟨blanks, first, rest, rfl, hblanks, hfirst⟩ := space_or_solid done
    · rw [remarkAfter]
      dsimp only
      rw [drop_takeWhile_of_space hspace]
      split_ifs <;> simp
    · rw [remarkAfter_solid hblanks hfirst]
      have plain : readOf f inside (n :: (blanks ++ first :: rest)).reverse
          = readOf f inside (blanks ++ first :: rest).reverse ++ n.read f inside := by
        simp
      cases hremark : n.isGroupOf [.remark] with
      | false => exact plain
      | true =>
        cases first with
        | leaf => exact plain
        | group g ns =>
          have hblanks' : ∀ b ∈ blanks.reverse, b.isSpace = true :=
            fun b hb => hblanks b (List.mem_reverse.1 hb)
          simp [read, read_remark hremark _ inside, blanks_eq hblanks' _ inside]
  have fold : ∀ {inside} ns done, readOf f inside (ns.foldl remarkAfter done).reverse
      = readOf f inside done.reverse ++ readOf f inside ns := by
    intro inside ns
    induction ns with
    | nil => simp
    | cons n ns ih =>
      intro done
      rw [List.foldl_cons, ih, step, readOf_cons, List.append_assoc]
  exact fun inside ns => fold ns []

/-- What is read off the tokens of a statement is the same in its outline. -/
theorem readOf_outline (hf : ∀ t : Token, t.isSpace = true → f true t = f false t) (inside : Bool)
    (ns : List Node) : readOf f inside (outline ns) = readOf f inside ns :=
  (((keeps_pairAll.comp keeps_nameAll).comp keeps_joinAll).comp
    (Keeps.everywhere fun _ => keeps_alignRemarks hf)) inside ns

end Reading

section Plain

variable {α : Type} {f : Token → List α}

/-- What does not depend on the groups of comments is read in the same way inside of them. -/
lemma readOf_plain (inside inside' : Bool) (ns : List Node) :
    readOf (fun _ => f) inside ns = readOf (fun _ => f) inside' ns := by
  have plain : ∀ n : Node, ∀ inside inside',
      n.read (fun _ => f) inside = n.read (fun _ => f) inside' := by
    intro n
    induction n using induct with
    | leaf t => exact fun _ _ => rfl
    | group g ns ih =>
      intro inside inside'
      rw [read, read, readOf_eq_flatMap, readOf_eq_flatMap]
      exact List.flatMap_congr fun n hn => ih n hn _ _
  rw [readOf_eq_flatMap, readOf_eq_flatMap]
  exact List.flatMap_congr fun n _ => plain n _ _

lemma readOf_gatherAfter (run : List Node) (ts : List Token) :
    readOf (fun _ => f) false (gatherAfter run ts)
      = readOf (fun _ => f) false run.reverse ++ ts.flatMap f := by
  have leaf : ∀ t : Token, (Node.leaf t).read (fun _ => f) false = f t := fun _ => rfl
  have group : ∀ ns, (Node.group .remark ns).read (fun _ => f) false
      = readOf (fun _ => f) false ns :=
    fun ns => readOf_plain _ _ ns
  induction ts generalizing run with
  | nil => simp [gatherAfter]
  | cons t ts ih =>
    rw [gatherAfter]
    split_ifs with _ hempty
    · simp [ih, leaf]
    · rw [List.isEmpty_iff.1 hempty]
      simp [ih, leaf]
    · simp [ih, leaf, group]

end Plain

/-- An outline holds the tokens of the statement, each of them once and in their order. -/
theorem tokens_outline (s : Statement) :
    readOf (fun _ t => [t]) false (outline (gather s)) = s := by
  rw [readOf_outline fun _ _ => rfl, gather, readOf_gatherAfter]
  simp

end QueryTutor.Query.Node
