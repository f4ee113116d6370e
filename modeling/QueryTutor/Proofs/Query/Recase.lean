import QueryTutor.Proofs.Query.Sequence
import QueryTutor.Proofs.Query.Uncap

/-!
# The case of tokens

A change of the case of letters inside of tokens leaves the outline of a statement as it is: every
pass that makes groups makes the same ones.  What it must not change is which tokens end a batch, and
which lists of nodes define a table.
-/

namespace QueryTutor.Query

open Text

namespace Token

/-- A change of the case of letters in tokens that ends no batch and lets no end of one go. -/
structure Recases (f : Token → Token) : Prop where
  kind : ∀ t, (f t).kind = t.kind
  uncap : ∀ t, Text.uncap (f t).text = Text.uncap t.text
  isBatchEnd : ∀ t, Progress.isBatchEnd (f t) = Progress.isBatchEnd t

namespace Recases

variable {f : Token → Token} (hf : Recases f)

include hf

lemma isSpace (t : Token) : (f t).isSpace = t.isSpace := by
  rw [Token.isSpace, Token.isSpace, hf.kind]

lemma isRemark (t : Token) : (f t).isRemark = t.isRemark := by
  rw [Token.isRemark, Token.isRemark, hf.kind]

lemma capitals (t : Token) : (f t).capitals = t.capitals := by
  rw [Token.capitals, Token.capitals, ← upper_uncap, hf.uncap, upper_uncap]

lemma isOneOf (t : Token) (words : List String) : (f t).isOneOf words = t.isOneOf words := by
  rw [Token.isOneOf, Token.isOneOf, hf.kind, hf.capitals]

lemma isLineComment (t : Token) : (f t).isLineComment = t.isLineComment := by
  have hhead : ((f t).text.head? == some '/') = (t.text.head? == some '/') := by
    rw [← head?_uncap_beq (a := '/') rfl, hf.uncap, head?_uncap_beq rfl]
  rw [Token.isLineComment, Token.isLineComment, hf.kind, bne, hhead, bne]

/-- A text without letters is what it is in either case. -/
lemma text_beq {a : List Char} (ha : ∀ c ∈ a, c.isAlpha = false) (t : Token) :
    ((f t).text == a) = (t.text == a) := by
  have huncap : ∀ u : List Char, u = a ↔ Text.uncap u = a := by
    intro u
    constructor
    · rintro rfl
      exact uncap_of_not_isAlpha ha
    · intro h
      exact eq_of_uncap_eq ha h
  rw [Bool.eq_iff_iff, beq_iff_eq, beq_iff_eq, huncap, hf.uncap, ← huncap]

/-- A token without letters stays as it is. -/
lemma eq_self {t : Token} (ht : ∀ c ∈ t.text, c.isAlpha = false) : f t = t := by
  have htext : (f t).text = t.text :=
    beq_iff_eq.1 ((hf.text_beq ht t).trans (beq_self_eq_true _))
  exact congrArg₂ Token.mk (hf.kind t) htext

end Recases

end Token

namespace Node

mutual

/-- The node with its tokens changed. -/
def recase (f : Token → Token) : Node → Node
  | .leaf t => .leaf (f t)
  | .group g ns => .group g (recaseAll f ns)

/-- The nodes with their tokens changed. -/
def recaseAll (f : Token → Token) : List Node → List Node
  | [] => []
  | n :: ns => n.recase f :: recaseAll f ns

end

lemma recaseAll_eq_map (f : Token → Token) (ns : List Node) :
    recaseAll f ns = ns.map (recase f) := by
  induction ns with
  | nil => rfl
  | cons n ns ih => rw [recaseAll, ih, List.map_cons]

@[simp]
lemma recase_leaf (f : Token → Token) (t : Token) : (leaf t).recase f = leaf (f t) := rfl

@[simp]
lemma recase_group (f : Token → Token) (g : Group) (ns : List Node) :
    (group g ns).recase f = group g (ns.map (recase f)) := by
  rw [recase, recaseAll_eq_map]

/-- The property of nodes does not depend on the change. -/
def Blind (f : Token → Token) (p : Node → Bool) : Prop :=
  ∀ n : Node, p (n.recase f) = p n

section Nodes

variable {f : Token → Token}

lemma blind_isGroupOf (gs : List Group) : Blind f (isGroupOf gs) := by
  intro n
  cases n with
  | leaf => rfl
  | group => rw [recase_group]; rfl

lemma blind_any_token? {p : Token → Bool} (hp : ∀ t, p (f t) = p t) :
    Blind f fun n => n.token?.any p := by
  intro n
  cases n with
  | leaf t => exact hp t
  | group => rw [recase_group]; rfl

variable (hf : Token.Recases f)

include hf

lemma blind_isLeafOf (ks : List Token.Kind) : Blind f (isLeafOf ks) :=
  blind_any_token? fun t => by rw [hf.kind]

lemma blind_isWordOf (words : List String) : Blind f (isWordOf words) :=
  blind_any_token? fun t => hf.isOneOf t words

lemma blind_isSpace : Blind f isSpace :=
  blind_any_token? hf.isSpace

end Nodes

lemma Blind.or {f : Token → Token} {p q : Node → Bool} (hp : Blind f p) (hq : Blind f q) :
    Blind f fun n => p n || q n :=
  fun n => congrArg₂ _ (hp n) (hq n)

lemma Blind.not {f : Token → Token} {p : Node → Bool} (hp : Blind f p) : Blind f fun n => !p n :=
  fun n => congrArg _ (hp n)

section Lists

variable {f : Token → Token} {p : Node → Bool}

lemma takeWhile_recase (hp : Blind f p) (ns : List Node) :
    (ns.map (recase f)).takeWhile p = (ns.takeWhile p).map (recase f) := by
  rw [List.takeWhile_map, show p ∘ recase f = p from funext hp]

lemma findIdx?_recase (hp : Blind f p) (ns : List Node) :
    (ns.map (recase f)).findIdx? p = ns.findIdx? p := by
  rw [List.findIdx?_map, show p ∘ recase f = p from funext hp]

lemma any_recase (hp : Blind f p) (ns : List Node) : (ns.map (recase f)).any p = ns.any p := by
  rw [List.any_map, show p ∘ recase f = p from funext hp]

lemma any_map_recase (hp : Blind f p) (n : Option Node) : (n.map (recase f)).any p = n.any p := by
  cases n with
  | none => rfl
  | some n => exact hp n

lemma adopt_recase (g : Group) (first : Node) (more : List Node) :
    adopt g (first.recase f) (more.map (recase f)) = (adopt g first more).recase f := by
  cases first with
  | leaf t => simp [adopt]
  | group h ns =>
    rw [recase_group, adopt, adopt]
    split_ifs <;> simp

variable (hf : Token.Recases f)

include hf

lemma nextSolid?_recase (ns : List Node) :
    nextSolid? (ns.map (recase f)) = (nextSolid? ns).map (Prod.map (recase f) id) := by
  rw [nextSolid?, nextSolid?, takeWhile_recase (blind_isSpace hf), List.length_map, ← List.map_drop,
    List.head?_map, Option.map_map, Option.map_map]
  rfl

end Lists

/-! ## Passes -/

/-- The tokens of some nodes fit. -/
def Fits (Fit : Token → Prop) (ns : List Node) : Prop :=
  ∀ t ∈ readOf (fun _ t => [t]) false ns, Fit t

/-- The pass makes of the changed nodes what the change makes of its nodes, as long as the tokens
fit, and keeps the tokens. -/
structure Even (f : Token → Token) (Fit : Token → Prop) (pass : List Node → List Node) : Prop where
  keeps : Keeps (fun _ t => [t]) pass
  map : ∀ {ns}, Fits Fit ns → pass (ns.map (recase f)) = (pass ns).map (recase f)

section Passes

variable {f : Token → Token} {Fit : Token → Prop}

lemma Fits.keep {pass : List Node → List Node} (h : Keeps (fun _ t => [t]) pass) {ns : List Node}
    (hns : Fits Fit ns) : Fits Fit (pass ns) := by
  rw [Fits, h]
  exact hns

lemma Fits.group {ns ms : List Node} {g : Group} (h : Fits Fit ns) (hmem : .group g ms ∈ ns) :
    Fits Fit ms := by
  intro t ht
  refine h t (mem_readOf.2 ⟨_, hmem, ?_⟩)
  rw [read, readOf_plain _ false]
  exact ht

lemma Even.comp {pass pass' : List Node → List Node} (h : Even f Fit pass)
    (h' : Even f Fit pass') : Even f Fit fun ns => pass' (pass ns) where
  keeps := h.keeps.comp h'.keeps
  map hns := by rw [h.map hns, h'.map (hns.keep h.keeps)]

lemma Even.foldl {α : Type} {pass : α → List Node → List Node} {as : List α}
    (h : ∀ a ∈ as, Even f Fit (pass a)) :
    Even f Fit fun ns => as.foldl (fun ns a => pass a ns) ns := by
  induction as with
  | nil => exact ⟨fun _ _ => rfl, fun _ => rfl⟩
  | cons a as ih =>
    obtain ⟨ha, has⟩ := List.forall_mem_cons.1 h
    exact ha.comp (ih has)

lemma Fits.singleton {ns : List Node} (h : Fits Fit ns) {n : Node} (hn : n ∈ ns) :
    Fits Fit [n] := by
  intro t ht
  rw [readOf_cons, readOf_nil, List.append_nil] at ht
  exact h t (mem_readOf.2 ⟨n, hn, ht⟩)

section Rebuilding

variable {closed : Group → Bool} {pass : Option Group → List Node → List Node}

lemma Fits.rebuild (h : ∀ g, Even f Fit (pass g)) {ns : List Node} (hns : Fits Fit ns) :
    Fits Fit (ns.map (Node.rebuild closed pass)) := by
  rw [Fits, readOf_map fun n _ => read_rebuild (fun g => (h g).keeps) false n]
  exact hns

lemma map_rebuild_recase {ns : List Node}
    (h : ∀ n ∈ ns, (n.recase f).rebuild closed pass = (n.rebuild closed pass).recase f) :
    (ns.map (recase f)).map (rebuild closed pass)
      = (ns.map (rebuild closed pass)).map (recase f) := by
  rw [List.map_map, List.map_map]
  exact List.map_congr_left h

lemma rebuild_recase (h : ∀ g, Even f Fit (pass g)) {n : Node} (hn : Fits Fit [n]) :
    (n.recase f).rebuild closed pass = (n.rebuild closed pass).recase f := by
  induction n using induct with
  | leaf t => rfl
  | group g ns ih =>
    have hns : Fits Fit ns := hn.group List.mem_cons_self
    rw [recase_group, rebuild, rebuild]
    split_ifs
    · rw [recase_group]
    · -- the tokens of the group fit, and still do once its own groups have been rebuilt
      rw [rebuildAll_eq_map, rebuildAll_eq_map,
        map_rebuild_recase fun n hmem => ih n hmem (hns.singleton hmem), (h _).map (hns.rebuild h),
        recase_group]

/-- A pass that works on one list does so when it is done everywhere. -/
lemma Even.everywhere (h : ∀ g, Even f Fit (pass g)) : Even f Fit (everywhere closed pass) where
  keeps := Keeps.everywhere fun g => (h g).keeps
  map hns := by
    rw [Node.everywhere, Node.everywhere, rebuildAll_eq_map, rebuildAll_eq_map,
      map_rebuild_recase fun n hmem => rebuild_recase h (hns.singleton hmem),
      (h none).map (hns.rebuild h)]

end Rebuilding

/-- A pass from right to left works on the changed nodes as it does on the nodes if each of its steps
does. -/
lemma foldr_recase {step : Node → List Node → List Node}
    (h : ∀ n rest, step (n.recase f) (rest.map (recase f)) = (step n rest).map (recase f))
    (ns : List Node) : (ns.map (recase f)).foldr step [] = (ns.foldr step []).map (recase f) := by
  induction ns with
  | nil => rfl
  | cons n ns ih => rw [List.map_cons, List.foldr_cons, ih, h, List.foldr_cons]

/-- A pass from left to right does so as well. -/
lemma foldl_recase {step : List Node → Node → List Node}
    (h : ∀ done n, step (done.map (recase f)) (n.recase f) = (step done n).map (recase f))
    (ns done : List Node) :
    (ns.map (recase f)).foldl step (done.map (recase f)) = (ns.foldl step done).map (recase f) := by
  induction ns generalizing done with
  | nil => rfl
  | cons n ns ih => rw [List.map_cons, List.foldl_cons, h, ih, List.foldl_cons]

/-! ### Pairs -/

lemma pairAfter_recase {pair : Pair} (hopening : Blind f pair.isOpening)
    (hclosing : Blind f pair.isClosing) (ns current : List Node) (outer : List (List Node)) :
    pairAfter pair (current.map (recase f)) (outer.map (List.map (recase f))) (ns.map (recase f))
      = (pairAfter pair current outer ns).map (recase f) := by
  induction ns generalizing current outer with
  | nil =>
    rw [List.map_nil, pairAfter, pairAfter, foldl_append_flatten, foldl_append_flatten,
      ← List.map_flatten, ← List.map_append, List.map_reverse]
  | cons n ns ih =>
    simp only [List.map_cons, pairAfter, hopening n, hclosing n]
    split_ifs
    · exact ih [n] (current :: outer)
    · cases outer with
      | nil => exact ih (n :: current) []
      | cons around outer =>
        rw [← ih, List.map_cons, List.map_cons, recase_group, List.map_reverse, List.map_cons]
    · exact ih (n :: current) outer

lemma even_pairUp {pair : Pair} (hopening : Blind f pair.isOpening)
    (hclosing : Blind f pair.isClosing) (hsort : pair.sort ≠ .remark) :
    Even f Fit (pairUp pair) :=
  Even.everywhere fun _ =>
    ⟨fun _ ns => readOf_pairAfter hsort [] [] ns, fun _ => pairAfter_recase hopening hclosing _ [] []⟩

lemma even_pairAll (hf : Token.Recases f) : Even f Fit pairAll := by
  have brackets : Even f Fit (pairUp bracketPair) :=
    even_pairUp (blind_isLeafOf hf _) (blind_isLeafOf hf _) (by decide)
  have parentheses : Even f Fit (pairUp parenthesisPair) :=
    even_pairUp (blind_isLeafOf hf _) (blind_isLeafOf hf _) (by decide)
  have words : ∀ pair ∈ wordPairs, Even f Fit (pairUp pair) := by
    intro pair hpair
    simp only [wordPairs, List.mem_cons, List.not_mem_nil, or_false] at hpair
    obtain rfl | rfl | rfl | rfl := hpair <;>
      exact even_pairUp (blind_isWordOf hf _) (blind_isWordOf hf _) (by decide)
  exact (brackets.comp parentheses).comp (.foldl words)

/-! ### Phrases -/

lemma withNext_recase (g : Group) (n : Node) (k : Nat) (rest : List Node) :
    withNext g (n.recase f) k (rest.map (recase f)) = (withNext g n k rest).map (recase f) := by
  rw [withNext, withNext, List.map_cons, recase_group, List.map_cons, List.map_take, List.map_drop]

/-- White space at the end of what has been read, and what stands before it. -/
lemma drop_takeWhile_recase (hf : Token.Recases f) (done : List Node) :
    (done.map (recase f)).drop ((done.map (recase f)).takeWhile isSpace).length
      = (done.drop (done.takeWhile isSpace).length).map (recase f) := by
  rw [takeWhile_recase (blind_isSpace hf), List.length_map, List.map_drop]

section Phrases

variable (hf : Token.Recases f)

include hf

lemma even_groupWindows : Even f Fit groupWindows where
  keeps := keeps_groupWindows
  map {ns} _ := by
    refine foldr_recase (fun n rest => ?_) ns
    rw [blind_isWordOf hf, nextSolid?_recase hf]
    split_ifs
    · cases nextSolid? rest with
      | none => rfl
      | some x =>
        obtain ⟨m, place⟩ := x
        change (if (m.recase f).isGroupOf _ || (m.recase f).isAnyName then _ else _)
          = List.map _ (if m.isGroupOf _ || m.isAnyName then _ else _)
        rw [blind_isGroupOf, isAnyName, blind_isLeafOf hf, withNext_recase]
        split_ifs <;> rfl
    · rfl

lemma callReach_recase (behind : List Node) :
    callReach (behind.map (recase f)) = callReach behind := by
  rw [callReach, callReach, nextSolid?_recase hf]
  cases nextSolid? behind with
  | none => rfl
  | some x =>
    obtain ⟨m, place⟩ := x
    rw [Option.map_some, Prod.map_apply]
    dsimp only
    rw [blind_isGroupOf, id, ← List.map_drop, nextSolid?_recase hf]
    cases nextSolid? (behind.drop (place + 1)) with
    | none => rfl
    | some y =>
      obtain ⟨w, further⟩ := y
      rw [Option.map_some, Prod.map_apply]
      dsimp only
      rw [blind_isGroupOf, id]

/-- Calls are found in the same places where the same lists define tables. -/
lemma even_groupCalls
    (hdefines : ∀ ns, Fits Fit ns → definesTable (ns.map (recase f)) = definesTable ns) :
    Even f Fit groupCalls where
  keeps := keeps_groupCalls
  map {ns} hns := by
    rw [groupCalls, groupCalls, hdefines ns hns]
    split_ifs
    · rfl
    · refine foldr_recase (fun n rest => ?_) ns
      rw [isAnyName, blind_isLeafOf hf, callReach_recase hf, withNext_recase]
      split_ifs <;> rfl

lemma conditionsAfter_recase (done : List Node) (condition : Option (List Node)) (ns : List Node) :
    conditionsAfter (done.map (recase f)) (condition.map (List.map (recase f))) (ns.map (recase f))
      = (conditionsAfter done condition ns).map (recase f) := by
  induction ns generalizing done condition with
  | nil =>
    cases condition with
    | none => exact List.map_reverse.symm
    | some inside => simp [conditionsAfter]
  | cons n ns ih =>
    cases condition with
    | none =>
      rw [List.map_cons, Option.map_none, conditionsAfter, conditionsAfter, blind_isWordOf hf]
      split_ifs
      · exact ih done (some [n])
      · exact ih (n :: done) none
    | some inside =>
      rw [List.map_cons, Option.map_some, conditionsAfter, conditionsAfter, blind_isWordOf hf]
      split_ifs
      · rw [← ih, List.map_cons, List.map_cons, recase_group, List.map_reverse]
        rfl
      · exact ih done (some (n :: inside))

lemma even_groupConditions (around : Option Group) : Even f Fit (groupConditions around) where
  keeps := keeps_groupConditions around
  map {ns} _ := by
    have conditions := fun ns : List Node => conditionsAfter_recase hf [] none ns
    simp only [List.map_nil, Option.map_none] at conditions
    rw [groupConditions, groupConditions]
    split_ifs
    · rw [← List.map_dropLast, conditions, List.length_map, ← List.map_drop, List.map_append]
    · exact conditions ns

lemma even_groupNames : Even f Fit groupNames where
  keeps := keeps_groupNames
  map {ns} _ := by
    rw [groupNames, groupNames, List.map_map, List.map_map]
    refine List.map_congr_left fun n _ => ?_
    rw [Function.comp_apply, Function.comp_apply, blind_isLeafOf hf]
    split_ifs
    · rw [recase_group]
      rfl
    · rfl

lemma orderAfter_recase (done : List Node) (n : Node) :
    orderAfter (done.map (recase f)) (n.recase f) = (orderAfter done n).map (recase f) := by
  rw [orderAfter, orderAfter, blind_isLeafOf hf]
  dsimp only
  rw [drop_takeWhile_recase hf, takeWhile_recase (blind_isSpace hf)]
  split_ifs
  · cases done.drop (done.takeWhile isSpace).length with
    | nil => rfl
    | cons first rest =>
      rw [List.map_cons]
      dsimp only
      rw [blind_isGroupOf, blind_isLeafOf hf]
      split_ifs
      · simp
      · rfl
  · rfl

lemma even_groupOrders : Even f Fit groupOrders where
  keeps := keeps_groupOrders
  map {ns} _ := by
    rw [groupOrders, groupOrders, List.map_reverse, ← foldl_recase (orderAfter_recase hf)]
    rfl

lemma blind_takesAlias : Blind f takesAlias :=
  (blind_isGroupOf _).or (blind_isLeafOf hf _)

lemma aliasesAfter_recase (done : List Node) (free : Bool) (ns : List Node) :
    aliasesAfter (done.map (recase f)) free (ns.map (recase f))
      = (aliasesAfter done free ns).map (recase f) := by
  induction ns generalizing done free with
  | nil => exact List.map_reverse.symm
  | cons n ns ih =>
    rw [List.map_cons, aliasesAfter, aliasesAfter, blind_isSpace hf, blind_isGroupOf]
    dsimp only
    rw [drop_takeWhile_recase hf, takeWhile_recase (blind_isSpace hf)]
    split_ifs
    · exact ih (n :: done) free
    · cases done.drop (done.takeWhile isSpace).length with
      | nil => exact ih (n :: done) true
      | cons first rest =>
        rw [List.map_cons]
        dsimp only
        rw [blind_takesAlias hf]
        split_ifs
        · rw [← ih, List.map_cons, ← adopt_recase, List.map_append, List.map_reverse]
          rfl
        · exact ih (n :: done) true
    · exact ih (n :: done) true

lemma even_groupAliases : Even f Fit groupAliases where
  keeps := keeps_groupAliases
  map {ns} _ := aliasesAfter_recase hf [] true ns

lemma remarkAfter_recase (done : List Node) (n : Node) :
    remarkAfter (done.map (recase f)) (n.recase f) = (remarkAfter done n).map (recase f) := by
  rw [remarkAfter, remarkAfter, blind_isGroupOf]
  dsimp only
  rw [drop_takeWhile_recase hf, takeWhile_recase (blind_isSpace hf)]
  split_ifs
  · cases done.drop (done.takeWhile isSpace).length with
    | nil => rfl
    | cons first rest =>
      cases first with
      | leaf t => rfl
      | group g ns => simp
  · rfl

lemma even_alignRemarks : Even f Fit alignRemarks where
  keeps := keeps_alignRemarks fun _ _ => rfl
  map {ns} _ := by
    rw [alignRemarks, alignRemarks, List.map_reverse, ← foldl_recase (remarkAfter_recase hf)]
    rfl

end Phrases

/-! ### Joins -/

/-- What is joined does not depend on the change. -/
structure Join.IsBlind (f : Token → Token) (j : Join) : Prop where
  joins : Blind f j.joins
  fitsBefore : Blind f j.fitsBefore
  fitsBehind : ∀ n : Option Node, j.fitsBehind (n.map (recase f)) = j.fitsBehind n
  takesBehind : Blind f j.takesBehind
  reaches : Blind f j.reaches

section Joins

variable (hf : Token.Recases f) {j : Join}

lemma Join.extend_recase (first : Node) (more : List Node) :
    j.extend (first.recase f) (more.map (recase f)) = (j.extend first more).recase f := by
  rw [Join.extend, Join.extend]
  split_ifs
  · exact adopt_recase j.sort first more
  · rw [recase_group, List.map_cons]

lemma Join.close_recase (k : Nat) (done behind : List Node) :
    j.close k (done.map (recase f)) (behind.map (recase f))
      = (j.close k done behind).map (recase f) := by
  rw [Join.close, Join.close, ← List.map_drop]
  cases done.drop k with
  | nil => rfl
  | cons first rest =>
    rw [List.map_cons]
    dsimp only
    rw [← List.map_take, ← List.map_reverse, ← List.map_append, Join.extend_recase, List.map_cons]

include hf

lemma Join.reach_recase (hj : j.IsBlind f) (behind : List Node) :
    j.reach (behind.map (recase f)) = j.reach behind := by
  rw [Join.reach, Join.reach, nextSolid?_recase hf]
  cases nextSolid? behind with
  | none => rfl
  | some x =>
    obtain ⟨n, place⟩ := x
    rw [Option.map_some, Prod.map_apply]
    dsimp only
    rw [hj.takesBehind, id, ← List.map_drop, findIdx?_recase hj.reaches]

lemma Join.joinAfter_recase (hj : j.IsBlind f) (ns done : List Node) (last : Option Node)
    (owed : Nat) :
    j.joinAfter (done.map (recase f)) (last.map (recase f)) owed (ns.map (recase f))
      = (j.joinAfter done last owed ns).map (recase f) := by
  induction ns generalizing done last owed with
  | nil => exact List.map_reverse.symm
  | cons n rest ih =>
    have hnext : (nextSolid? (rest.map (recase f))).map (·.1)
        = ((nextSolid? rest).map (·.1)).map (recase f) := by
      rw [nextSolid?_recase hf, Option.map_map, Option.map_map]
      rfl
    have hblanks : ((done.map (recase f)).takeWhile isSpace).length
        = (done.takeWhile isSpace).length := by
      rw [takeWhile_recase (blind_isSpace hf), List.length_map]
    have hhere : (if owed = 1 then done.map (recase f) else n.recase f :: done.map (recase f))
        = (if owed = 1 then done else n :: done).map (recase f) := by
      split_ifs <;> rfl
    rw [List.map_cons, joinAfter, joinAfter, hhere, hnext, hj.joins, any_map_recase hj.fitsBefore,
      hj.fitsBehind, blind_isSpace hf, hblanks, Join.reach_recase hf hj, ← List.map_take]
    dsimp only
    rw [Join.close_recase, List.head?_map]
    -- the conditions are the same by now; what is carried on differs by the change
    generalize (if owed = 1 then done else n :: done) = here
    generalize (if (decide (owed = 1) || !j.takesBefore) = true then 0
      else (done.takeWhile isSpace).length + 1) = back
    split_ifs
    · exact ih done last (owed - 1)
    · exact ih here last 0
    · exact ih _ _ _
    · exact ih here (some n) 0

lemma Join.even_everywhere (hj : j.IsBlind f) (hsort : j.sort ≠ .remark) (closed : Group → Bool) :
    Even f Fit (j.everywhere closed) :=
  Even.everywhere fun _ =>
    ⟨Join.keeps_joinAfter hsort, fun _ => Join.joinAfter_recase hf hj _ [] none 0⟩

lemma blind_isPlainValue : Blind f isPlainValue :=
  blind_isLeafOf hf _

lemma blind_isNamed : Blind f isNamed :=
  (blind_isGroupOf _).or (blind_isLeafOf hf _)

lemma blind_isOperand : Blind f isOperand :=
  ((blind_isGroupOf _).or (blind_isPlainValue hf)).or (blind_isWordOf hf _)

lemma blind_isSide : Blind f isSide :=
  ((blind_isGroupOf _).or (blind_isPlainValue hf)).or (blind_isWordOf hf _)

lemma isBlind_memberJoin : memberJoin.IsBlind f where
  joins := (blind_isLeafOf hf _).or (blind_any_token? fun t => by
    rw [hf.kind, hf.text_beq (not_isAlpha_of_all rfl), hf.text_beq (not_isAlpha_of_all rfl)])
  fitsBefore := blind_isNamed hf
  fitsBehind _ := rfl
  takesBehind := (blind_isNamed hf).or (blind_isLeafOf hf _)
  reaches _ := rfl

lemma isBlind_elementJoin : elementJoin.IsBlind f where
  joins := blind_isGroupOf _
  fitsBefore := (blind_isNamed hf).or (blind_isGroupOf _)
  fitsBehind _ := rfl
  takesBehind _ := rfl
  reaches _ := rfl

lemma isBlind_castJoin : castJoin.IsBlind f where
  joins := blind_isLeafOf hf _
  fitsBefore _ := rfl
  fitsBehind _ := Option.isSome_map
  takesBehind _ := rfl
  reaches _ := rfl

lemma isBlind_zoneJoin : zoneJoin.IsBlind f where
  joins := blind_isLeafOf hf _
  fitsBefore _ := rfl
  fitsBehind := any_map_recase ((blind_isWordOf hf _).or (blind_isLeafOf hf _))
  takesBehind _ := rfl
  reaches _ := rfl

lemma isBlind_literalJoin : literalJoin.IsBlind f where
  joins := (blind_isLeafOf hf _).or (blind_isWordOf hf _)
  fitsBefore _ := rfl
  fitsBehind := any_map_recase (blind_isLeafOf hf _)
  takesBehind _ := rfl
  reaches _ := rfl

lemma isBlind_unitJoin : unitJoin.IsBlind f where
  joins := blind_isGroupOf _
  fitsBefore _ := rfl
  fitsBehind := any_map_recase (blind_isWordOf hf _)
  takesBehind _ := rfl
  reaches _ := rfl

lemma isBlind_operationJoin : operationJoin.IsBlind f where
  joins := blind_isLeafOf hf _
  fitsBefore := blind_isOperand hf
  fitsBehind := any_map_recase (blind_isOperand hf)
  takesBehind _ := rfl
  reaches _ := rfl

lemma isBlind_equationJoin : equationJoin.IsBlind f where
  joins := blind_isLeafOf hf _
  fitsBefore := blind_isSide hf
  fitsBehind := any_map_recase (blind_isSide hf)
  takesBehind _ := rfl
  reaches _ := rfl

lemma isBlind_aliasJoin : aliasJoin.IsBlind f where
  joins := blind_isWordOf hf _
  fitsBefore := (blind_isWordOf hf _).or (blind_any_token? fun t => by rw [hf.kind]).not
  fitsBehind := any_map_recase (blind_isLeafOf hf _).not
  takesBehind _ := rfl
  reaches _ := rfl

lemma isBlind_bindingJoin : bindingJoin.IsBlind f where
  joins := blind_isLeafOf hf _
  fitsBefore := (blind_isLeafOf hf _).not
  fitsBehind := any_map_recase (blind_isLeafOf hf _).not
  takesBehind _ := rfl
  reaches := blind_isLeafOf hf _

end Joins

/-! ### Outlines -/

section Outlines

variable (hf : Token.Recases f)

include hf

lemma even_nameAll
    (hdefines : ∀ ns, Fits Fit ns → definesTable (ns.map (recase f)) = definesTable ns) :
    Even f Fit nameAll := by
  have windows : Even f Fit (Node.everywhere (· == .window) fun _ => groupWindows) :=
    Even.everywhere fun _ => even_groupWindows hf
  have calls : Even f Fit (Node.everywhere (· == .call) fun _ => groupCalls) :=
    Even.everywhere fun _ => even_groupCalls hf hdefines
  have conditions : Even f Fit (Node.everywhere (· == .condition) groupConditions) :=
    Even.everywhere (even_groupConditions hf)
  have members : Even f Fit memberJoin.all :=
    Join.even_everywhere hf (isBlind_memberJoin hf) (by decide) _
  have elements : Even f Fit (elementJoin.everywhere fun _ => true) :=
    Join.even_everywhere hf (isBlind_elementJoin hf) (by decide) _
  have names : Even f Fit (Node.everywhere (· == .identifier) fun _ => groupNames) :=
    Even.everywhere fun _ => even_groupNames hf
  have orders : Even f Fit (Node.everywhere (· == .identifier) fun _ => groupOrders) :=
    Even.everywhere fun _ => even_groupOrders hf
  have h := ((((windows.comp calls).comp conditions).comp (members.comp elements)).comp names).comp
    orders
  unfold nameAll
  exact h

lemma even_joinAll : Even f Fit joinAll := by
  have signs : Even f Fit fun ns => [castJoin, zoneJoin, literalJoin, unitJoin, operationJoin,
      equationJoin, aliasJoin].foldl (fun ns j => j.all ns) ns := by
    apply @Even.foldl _ _ _ Join.all
    intro j hj
    obtain ⟨hblind, hsort⟩ : j.IsBlind f ∧ j.sort ≠ .remark := by
      simp only [List.mem_cons, List.not_mem_nil, or_false] at hj
      obtain rfl | rfl | rfl | rfl | rfl | rfl | rfl := hj
      · exact ⟨isBlind_castJoin hf, by decide⟩
      · exact ⟨isBlind_zoneJoin hf, by decide⟩
      · exact ⟨isBlind_literalJoin hf, by decide⟩
      · exact ⟨isBlind_unitJoin hf, by decide⟩
      · exact ⟨isBlind_operationJoin hf, by decide⟩
      · exact ⟨isBlind_equationJoin hf, by decide⟩
      · exact ⟨isBlind_aliasJoin hf, by decide⟩
    exact Join.even_everywhere hf hblind hsort _
  have aliases : Even f Fit (Node.everywhere (fun _ => false) fun _ => groupAliases) :=
    Even.everywhere fun _ => even_groupAliases hf
  have bindings : Even f Fit bindingJoin.all :=
    Join.even_everywhere hf (isBlind_bindingJoin hf) (by decide) _
  have h := (signs.comp aliases).comp bindings
  unfold joinAll
  exact h

/-- The outline of changed nodes is the outline of the nodes, changed. -/
theorem even_outline
    (hdefines : ∀ ns, Fits Fit ns → definesTable (ns.map (recase f)) = definesTable ns) :
    Even f Fit outline := by
  have remarks : Even f Fit (Node.everywhere (· == .remark) fun _ => alignRemarks) :=
    Even.everywhere fun _ => even_alignRemarks hf
  have h := (((even_pairAll hf).comp (even_nameAll hf hdefines)).comp (even_joinAll hf)).comp remarks
  unfold outline
  exact h

lemma gatherAfter_recase (run : List Node) (ts : List Token) :
    gatherAfter (run.map (recase f)) (ts.map f) = (gatherAfter run ts).map (recase f) := by
  induction ts generalizing run with
  | nil => exact List.map_reverse.symm
  | cons t ts ih =>
    have hnil := ih []
    rw [List.map_nil] at hnil
    rw [List.map_cons, gatherAfter, gatherAfter, hf.isRemark, hf.kind, List.isEmpty_map]
    split_ifs
    · exact ih (.leaf t :: run)
    · rw [hnil]
      rfl
    · rw [hnil, List.map_cons, List.map_cons, recase_group, List.map_reverse]
      rfl

end Outlines

end Passes

end Node

end QueryTutor.Query
