import QueryTutor.Proofs.Query.Recase
import QueryTutor.Query.Comment

/-!
# The letter case of a query

Two queries that differ in the case of their letters come to one canonical form, as long as the ends
of batches are ends of batches in both of them, and where a table can be created the words `AS` are
written in the same way.
-/

namespace QueryTutor.Query

open Text

/-! ## Statements -/

section Statements

variable {f : Token → Token} (hf : Token.Recases f)

include hf

namespace Progress

lemma isIdle_recase (t : Token) : isIdle (f t) = isIdle t := by
  rw [isIdle, isIdle, hf.isSpace, hf.isRemark]

lemma dropWhile_isIdle_recase (ts : List Token) :
    (ts.map f).dropWhile isIdle = (ts.dropWhile isIdle).map f := by
  rw [List.dropWhile_map, show isIdle ∘ f = isIdle from funext (isIdle_recase hf)]

lemma asksExistence_recase (ts : List Token) : asksExistence (ts.map f) = asksExistence ts := by
  rw [asksExistence, asksExistence, dropWhile_isIdle_recase hf]
  cases ts.dropWhile isIdle with
  | nil => rfl
  | cons t more =>
    rw [List.map_cons]
    dsimp only
    rw [dropWhile_isIdle_recase hf, List.head?_map, Option.any_map]
    simp only [hf.capitals]

lemma afterWord_recase (p : Progress) (t : Token) (ts : List Token) :
    p.afterWord (f t) (ts.map f) = p.afterWord t ts := by
  simp only [afterWord, opensTransaction, afterKeyword, hf.kind, hf.capitals, hf.isOneOf,
    asksExistence_recase hf]

lemma step_recase (p : Progress) (t : Token) (ts : List Token) :
    p.step (f t) (ts.map f) = p.step t ts := by
  rw [step, step, afterWord_recase hf, hf.kind, hf.isBatchEnd, hf.isSpace, hf.isOneOf]

end Progress

namespace Statement

lemma splitAfter_recase (ts : List Token) (current : Statement) (p : Progress) (ended : Bool) :
    splitAfter (current.map f) p ended (ts.map f)
      = (splitAfter current p ended ts).map (List.map f) := by
  induction ts generalizing current p ended with
  | nil =>
    have hspace : (fun t : Token => t.isSpace) ∘ f = fun t => t.isSpace := funext hf.isSpace
    rw [List.map_nil, splitAfter, splitAfter, List.all_map, hspace]
    split_ifs
    · rfl
    · rw [List.map_cons, List.map_reverse, List.map_nil]
  | cons t ts ih =>
    rw [List.map_cons, splitAfter, splitAfter]
    dsimp only
    rw [hf.kind, hf.isLineComment, Progress.step_recase hf]
    split_ifs
    · rw [List.map_cons, List.map_reverse, ← ih]
      rfl
    · rw [← ih]
      rfl

/-- The tokens of a text whose case is changed are cut into statements in the same places. -/
lemma split_recase (ts : List Token) : split (ts.map f) = (split ts).map (List.map f) :=
  splitAfter_recase hf ts [] {} false

omit hf in
lemma mem_of_mem_splitAfter {s : Statement} {t : Token} (ht : t ∈ s) {ts : List Token}
    {current : Statement} {p : Progress} {ended : Bool} (hs : s ∈ splitAfter current p ended ts) :
    t ∈ current ∨ t ∈ ts := by
  induction ts generalizing current p ended with
  | nil =>
    rw [splitAfter] at hs
    split_ifs at hs
    · cases hs
    · rw [List.mem_singleton.1 hs] at ht
      exact .inl (List.mem_reverse.1 ht)
  | cons u ts ih =>
    rw [splitAfter] at hs
    dsimp only at hs
    split_ifs at hs
    · obtain rfl | hs := List.mem_cons.1 hs
      · exact .inl (List.mem_reverse.1 ht)
      · obtain h | h := ih hs
        · exact .inr (List.mem_singleton.1 h ▸ List.mem_cons_self)
        · exact .inr (List.mem_cons_of_mem _ h)
    · obtain h | h := ih hs
      · obtain rfl | h := List.mem_cons.1 h
        · exact .inr List.mem_cons_self
        · exact .inl h
      · exact .inr (List.mem_cons_of_mem _ h)

omit hf in
lemma mem_of_mem_split {s : Statement} {t : Token} (ht : t ∈ s) {ts : List Token}
    (hs : s ∈ split ts) : t ∈ ts :=
  (mem_of_mem_splitAfter ht hs).resolve_left (List.not_mem_nil)

end Statement

/-! ## Taking comments out -/

namespace Node

omit hf in
lemma uncap_textOf {ns : List Node} (h : ∀ n ∈ ns, uncap (n.recase f).text = uncap n.text) :
    uncap (textOf (ns.map (recase f))) = uncap (textOf ns) := by
  induction ns with
  | nil => rfl
  | cons n ns ih =>
    obtain ⟨hn, hns⟩ := List.forall_mem_cons.1 h
    rw [List.map_cons, textOf, textOf, uncap_append, uncap_append, hn, ih hns]

/-- The change of tokens is a change of case for the texts of nodes. -/
lemma uncap_text_recase (n : Node) : uncap (n.recase f).text = uncap n.text := by
  induction n using induct with
  | leaf t => exact hf.uncap t
  | group g ns ih =>
    rw [recase_group, text, text]
    exact uncap_textOf ih

lemma uncap_textOf_recase (ns : List Node) :
    uncap (textOf (ns.map (recase f))) = uncap (textOf ns) :=
  uncap_textOf fun n _ => uncap_text_recase hf n

omit hf in
lemma depthOf_map {m : Node → Node} {ns : List Node} (h : ∀ n ∈ ns, (m n).depth = n.depth) :
    depthOf (ns.map m) = depthOf ns := by
  induction ns with
  | nil => rfl
  | cons n ns ih =>
    obtain ⟨hn, hns⟩ := List.forall_mem_cons.1 h
    rw [List.map_cons, depthOf, depthOf, hn, ih hns]

omit hf in
lemma depth_recase (n : Node) : (n.recase f).depth = n.depth := by
  induction n using induct with
  | leaf t => rfl
  | group g ns ih => rw [recase_group, depth, depth, depthOf_map ih]

lemma blind_isComment : Blind f isComment := by
  intro n
  cases n with
  | leaf t =>
    rw [recase_leaf, isComment, isComment, hf.kind]
  | group g ns =>
    rw [recase_group, isComment, isComment, List.head?_map, any_map_recase (blind_isLeafOf hf _)]

omit hf in
lemma not_isAlpha_of_isBreak {c : Char} (h : (c == '\r' || c == '\n') = true) :
    c.isAlpha = false := by
  obtain rfl | rfl : c = '\r' ∨ c = '\n' := by simpa using h
  · rfl
  · rfl

omit hf in
/-- What a comment leaves does not depend on the case of its text. -/
lemma spaceFor_congr {m n : Node} (h : uncap m.text = uncap n.text) : spaceFor m = spaceFor n := by
  have hspace : Text.Blind (· == ' ') := beq_toLower rfl
  have hbreak : Text.Blind fun c => c == '\r' || c == '\n' :=
    Text.Blind.or (beq_toLower rfl) (beq_toLower rfl)
  have hends : ∀ t : List Char,
      ((uncap t).reverse.dropWhile (· == ' ')).takeWhile (fun c => c == '\r' || c == '\n')
        = (t.reverse.dropWhile (· == ' ')).takeWhile fun c => c == '\r' || c == '\n' := by
    intro t
    rw [reverse_uncap, dropWhile_uncap hspace, takeWhile_uncap hbreak]
    refine uncap_of_not_isAlpha fun c hc => ?_
    have hc := List.mem_takeWhile_imp hc
    exact not_isAlpha_of_isBreak hc
  rw [spaceFor, spaceFor, ← hends m.text, h, hends]

lemma recase_spaceFor (n : Node) : (spaceFor n).recase f = spaceFor n := by
  rw [spaceFor, recase_leaf, hf.eq_self]
  split_ifs
  · exact not_isAlpha_of_all rfl
  · intro c hc
    have hc := List.mem_takeWhile_imp (List.mem_reverse.1 hc)
    exact not_isAlpha_of_isBreak hc

lemma leave_recase (kept : List Node) (n : Node) :
    leave (kept.map (recase f)) (n.recase f) = (leave kept n).map (recase f) := by
  cases kept with
  | nil => rfl
  | cons last kept =>
    rw [List.map_cons, leave, leave, blind_isLeafOf hf, spaceFor_congr (uncap_text_recase hf n)]
    split_ifs
    · rfl
    · rw [List.map_cons, List.map_cons, recase_spaceFor hf]

lemma stripAfter_map (ns : List Node) (h : ∀ n ∈ ns, (n.recase f).strip = n.strip.recase f)
    (kept : List Node) :
    stripAfter (kept.map (recase f)) (ns.map (recase f)) = (stripAfter kept ns).map (recase f) := by
  induction ns generalizing kept with
  | nil => exact List.map_reverse.symm
  | cons n ns ih =>
    obtain ⟨hn, hns⟩ := List.forall_mem_cons.1 h
    rw [List.map_cons, stripAfter, stripAfter, hn, blind_isComment hf, leave_recase hf]
    split_ifs
    · exact ih hns (leave kept n)
    · exact ih hns (n.strip :: kept)

lemma strip_recase (n : Node) : (n.recase f).strip = n.strip.recase f := by
  induction n using induct with
  | leaf t => rfl
  | group g ns ih =>
    rw [recase_group, strip, strip, recase_group]
    exact congrArg _ (stripAfter_map hf ns ih [])

end Node

namespace Statement

variable {Fit : Token → Prop}
  (hdefines : ∀ ns, Node.Fits Fit ns →
    Node.definesTable (ns.map (Node.recase f)) = Node.definesTable ns)

include hdefines

/-- A statement whose case is changed comes without its comments to the same nodes, changed. -/
lemma strip?_recase {s : Statement} (hs : ∀ t ∈ s, Fit t) :
    strip? (s.map f) = (strip? s).map (List.map (Node.recase f)) := by
  have hgather : Node.gather (s.map f) = (Node.gather s).map (Node.recase f) :=
    Node.gatherAfter_recase hf [] s
  have hfits : Node.Fits Fit (Node.gather s) := by
    intro t ht
    rw [Node.gather, Node.readOf_gatherAfter] at ht
    exact hs t (by simpa using ht)
  have houtline : Node.outline ((Node.gather s).map (Node.recase f))
      = (Node.outline (Node.gather s)).map (Node.recase f) :=
    (Node.even_outline hf hdefines).map hfits
  have hstrip := Node.stripAfter_map hf (Node.outline (Node.gather s))
    (fun n _ => Node.strip_recase hf n) []
  rw [List.map_nil] at hstrip
  rw [strip?, strip?, hgather, houtline, List.length_map]
  dsimp only
  rw [hstrip, Node.depthOf_map fun n _ => Node.depth_recase n]
  split_ifs <;> rfl

lemma mapM_strip?_recase {ss : List Statement} (hss : ∀ s ∈ ss, ∀ t ∈ s, Fit t) :
    (ss.map (List.map f)).mapM strip?
      = (ss.mapM strip?).map (List.map (List.map (Node.recase f))) := by
  induction ss with
  | nil => rfl
  | cons s ss ih =>
    obtain ⟨hs, hss⟩ := List.forall_mem_cons.1 hss
    rw [List.map_cons, List.mapM_cons, List.mapM_cons, strip?_recase hf hdefines hs, ih hss]
    cases strip? s with
    | none => rfl
    | some ns =>
      cases ss.mapM strip? with
      | none => rfl
      | some nss => rfl

end Statement

end Statements

/-! ## Texts -/

namespace Statement

lemma breakAfter_uncap (line t : List Char) :
    breakAfter (uncap line) (uncap t) = (breakAfter line t).map uncap := by
  induction line, t using breakAfter.induct with
  | case1 line => exact congrArg (· :: []) (reverse_uncap line)
  | case2 line r ih => exact congrArg₂ List.cons (reverse_uncap line) ih
  | case3 line c r hpair hbreak ih =>
    have hbreak' : (c.toLower == '\r' || c.toLower == '\n') = true := by
      rw [beq_toLower rfl, beq_toLower rfl, hbreak]
    rw [uncap_cons, breakAfter.eq_3 _ _ _ (apart_uncap rfl rfl hpair),
      breakAfter.eq_3 _ _ _ hpair, if_pos hbreak, if_pos hbreak', List.map_cons, reverse_uncap]
    exact congrArg _ ih
  | case4 line c r hpair hplain ih =>
    have hplain' : ¬(c.toLower == '\r' || c.toLower == '\n') = true := by
      rw [beq_toLower rfl, beq_toLower rfl]
      exact hplain
    rw [uncap_cons, breakAfter.eq_3 _ _ _ (apart_uncap rfl rfl hpair),
      breakAfter.eq_3 _ _ _ hpair, if_neg hplain, if_neg hplain']
    exact ih

lemma trimRight_uncap (t : List Char) : trimRight (uncap t) = uncap (trimRight t) := by
  rw [trimRight, trimRight, dropTrailing, dropTrailing, reverse_uncap, dropWhile_uncap blind_isBlank,
    reverse_uncap]

lemma intercalate_uncap (lines : List (List Char)) :
    ['\n'].intercalate (lines.map uncap) = uncap (['\n'].intercalate lines) := by
  have hcons : ∀ (l m : List Char) ls,
      ['\n'].intercalate (l :: m :: ls) = l ++ '\n' :: ['\n'].intercalate (m :: ls) :=
    fun _ _ _ => rfl
  induction lines with
  | nil => rfl
  | cons l lines ih =>
    cases lines with
    | nil => simp [List.intercalate]
    | cons m lines =>
      rw [List.map_cons, List.map_cons, hcons, hcons, uncap_append, uncap_cons, ← ih]
      rfl

lemma trimLines_uncap (t : List Char) : trimLines (uncap t) = uncap (trimLines t) := by
  have hlines := breakAfter_uncap [] t
  rw [uncap_nil] at hlines
  have htrim : trimRight ∘ uncap = uncap ∘ trimRight := funext trimRight_uncap
  rw [trimLines, trimLines, hlines, List.map_map, htrim, ← List.map_map, intercalate_uncap]

end Statement

lemma meetsCased_uncap (t : List Char) : meetsCased (uncap t) = meetsCased t := by
  have hignored : Text.Blind isCaseIgnorable := blind_of_ascii (by decide)
  have hcased : Text.Blind isCased := blind_of_ascii (by decide)
  induction t with
  | nil => rfl
  | cons c t ih => rw [uncap_cons, meetsCased, meetsCased, hignored, hcased, ih]

lemma lowerAfter_uncap (before t : List Char) :
    lowerAfter (uncap before) (uncap t) = lowerAfter before t := by
  induction t generalizing before with
  | nil => rfl
  | cons c t ih =>
    have ih := ih (c :: before)
    rw [uncap_cons] at ih
    rw [uncap_cons, lowerAfter, lowerAfter, meetsCased_uncap, meetsCased_uncap, ih,
      lowerChar_congr (toLower_toLower c)]
    simp only [toLower_eq_iff (a := '\u0130') rfl, toLower_eq_iff (a := '\u03a3') rfl]

/-- The small letters of a text do not depend on the case of its letters. -/
lemma lower_uncap (t : List Char) : lower (uncap t) = lower t :=
  lowerAfter_uncap [] t

lemma canonical_congr {x y : List Char} (h : SameButCase x y) : canonical x = canonical y := by
  rw [canonical, canonical, ← lower_uncap x, h, lower_uncap]

/-! ## Queries -/

/-- The text of tokens without their comments, unless a statement is too large or nests too deep. -/
def stripped? (ts : List Token) : Option (List Char) :=
  ((Statement.split ts).mapM Statement.strip?).map fun statements =>
    statements.flatMap fun ns => Statement.trimLines (Node.textOf ns)

lemma withoutComments_eq (raw : List Char) :
    withoutComments raw = (stripped? (Token.scan raw)).getD raw := by
  rw [withoutComments, stripped?]
  cases (Statement.split (Token.scan raw)).mapM Statement.strip? <;> rfl

/-- Tokens whose case is changed come without their comments to the same text but for case. -/
lemma uncap_stripped? {f : Token → Token} (hf : Token.Recases f) {Fit : Token → Prop}
    (hdefines : ∀ ns, Node.Fits Fit ns →
      Node.definesTable (ns.map (Node.recase f)) = Node.definesTable ns)
    {ts : List Token} (hts : ∀ t ∈ ts, Fit t) :
    (stripped? (ts.map f)).map uncap = (stripped? ts).map uncap := by
  have hss : ∀ s ∈ Statement.split ts, ∀ t ∈ s, Fit t :=
    fun s hs t ht => hts t (Statement.mem_of_mem_split ht hs)
  -- the same statements are given up in both, and the others come to the same nodes but for case
  rw [stripped?, stripped?, Statement.split_recase hf, Statement.mapM_strip?_recase hf hdefines hss,
    Option.map_map, Option.map_map, Option.map_map]
  refine congrArg (Option.map · _) (funext fun nss => ?_)
  rw [Function.comp_apply, Function.comp_apply, Function.comp_apply, List.flatMap_map, uncap, uncap,
    List.map_flatMap, List.map_flatMap]
  refine List.flatMap_congr fun ns _ => ?_
  change uncap _ = uncap _
  rw [← Statement.trimLines_uncap, ← Statement.trimLines_uncap, Node.uncap_textOf_recase hf]

namespace Token

/-- The token is the word `AS` in capitals. -/
def isCapitalAs (t : Token) : Bool :=
  t.text == "AS".toList

lemma isCapitalAs_iff {t : Token} : t.isCapitalAs = true ↔ t.text = "AS".toList :=
  beq_iff_eq

/-- The token without capitals, but for those that the ends of batches begin with, and for those of
`AS` if they count. -/
def mute (counts : Bool) (t : Token) : Token :=
  { t with
    text :=
      if Progress.isBatchEnd t then 'G' :: 'O' :: Text.uncap (t.text.drop 2)
      else if counts && t.isCapitalAs then t.text
      else Text.uncap t.text }

lemma isBatchEnd_iff {t : Token} : Progress.isBatchEnd t = true ↔
    t.kind = .keyword ∧ ∃ rest, t.text = 'G' :: 'O' :: rest ∧ rest.head?.all isBlank = true := by
  obtain ⟨kind, text⟩ := t
  rw [Progress.isBatchEnd, Bool.and_eq_true, Bool.and_eq_true, beq_iff_eq, beq_iff_eq, and_assoc]
  refine and_congr_right fun _ => ?_
  match text with
  | [] | [_] => simp
  | g :: o :: rest => simp [and_assoc]

lemma mute_of_isBatchEnd (counts : Bool) {t : Token} {rest : List Char}
    (ht : Progress.isBatchEnd t = true) (hrest : t.text = 'G' :: 'O' :: rest) :
    (mute counts t).text = 'G' :: 'O' :: Text.uncap rest := by
  simp only [mute, ht, if_true, hrest, List.drop_succ_cons, List.drop_zero]

lemma mute_of_not_isBatchEnd (counts : Bool) {t : Token} (ht : Progress.isBatchEnd t = false) :
    (mute counts t).text = if counts && t.isCapitalAs then t.text else Text.uncap t.text := by
  simp only [mute, ht, Bool.false_eq_true, if_false]

lemma recases_mute (counts : Bool) : Recases (mute counts) where
  kind _ := rfl
  uncap t := by
    cases ht : Progress.isBatchEnd t with
    | true =>
      obtain ⟨-, rest, hrest, -⟩ := isBatchEnd_iff.1 ht
      rw [mute_of_isBatchEnd counts ht hrest, hrest, uncap_cons, uncap_cons, uncap_uncap, uncap_cons,
        uncap_cons]
    | false =>
      rw [mute_of_not_isBatchEnd counts ht]
      split_ifs
      · rfl
      · exact uncap_uncap t.text
  isBatchEnd t := by
    cases ht : Progress.isBatchEnd t with
    | true =>
      obtain ⟨hkind, rest, hrest, hblank⟩ := isBatchEnd_iff.1 ht
      refine isBatchEnd_iff.2 ⟨hkind, _, mute_of_isBatchEnd counts ht hrest, ?_⟩
      cases rest with
      | nil => rfl
      | cons c rest => exact (isBlank_toLower c).trans hblank
    | false =>
      refine Bool.eq_false_iff.2 fun hmute => ?_
      obtain ⟨-, rest, hrest, -⟩ := isBatchEnd_iff.1 hmute
      rw [mute_of_not_isBatchEnd counts ht] at hrest
      split_ifs at hrest with has
      · rw [isCapitalAs_iff.1 (Bool.and_eq_true_iff.1 has).2] at hrest
        cases hrest
      · exact absurd hrest (uncap_ne_cons (a := 'G') (by decide) _ _)

lemma isCapitalAs_mute (t : Token) : (mute true t).isCapitalAs = t.isCapitalAs := by
  cases ht : Progress.isBatchEnd t with
  | true =>
    obtain ⟨-, rest, hrest, -⟩ := isBatchEnd_iff.1 ht
    rw [isCapitalAs, isCapitalAs, mute_of_isBatchEnd true ht hrest, hrest]
    rfl
  | false =>
    rw [isCapitalAs, mute_of_not_isBatchEnd true ht, Bool.true_and]
    split_ifs with has
    · rfl
    · rw [Bool.eq_false_iff.2 has]
      exact beq_eq_false_iff_ne.2 (uncap_ne_cons (a := 'A') (by decide) _ _)

lemma mute_congr {counts : Bool} {t u : Token} (huncap : t.uncap = u.uncap)
    (hends : Progress.isBatchEnd t = Progress.isBatchEnd u)
    (has : counts = true → t.isCapitalAs = u.isCapitalAs) : mute counts t = mute counts u := by
  obtain ⟨hkind, htext⟩ := Token.mk.inj huncap
  have hrest : Text.uncap (t.text.drop 2) = Text.uncap (u.text.drop 2) := by
    rw [← drop_uncap, htext, drop_uncap]
  have hcapital : (counts && t.isCapitalAs) = (counts && u.isCapitalAs) := by
    cases counts with
    | false => rfl
    | true => rw [has rfl]
  -- two words `AS` that both keep their capitals are the same text
  have hkept : (if counts && t.isCapitalAs then t.text else Text.uncap t.text)
      = if counts && u.isCapitalAs then u.text else Text.uncap u.text := by
    rw [← hcapital, htext]
    split_ifs with hboth
    · have ht := isCapitalAs_iff.1 (Bool.and_eq_true_iff.1 hboth).2
      have hu := isCapitalAs_iff.1 (Bool.and_eq_true_iff.1 (hcapital ▸ hboth)).2
      rw [ht, hu]
    · rfl
  rw [mute, mute, hkind, hends, hrest, hkept]

lemma map_mute_congr {counts : Bool} {ts us : List Token} (huncap : ts.map uncap = us.map uncap)
    (hends : ts.map Progress.isBatchEnd = us.map Progress.isBatchEnd)
    (has : counts = true → ts.map isCapitalAs = us.map isCapitalAs) :
    ts.map (mute counts) = us.map (mute counts) := by
  induction ts generalizing us with
  | nil =>
    obtain rfl : us = [] := List.map_eq_nil_iff.1 huncap.symm
    rfl
  | cons t ts ih =>
    cases us with
    | nil => cases huncap
    | cons u us =>
      rw [List.map_cons, List.map_cons] at huncap hends has
      obtain ⟨ht, hts⟩ := List.cons.inj huncap
      obtain ⟨hend, hends⟩ := List.cons.inj hends
      rw [List.map_cons, List.map_cons, mute_congr ht hend fun h => (List.cons.inj (has h)).1,
        ih hts hends fun h => (List.cons.inj (has h)).2]

end Token

/-- None of the tokens is this word. -/
def Lacks (word : String) (ts : List Token) : Prop :=
  ∀ t ∈ ts, t.capitals ≠ word.toList

/-- The case of letters is all that two queries differ in, with the same ends of batches in both of
them.  If one can create a table, the words `AS` are written in capitals in the same places. -/
structure Recased (x y : List Char) : Prop where
  letters : SameButCase x y
  batchEnds : (Token.scan x).map Progress.isBatchEnd = (Token.scan y).map Progress.isBatchEnd
  definitions : (Token.scan x).map Token.isCapitalAs = (Token.scan y).map Token.isCapitalAs
    ∨ Lacks "CREATE" (Token.scan x) ∨ Lacks "TABLE" (Token.scan x)

namespace Node

/-- Where the words `AS` keep their capitals the same lists define tables. -/
lemma definesTable_mute (ns : List Node) :
    definesTable (ns.map (recase (Token.mute true))) = definesTable ns := by
  have hword := fun word : String => any_recase (f := Token.mute true)
    (blind_any_token? (p := fun t => t.capitals == word.toList) fun t => by
      rw [(Token.recases_mute true).capitals]) ns
  have has := any_recase (f := Token.mute true) (blind_any_token? Token.isCapitalAs_mute) ns
  rw [definesTable, definesTable]
  dsimp only
  rw [hword, hword]
  exact congrArg (_ && !·) has

/-- Nodes without the word `CREATE` or without the word `TABLE` define no table. -/
lemma definesTable_of_lacks {word : String} (hword : word = "CREATE" ∨ word = "TABLE")
    {ns : List Node}
    (h : (ns.any fun n => n.token?.any fun t => t.capitals == word.toList) = false) :
    definesTable ns = false := by
  rw [definesTable]
  dsimp only
  obtain rfl | rfl := hword
  · rw [h, Bool.false_and, Bool.false_and]
  · rw [h, Bool.and_false, Bool.false_and]

lemma definesTable_recase {word : String} (hword : word = "CREATE" ∨ word = "TABLE")
    {f : Token → Token} (hf : Token.Recases f) {ns : List Node}
    (hns : Fits (fun t => t.capitals ≠ word.toList) ns) :
    definesTable (ns.map (recase f)) = definesTable ns := by
  have hlacks : (ns.any fun n => n.token?.any fun t => t.capitals == word.toList) = false := by
    refine List.any_eq_false.2 fun n hn => ?_
    cases n with
    | group => exact Bool.false_ne_true
    | leaf t =>
      have ht : t.capitals ≠ word.toList := hns t (mem_readOf.2 ⟨_, hn, List.mem_cons_self⟩)
      exact fun h => ht (beq_iff_eq.1 h)
  have hblind := any_recase (f := f) (blind_any_token? (p := fun t => t.capitals == word.toList)
    fun t => by rw [hf.capitals]) ns
  rw [definesTable_of_lacks hword hlacks, definesTable_of_lacks hword (hblind.trans hlacks)]

end Node

namespace Recased

variable {x y : List Char} (h : Recased x y)

include h

lemma map_mute {counts : Bool} (has : counts = true →
    (Token.scan x).map Token.isCapitalAs = (Token.scan y).map Token.isCapitalAs) :
    (Token.scan x).map (Token.mute counts) = (Token.scan y).map (Token.mute counts) := by
  refine Token.map_mute_congr ?_ h.batchEnds has
  rw [← Token.scan_uncap, ← Token.scan_uncap, h.letters]

lemma uncap_stripped? :
    (stripped? (Token.scan x)).map uncap = (stripped? (Token.scan y)).map uncap := by
  -- where no table can be created, the capitals of `AS` do not count
  have lacks : ∀ word, (word = "CREATE" ∨ word = "TABLE") → Lacks word (Token.scan x) →
      (stripped? (Token.scan x)).map uncap = (stripped? (Token.scan y)).map uncap := by
    intro word hword hx
    have hmute : (Token.scan x).map (Token.mute false) = (Token.scan y).map (Token.mute false) :=
      h.map_mute fun hcounts => absurd hcounts Bool.false_ne_true
    have hy : Lacks word (Token.scan y) := by
      intro t ht
      have hmem := List.mem_map_of_mem (f := Token.mute false) ht
      rw [← hmute] at hmem
      obtain ⟨u, hu, heq⟩ := List.mem_map.1 hmem
      rw [← (Token.recases_mute false).capitals t, ← heq, (Token.recases_mute false).capitals]
      exact hx u hu
    have hdefines := fun ns (hns : Node.Fits (fun t => t.capitals ≠ word.toList) ns) =>
      Node.definesTable_recase hword (Token.recases_mute false) hns
    rw [← Query.uncap_stripped? (Token.recases_mute false) hdefines hx, hmute,
      Query.uncap_stripped? (Token.recases_mute false) hdefines hy]
  obtain has | hcreate | htable := h.definitions
  · have hdefines := fun ns (_ : Node.Fits (fun _ => True) ns) => Node.definesTable_mute ns
    rw [← Query.uncap_stripped? (Token.recases_mute true) hdefines fun _ _ => trivial,
      h.map_mute fun _ => has,
      Query.uncap_stripped? (Token.recases_mute true) hdefines fun _ _ => trivial]
  · exact lacks "CREATE" (.inl rfl) hcreate
  · exact lacks "TABLE" (.inr rfl) htable

/-- Without their comments the two queries still differ in the case of letters only. -/
lemma sameButCase_withoutComments : SameButCase (withoutComments x) (withoutComments y) := by
  have hstripped := h.uncap_stripped?
  rw [SameButCase, withoutComments_eq, withoutComments_eq]
  cases hx : stripped? (Token.scan x) with
  | none =>
    rw [hx, Option.map_none, eq_comm, Option.map_eq_none_iff] at hstripped
    rw [hstripped]
    exact h.letters
  | some u =>
    rw [hx, Option.map_some, eq_comm, Option.map_eq_some_iff] at hstripped
    obtain ⟨v, hv, huv⟩ := hstripped
    rw [hv]
    exact huv.symm

/-- The two queries come to one canonical form. -/
theorem prepared_eq : prepared x = prepared y :=
  canonical_congr h.sameButCase_withoutComments

end Recased

end QueryTutor.Query
