import QueryTutor.Proofs.Analysis.Grammar
import QueryTutor.Proofs.Text.Spacing

/-!
# The column of an item

What stands around the column of an item is taken off layer by layer: `distinct`, the alias, the calls
and the qualifier.
-/

namespace QueryTutor.Analysis
open Text Phrase

variable {s t u a : List Char}

/-! ## The word `distinct` -/

/-- A text that begins with a name does not begin with `distinct`. -/
lemma dropDistinct_name (n : Name) (hu : EndsWord u) : dropDistinct (n.1 ++ u) = n.1 ++ u := by
  have hword : "distinct ".toList = ['d', 'i', 's', 't', 'i', 'n', 'c', 't'] ++ [' '] :=
    String.toList_ofList
  rw [dropDistinct, hword]
  cases h : strip? (['d', 'i', 's', 't', 'i', 'n', 'c', 't'] ++ [' ']) (n.1 ++ u) with
  | none => rfl
  | some rest =>
    have hreserved : ['d', 'i', 's', 't', 'i', 'n', 'c', 't'] ∈ reservedWords := by
      simp [reservedWords]
    have heq := eq_of_strip? (by decide) (.inl ⟨[], rfl⟩) n.isWordly hu h
    exact absurd heq.symm (n.ne_of_mem hreserved)

lemma dropDistinct_withDistinct (hstart : startsBlank t = false) (h : dropDistinct t = t)
    (d : Bool) :
    dropDistinct (withDistinct d t) = t := by
  cases d with
  | false => exact h
  | true =>
    have hword : "distinct ".toList = ['d', 'i', 's', 't', 'i', 'n', 'c', 't'] ++ [' '] :=
      String.toList_ofList
    have hspace : strip? [' '] (' ' :: t) = some t :=
      strip?_space_eq_some.2
        ⟨' ', t, rfl, by decide, congrArg some (trimLeft_of_not_startsBlank hstart)⟩
    have hstrip : strip? (['d', 'i', 's', 't', 'i', 'n', 'c', 't'] ++ [' '])
        (['d', 'i', 's', 't', 'i', 'n', 'c', 't'] ++ ' ' :: t) = some t := by
      rw [strip?, stripBy?_append_phrase]
      exact (congrArg (Option.bind · _) (strip?_self (by decide) _)).trans hspace
    rw [dropDistinct, hword, withDistinct, if_pos rfl, hstrip, Option.getD_some]

/-! ## Aliases -/

lemma mem_dropWhile_isBlank {c : Char} (hc : isBlank c = false) (hmem : c ∈ t) :
    c ∈ t.dropWhile isBlank := by
  rw [← List.takeWhile_append_dropWhile (p := isBlank) (l := t), List.mem_append] at hmem
  refine hmem.resolve_left fun hfront => ?_
  rw [List.mem_takeWhile_imp hfront] at hc
  cases hc

/-- A character that is no white space and stands for no letter of a phrase is not taken with it. -/
lemma mem_of_strip? {p rest : List Char} {c : Char} (hp : isPlain p = true) (hblank : isBlank c = false)
    (hkey : Fold.key c ∉ p) (hmem : c ∈ t) (h : strip? p t = some rest) : c ∈ rest := by
  induction p generalizing t with
  | nil => exact Option.some.inj h ▸ hmem
  | cons d p ih =>
    obtain ⟨hd, hp⟩ := isPlain_cons.1 hp
    have hkey' : Fold.key c ∉ p := fun hmem => hkey (List.mem_cons_of_mem d hmem)
    obtain rfl | hd := hd
    · obtain ⟨b, r, rfl, hb, hrest⟩ := strip?_space_eq_some.1 h
      obtain rfl | hmem := List.mem_cons.1 hmem
      · exact absurd (hb.symm.trans hblank) nofun
      · exact ih hp hkey' (mem_dropWhile_isBlank hblank hmem) hrest
    · obtain ⟨b, r, rfl, -, hb, hrest⟩ := (strip?_letter_eq_some hd).1 h
      obtain rfl | hmem := List.mem_cons.1 hmem
      · exact absurd (hb ▸ List.mem_cons_self) hkey
      · exact ih hp hkey' hmem hrest

/-- White space and words make no parenthesis. -/
lemma isBareAlias_eq_false (h : startsBlank s = true → ')' ∈ s) : isBareAlias s = false := by
  cases s with
  | nil => rfl
  | cons c r =>
    rw [Bool.eq_false_iff]
    intro halias
    rw [isBareAlias, Bool.and_eq_true, Bool.and_eq_true, Bool.and_eq_true] at halias
    obtain ⟨⟨⟨hblank, -⟩, hparts⟩, -⟩ := halias
    have hmem := mem_dropWhile_isBlank (by decide) (h hblank)
    exact absurd (List.all_eq_true.1 hparts _ hmem) (by decide)

/-- A text with a parenthesis is no alias. -/
lemma isAlias_eq_false (h : startsBlank s = true → ')' ∈ s) : isAlias s = false := by
  have has : " as".toList = [' ', 'a', 's'] := String.toList_ofList
  rw [isAlias, isBareAlias_eq_false h, Bool.false_or, has]
  cases hstrip : strip? [' ', 'a', 's'] s with
  | none => rfl
  | some rest =>
    have hblank : startsBlank s = true := by
      obtain ⟨b, r, rfl, hb, -⟩ := strip?_space_eq_some.1 hstrip
      exact hb
    exact isBareAlias_eq_false fun _ =>
      mem_of_strip? (by decide) (by decide) (by decide) (h hblank) hstrip

/-- Every end of the text that begins with white space has a closing parenthesis, so that none is an
alias. -/
def Unaliased (t : List Char) : Prop :=
  ∀ s, s <:+ t → startsBlank s = true → ')' ∈ s

lemma unaliased_of_solid (h : ∀ c ∈ t, isBlank c = false) : Unaliased t := by
  intro s hs hstart
  obtain ⟨b, r, rfl, hb⟩ := exists_of_startsBlank hstart
  exact absurd (hb.symm.trans (h b (hs.subset List.mem_cons_self))) nofun

lemma unaliased_of_closed (t : List Char) : Unaliased (t ++ [')']) := by
  intro s hs hstart
  obtain rfl | ⟨u, rfl, -⟩ := List.suffix_concat_iff.1 hs
  · cases hstart
  · exact List.mem_append_right u List.mem_cons_self

lemma dropAliasAfter_eq_self (h : Unaliased t) (before : Option Char) :
    dropAliasAfter before t = t := by
  induction t generalizing before with
  | nil => rfl
  | cons c t ih =>
    have hrest : Unaliased t := fun s hs => h s (hs.trans (List.suffix_cons c t))
    rw [dropAliasAfter, isAlias_eq_false (h _ List.suffix_rfl), Bool.and_false,
      if_neg Bool.false_ne_true, ih hrest]

/-- An alias is dropped from the end of a text that has none in it. -/
lemma dropAliasAfter_append {c : Char} (h : Unaliased (t ++ [c])) (hc : precedesAlias c = true)
    (ha : isAlias a = true) (before : Option Char) :
    dropAliasAfter before (t ++ [c] ++ a) = t ++ [c] := by
  induction t generalizing before with
  | nil =>
    have hstart : startsBlank (c :: a) = true → ')' ∈ c :: a := fun hblank =>
      List.mem_append_left a (h [c] List.suffix_rfl hblank)
    rw [List.nil_append, List.singleton_append, dropAliasAfter, isAlias_eq_false hstart,
      Bool.and_false, if_neg Bool.false_ne_true]
    cases a with
    | nil => rfl
    | cons d a => rw [dropAliasAfter, Option.any_some, hc, ha, Bool.and_self, if_pos rfl]
  | cons d t ih =>
    have hrest : Unaliased (t ++ [c]) := fun s hs => h s (hs.trans (List.suffix_cons d _))
    have hstart : startsBlank (d :: (t ++ [c] ++ a)) = true → ')' ∈ d :: (t ++ [c] ++ a) :=
      fun hblank => List.mem_append_left a (h (d :: (t ++ [c])) List.suffix_rfl hblank)
    rw [List.cons_append, List.cons_append, dropAliasAfter, isAlias_eq_false hstart,
      Bool.and_false, if_neg Bool.false_ne_true, ih hrest]

lemma isBareAlias_name (n : Name) : isBareAlias (' ' :: n.1) = true := by
  have hend : "end".toList = ['e', 'n', 'd'] := String.toList_ofList
  have hdrop : (' ' :: n.1).dropWhile isBlank = n.1 := by
    have h := dropWhile_isBlank_word n.isWordly n.ne_nil []
    rw [List.append_nil] at h
    rwa [List.dropWhile_cons_of_pos (by decide)]
  have hnot : ((strip? ['e', 'n', 'd'] n.1).any fun rest => !startsWithWord rest) = false := by
    have hreserved : ['e', 'n', 'd'] ∈ reservedWords := by
      simp [reservedWords]
    rw [Option.any_eq_false]
    intro rest hstrip
    rw [Bool.not_eq_false']
    -- a name that begins with `end` goes on behind it
    by_contra hword
    rw [Bool.not_eq_true] at hword
    rw [← List.append_nil ['e', 'n', 'd'], ← List.append_nil n.1] at hstrip
    have heq := eq_of_strip? (by decide) (.inr ⟨rfl, hword⟩) n.isWordly endsWord_nil hstrip
    exact n.ne_of_mem hreserved heq.symm
  rw [isBareAlias, hdrop, hend, hnot, List.all_eq_true.2 n.isWordly.isAliasPart,
    List.isEmpty_eq_false_iff.2 n.ne_nil]
  rfl

lemma Alias.isAlias_text (a : Alias) : isAlias a.text = true := by
  obtain ⟨behindAs, n⟩ := a
  cases behindAs with
  | false =>
    rw [isAlias, text, if_neg Bool.false_ne_true, isBareAlias_name, Bool.true_or]
  | true =>
    have has : " as".toList = [' ', 'a', 's'] := String.toList_ofList
    have hstrip : strip? [' ', 'a', 's'] ([' ', 'a', 's'] ++ ' ' :: n.1) = some (' ' :: n.1) :=
      strip?_space_eq_some.2 ⟨' ', _, rfl, by decide, strip?_self (by decide) _⟩
    have hrest : (strip? [' ', 'a', 's'] ([' ', 'a', 's'] ++ ' ' :: n.1)).any isBareAlias = true := by
      rw [hstrip, Option.any_some, isBareAlias_name]
    rw [isAlias, text, if_pos rfl, has, Bool.or_eq_true]
    exact .inr hrest

/-! ## Calls -/

/-- What begins with a name that no parenthesis follows is no call. -/
lemma call?_eq_none (n : Name) (hu : EndsWord u) (hopen : (u.dropWhile isBlank).head? ≠ some '(') :
    call? (n.1 ++ u) = none := by
  rw [call?, takeWhile_append_of_head n.isWordly.isWord hu.isWord,
    dropWhile_append_of_head n.isWordly.isWord hu.isWord]
  split_ifs
  · rfl
  · split
    · rename_i hparen
      exact absurd (congrArg List.head? hparen) hopen
    · rfl

lemma callOf_eq (f : Name) (t : List Char) : callOf f t = f.1 ++ '(' :: t ++ [')'] := by
  rw [callOf, List.append_assoc]
  rfl

lemma call?_callOf (f : Name) (t : List Char) : call? (callOf f t) = some (f.1, t) := by
  have hends : EndsWord ('(' :: (t ++ [')'])) := endsWord_cons rfl _
  rw [callOf, call?, takeWhile_append_of_head f.isWordly.isWord hends.isWord,
    dropWhile_append_of_head f.isWordly.isWord hends.isWord, if_neg (by simpa using f.ne_nil),
    List.dropWhile_cons_of_neg (by decide)]
  simp

/-- A call is longer than what it holds. -/
lemma length_lt_callOf (f : Name) (d : Bool) (t : List Char) :
    t.length < (callOf f (withDistinct d t)).length := by
  have hle : t.length ≤ (withDistinct d t).length := by
    cases d with
    | false => exact le_rfl
    | true => exact (List.suffix_append ['d', 'i', 's', 't', 'i', 'n', 'c', 't', ' '] t).length_le
  rw [callOf_eq, List.length_append, List.length_append, List.length_cons, List.length_singleton]
  omega

lemma isNameHead_of_opensName {c : Char} (h : opensName c = true) : isNameHead c = true := by
  have hkey : Fold.key c = c :=
    (namePart (by rw [isNamePart, h, Bool.true_or])).key
  rw [opensName, Bool.or_eq_true] at h
  rw [isNameHead, hkey, Bool.or_eq_true]
  exact h

lemma isIdentifier_name (n : Name) : isIdentifier n.1 = true := by
  obtain ⟨c, r, hn, hc⟩ := n.exists_cons
  have hr : ∀ d ∈ r, isWord d = true := fun d hd =>
    n.isWordly.isWord d (hn ▸ List.mem_cons_of_mem c hd)
  rw [hn, isIdentifier, isNameHead_of_opensName hc, List.dropWhile_eq_nil_iff.2 hr]
  rfl

lemma isIdentifier_qualified (q : Option Name) (n : Name) :
    isIdentifier (qualified q n.1) = true := by
  cases q with
  | none => exact isIdentifier_name n
  | some q =>
    obtain ⟨c, r, hq, hc⟩ := q.exists_cons
    obtain ⟨d, v, hn, hd⟩ := n.exists_cons
    have hr : ∀ x ∈ r, isWord x = true := fun x hx =>
      q.isWordly.isWord x (hq ▸ List.mem_cons_of_mem c hx)
    have hv : v.all isWord = true := List.all_eq_true.2 fun x hx =>
      n.isWordly.isWord x (hn ▸ List.mem_cons_of_mem d hx)
    have hends : EndsWord ('.' :: d :: v) := endsWord_cons rfl _
    rw [qualified, hq, hn, List.cons_append, isIdentifier, isNameHead_of_opensName hc,
      dropWhile_append_of_head hr hends.isWord, Bool.true_and]
    exact Bool.and_eq_true_iff.2 ⟨isNameHead_of_opensName hd, hv⟩

/-! ## Qualifiers -/

lemma dropQualifier_name (n : Name) : dropQualifier n.1 = n.1 := by
  rw [dropQualifier, List.dropWhile_eq_nil_iff.2 n.isWordly.isAliasPart]
  split <;> simp_all

lemma dropQualifier_qualified (h : dropQualifier t = t) (q : Option Name) :
    dropQualifier (qualified q t) = t := by
  cases q with
  | none => exact h
  | some q =>
    obtain ⟨c, r, hq, -⟩ := q.exists_cons
    have hends : EndsWord ('.' :: t) := endsWord_cons rfl t
    rw [qualified, dropQualifier, takeWhile_append_of_head q.isWordly.isAliasPart hends.isAliasPart,
      dropWhile_append_of_head q.isWordly.isAliasPart hends.isAliasPart, hq]
    rfl

/-! ## Bare texts -/

/-- A text without white space around it and without `distinct` before it. -/
structure Bare (t : List Char) : Prop where
  ne_nil : t ≠ []
  start : startsBlank t = false
  last : ∀ c ∈ t.getLast?, isBlank c = false
  distinct : dropDistinct t = t

lemma Bare.trim (ht : Bare t) : Text.trim t = t := by
  rw [Text.trim, trimRight, dropTrailing_eq_self_iff.2 ht.last, trimLeft_of_not_startsBlank ht.start]

/-- White space and `distinct` are taken off a bare text, and nothing else. -/
lemma Bare.dropDistinct_trim (ht : Bare t) (d : Bool) :
    dropDistinct (Text.trim (withDistinct d t)) = t := by
  have htrim : Text.trim (withDistinct d t) = withDistinct d t := by
    cases d with
    | false => exact ht.trim
    | true =>
      have hfront : withDistinct true t = ['d', 'i', 's', 't', 'i', 'n', 'c', 't', ' '] ++ t := rfl
      have hlast : ∀ c ∈ (withDistinct true t).getLast?, isBlank c = false := by
        rw [hfront, List.getLast?_append_of_ne_nil _ ht.ne_nil]
        exact ht.last
      rw [Text.trim, trimRight, dropTrailing_eq_self_iff.2 hlast]
      exact trimLeft_of_not_startsBlank rfl
  rw [htrim, dropDistinct_withDistinct ht.start ht.distinct]

lemma itemColumn_bare (hs : Bare s) (hdrop : dropAlias s = t) (ht : Bare t) (d : Bool) :
    itemColumn (withDistinct d s) = Text.trim (dropQualifier (unwrap t)) := by
  rw [itemColumn, hs.dropDistinct_trim, hdrop, ht.trim]

lemma bare_name (n : Name) (hu : EndsWord u)
    (hlast : ∀ c ∈ (n.1 ++ u).getLast?, isBlank c = false) : Bare (n.1 ++ u) where
  ne_nil := by simp [n.ne_nil]
  start := by
    obtain ⟨c, r, hn, -⟩ := n.exists_cons
    have hc := n.isWordly.isBlank c (hn ▸ List.mem_cons_self)
    rw [hn, List.cons_append]
    simpa [startsBlank] using hc
  last := hlast
  distinct := dropDistinct_name n hu

lemma Name.bare (n : Name) : Bare n.1 := by
  have hlast : ∀ c ∈ (n.1 ++ []).getLast?, isBlank c = false := by
    intro c hc
    rw [List.append_nil] at hc
    exact n.isWordly.isBlank c (List.mem_of_mem_getLast? hc)
  have h := bare_name n endsWord_nil hlast
  rwa [List.append_nil] at h

/-! ## Wildcards -/

lemma bare_wildcard (q : Option Name) : Bare (qualified q ['*']) := by
  cases q with
  | none =>
    refine ⟨by decide, by decide, ?_, by decide⟩
    rintro c ⟨⟩
    decide
  | some q =>
    refine bare_name q (endsWord_cons rfl _) ?_
    rw [List.getLast?_append_of_ne_nil _ (List.cons_ne_nil _ _)]
    rintro c ⟨⟩
    decide

lemma call?_name (n : Name) : call? n.1 = none := by
  have h := call?_eq_none n endsWord_nil nofun
  rwa [List.append_nil] at h

lemma call?_qualified (h : call? t = none) (q : Option Name) : call? (qualified q t) = none := by
  cases q with
  | none => exact h
  | some q => exact call?_eq_none q (endsWord_cons rfl t) nofun

lemma unwrap_of_call? (h : call? t = none) : unwrap t = t := by
  rw [unwrap]
  cases t.length with
  | zero => rfl
  | succ n => rw [unwrapUpTo, h]

lemma isBlank_qualified (ht : ∀ c ∈ t, isBlank c = false) (q : Option Name) :
    ∀ c ∈ qualified q t, isBlank c = false := by
  cases q with
  | none => exact ht
  | some q =>
    intro c hc
    obtain hc | hc := List.mem_append.1 hc
    · exact q.isWordly.isBlank c hc
    · obtain rfl | hc := List.mem_cons.1 hc
      · decide
      · exact ht c hc

/-- A wildcard is about no column. -/
lemma itemColumn_wildcard (q : Option Name) (d : Bool) :
    itemColumn (withDistinct d (qualified q ['*'])) = ['*'] := by
  have hsolid := isBlank_qualified (t := ['*']) (List.forall_mem_singleton.2 (by decide)) q
  have hdrop : dropAlias (qualified q ['*']) = qualified q ['*'] :=
    dropAliasAfter_eq_self (unaliased_of_solid hsolid) none
  rw [itemColumn_bare (bare_wildcard q) hdrop (bare_wildcard q),
    unwrap_of_call? (call?_qualified (by decide) q), dropQualifier_qualified (by decide) q]
  decide

/-! ## Terms -/

lemma isBlank_of_precedesAlias {c : Char} (h : precedesAlias c = true) : isBlank c = false := by
  by_contra hblank
  rw [Bool.not_eq_false] at hblank
  simp only [precedesAlias, (letterless hblank).isWord, Bool.false_or, Bool.or_eq_true,
    beq_iff_eq] at h
  obtain (rfl | rfl) | rfl := h <;> exact absurd hblank (by decide)

lemma mem_of_mem_getLast?_qualified {q : Option Name} (hne : t ≠ []) {c : Char}
    (hc : c ∈ (qualified q t).getLast?) : c ∈ t := by
  cases q with
  | none => exact List.mem_of_mem_getLast? hc
  | some q =>
    have hfront : qualified (some q) t = q.1 ++ ['.'] ++ t := by
      rw [qualified, List.append_assoc, List.singleton_append]
    rw [hfront, List.getLast?_append_of_ne_nil _ hne] at hc
    exact List.mem_of_mem_getLast? hc

namespace Term

/-- A term without its calls. -/
def core : Term → List Char
  | path q c => qualified q c.1
  | overAll f _ => f.1
  | call _ _ e => e.core

/-- A term begins with a name. -/
lemma exists_name (e : Term) : ∃ n : Name, ∃ u, e.text = n.1 ++ u ∧ EndsWord u := by
  cases e with
  | path q c =>
    cases q with
    | none => exact ⟨c, [], (List.append_nil _).symm, endsWord_nil⟩
    | some q => exact ⟨q, _, rfl, endsWord_cons rfl _⟩
  | overAll f d => exact ⟨f, _, rfl, endsWord_cons rfl _⟩
  | call f d e => exact ⟨f, _, rfl, endsWord_cons rfl _⟩

/-- An alias can follow a term. -/
lemma precedesAlias (e : Term) : ∀ c ∈ e.text.getLast?, precedesAlias c = true := by
  have hclosed : ∀ f t, ∀ c ∈ (callOf f t).getLast?, Analysis.precedesAlias c = true := by
    intro f t c hc
    rw [callOf_eq, List.getLast?_concat] at hc
    obtain rfl := Option.some.inj hc
    decide
  cases e with
  | path q c =>
    intro b hb
    have hb : isWord b = true := c.isWordly.isWord b (mem_of_mem_getLast?_qualified c.ne_nil hb)
    rw [Analysis.precedesAlias, hb]
    rfl
  | overAll f d => exact hclosed f _
  | call f d e => exact hclosed f _

lemma unaliased (e : Term) : Unaliased e.text := by
  cases e with
  | path q c =>
    exact unaliased_of_solid (isBlank_qualified c.isWordly.isBlank q)
  | overAll f d =>
    rw [text, callOf_eq]
    exact unaliased_of_closed _
  | call f d e =>
    rw [text, callOf_eq]
    exact unaliased_of_closed _

lemma bare (e : Term) : Bare e.text := by
  have hlast := fun c hc => isBlank_of_precedesAlias (e.precedesAlias c hc)
  obtain ⟨n, u, htext, hu⟩ := e.exists_name
  rw [htext] at hlast ⊢
  exact bare_name n hu hlast

lemma isIdentifier_or_isSome_call? (e : Term) :
    (isIdentifier e.text || (call? e.text).isSome) = true := by
  cases e with
  | path q c => rw [text, isIdentifier_qualified, Bool.true_or]
  | overAll f d => rw [text, call?_callOf, Option.isSome_some, Bool.or_true]
  | call f d e => rw [text, call?_callOf, Option.isSome_some, Bool.or_true]

/-- The calls of a term are taken off one by one, where the length of the term is bound enough. -/
lemma unwrapUpTo_text (e : Term) {n : Nat} (h : e.text.length ≤ n) :
    unwrapUpTo n e.text = e.core := by
  induction e generalizing n with
  | path q c =>
    cases n with
    | zero => rfl
    | succ n => rw [unwrapUpTo, text, call?_qualified (call?_name c)]; rfl
  | overAll f d =>
    have hpos := length_lt_callOf f d ['*']
    obtain _ | n := n
    · exact absurd (hpos.trans_le h) (Nat.not_lt_zero _)
    · have hinner : dropDistinct (trim (withDistinct d ['*'])) = ['*'] :=
        (bare_wildcard none).dropDistinct_trim d
      rw [unwrapUpTo, text, call?_callOf]
      dsimp only
      rw [hinner]
      rfl
  | call f d e ih =>
    have hlt := (length_lt_callOf f d e.text).trans_le h
    obtain _ | n := n
    · exact absurd hlt (Nat.not_lt_zero _)
    · rw [unwrapUpTo, text, call?_callOf]
      dsimp only
      rw [e.bare.dropDistinct_trim d, e.isIdentifier_or_isSome_call?, if_pos rfl,
        ih (Nat.le_of_lt_succ hlt)]
      rfl

lemma dropQualifier_core (e : Term) : dropQualifier e.core = e.column.1 := by
  induction e with
  | path q c => exact dropQualifier_qualified (dropQualifier_name c) q
  | overAll f d => exact dropQualifier_name f
  | call f d e ih => exact ih

end Term

/-! ## Aliases behind terms -/

namespace Alias

lemma endsWord_text (a : Alias) : EndsWord a.text := by
  obtain ⟨behindAs, n⟩ := a
  cases behindAs <;> exact endsWord_cons rfl _

lemma exists_append (a : Alias) : ∃ v, a.text = v ++ a.name.1 := by
  obtain ⟨behindAs, n⟩ := a
  cases behindAs with
  | false => exact ⟨[' '], rfl⟩
  | true => exact ⟨[' ', 'a', 's', ' '], rfl⟩

end Alias

lemma Term.bare_alias (e : Term) (a : Alias) : Bare (e.text ++ a.text) := by
  obtain ⟨v, hv⟩ := a.exists_append
  have hlast : ∀ c ∈ (e.text ++ a.text).getLast?, isBlank c = false := by
    rw [hv, ← List.append_assoc, List.getLast?_append_of_ne_nil _ a.name.ne_nil]
    exact a.name.bare.last
  obtain ⟨n, u, htext, hu⟩ := e.exists_name
  rw [htext, List.append_assoc] at hlast ⊢
  exact bare_name n (hu.append a.endsWord_text) hlast

/-- The alias of a term is dropped, and nothing of the term with it. -/
lemma Term.dropAlias_append (e : Term) (a : Alias) : dropAlias (e.text ++ a.text) = e.text := by
  obtain ⟨x, c, hx⟩ := (List.eq_nil_or_concat' e.text).resolve_left e.bare.ne_nil
  have hc : Analysis.precedesAlias c = true :=
    e.precedesAlias c (by rw [hx, List.getLast?_concat, Option.mem_some])
  have hin : Unaliased (x ++ [c]) := hx ▸ e.unaliased
  rw [hx]
  exact dropAliasAfter_append hin hc a.isAlias_text none

/-- What is left of a term is its column. -/
lemma itemColumn_term (hs : Bare s) (e : Term) (hdrop : dropAlias s = e.text) (d : Bool) :
    itemColumn (withDistinct d s) = e.column.1 := by
  rw [itemColumn_bare hs hdrop e.bare, unwrap, e.unwrapUpTo_text le_rfl, e.dropQualifier_core,
    e.column.bare.trim]

end QueryTutor.Analysis
