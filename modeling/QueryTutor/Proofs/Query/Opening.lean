import QueryTutor.Proofs.Query.Canonical
import QueryTutor.Proofs.Query.Outline
import QueryTutor.Query.Precheck

/-!
# What a query opens with

A query that opens with a sign, the name of a type or another word that is joined on to a comment
before it opens no statement, whatever follows.
-/

namespace QueryTutor.Text

/-- A small letter of ASCII comes from a character whose capital is the capital of the letter, or is
not in ASCII. -/
lemma upperChar_of_lowerChar {c k : Char} (hk : 97 ≤ k.toNat ∧ k.toNat < 128)
    (h : lowerChar c = k) (hascii : ∀ d ∈ upperChar c, d.toNat < 128) :
    upperChar c = [k.toUpper] := by
  by_cases hc : c.toNat < 128
  · have hupper : ∀ n < 128, (Char.ofNat n).toLower.toUpper = (Char.ofNat n).toUpper := by
      decide
    have hself := hupper c.toNat hc
    rw [Char.ofNat_toNat] at hself
    rw [lowerChar, if_pos hc] at h
    rw [upperChar, if_pos hc, ← h, hself]
  · -- the capital I with a dot and the Kelvin sign
    have hruns : ∀ r ∈ lowerRuns, r.image < 128 →
        r.first = r.last ∧ (r.first = 0x130 ∨ r.first = 0x212a) := by decide +kernel
    rw [lowerChar, if_neg hc] at h
    cases hm : mapRuns? lowerRuns c.toNat with
    | none =>
      rw [hm] at h
      have hck : c = k := h
      exact absurd (hck ▸ hk.2) hc
    | some n =>
      rw [hm] at h
      obtain ⟨r, hr, rfl⟩ := Option.map_eq_some_iff.1 hm
      have hmem := List.mem_of_find?_eq_some hr
      have hholds := List.find?_some hr
      simp only [CaseRun.holds, Bool.and_eq_true, decide_eq_true_eq] at hholds
      have hn : (Char.ofNat (r.map c.toNat)).toNat = k.toNat := congrArg Char.toNat h
      have hlow : r.image < 128 := by
        obtain heq | heq := toNat_ofNat_or (r.map c.toNat)
        · rw [heq, CaseRun.map] at hn
          omega
        · omega
      obtain ⟨hsingle, hcode⟩ := hruns r hmem hlow
      have hc : c = Char.ofNat 0x130 ∨ c = Char.ofNat 0x212a := by
        rw [← Char.ofNat_toNat c]
        exact hcode.imp (fun _ => congrArg Char.ofNat (by omega)) fun _ => congrArg Char.ofNat (by omega)
      have hcapital : c ∈ upperChar c ∧ 128 ≤ c.toNat := by
        obtain rfl | rfl := hc <;> decide
      exact absurd (hascii c hcapital.1) (Nat.not_lt.2 hcapital.2)

lemma isBlank_of_capitals {c : Char} (h : ∀ d ∈ upperChar c, isBlank d = false) :
    isBlank c = false := by
  refine Bool.eq_false_iff.2 fun hblank => ?_
  have hself : upperChar c = [c] :=
    forall_blank (P := fun c => upperChar c = [c]) (by decide) hblank
  have hnone := h c (by rw [hself]; exact List.mem_singleton_self c)
  exact absurd (hblank.symm.trans hnone) nofun

/-- A text whose capitals are in ASCII has small letters that no other text begins with. -/
lemma prefix_of_capitals {u : List Char} (hcapitals : ∀ d ∈ upper u, d.toNat < 128 ∧ isBlank d = false)
    {k : List Char} (hk : ∀ d ∈ k, 97 ≤ d.toNat ∧ d.toNat < 128) {before z : List Char}
    (h : k <+: solid (lowerAfter before (u ++ z))) :
    k.map Char.toUpper <+: upper u ∨ upper u <+: k.map Char.toUpper := by
  induction u generalizing before k with
  | nil => exact .inr (List.nil_prefix)
  | cons c u ih =>
    cases k with
    | nil => exact .inl List.nil_prefix
    | cons d k =>
      obtain ⟨hd, hk⟩ := List.forall_mem_cons.1 hk
      have hupper : upper (c :: u) = upperChar c ++ upper u := List.flatMap_cons
      rw [hupper, List.forall_mem_append] at hcapitals
      obtain ⟨hc, hu⟩ := hcapitals
      have hsolid : isBlank c = false := isBlank_of_capitals fun d hd => (hc d hd).2
      have hdotted : c ≠ '\u0130' := by
        rintro rfl
        exact absurd (hc '\u0130' (by decide)).1 (by decide)
      have hsigma : c ≠ '\u03a3' := by
        rintro rfl
        exact absurd (hc '\u03a3' (by decide)).1 (by decide)
      have hlower : isBlank (lowerChar c) = false :=
        Bool.eq_false_iff.2 fun hblank =>
          absurd (isBlank_of_lowerChar hblank rfl) (Bool.eq_false_iff.1 hsolid)
      rw [List.cons_append, lowerAfter, if_neg hdotted, if_neg hsigma, solid_cons hlower,
        List.cons_prefix_cons] at h
      have hletter := upperChar_of_lowerChar hd h.1.symm fun e he => (hc e he).1
      rw [hupper, hletter, List.map_cons, List.singleton_append, List.cons_prefix_cons,
        List.cons_prefix_cons]
      exact (ih hu hk h.2).imp (fun h => ⟨rfl, h⟩) fun h => ⟨rfl, h⟩

end QueryTutor.Text

namespace QueryTutor.Query

open Text

/-- A canonical form that opens a statement comes from a text that begins with the letters of a
keyword, in whatever case. -/
lemma exists_prefix_of_opensStatement {t : List Char} (h : opensStatement (canonical t) = true) :
    ∃ word ∈ statementKeywords, word.toList <+: solid (lower t) := by
  obtain ⟨word, hword, hopens⟩ := List.any_eq_true.1 h
  refine ⟨word, hword, ?_⟩
  obtain ⟨rest, hfront, -⟩ := (Option.any_eq_true ..).1 hopens
  obtain ⟨s, -, hlower⟩ := exists_dropTrailing_append isTrailer (lower t)
  have hletters : ∀ word ∈ statementKeywords, solid word.toList = word.toList := by decide
  have hcanonical := solid_canonical t
  rw [eq_append_of_stripFront? hfront, solid_append, hletters word hword] at hcanonical
  rw [hlower, solid_append, ← hcanonical, List.append_assoc]
  exact List.prefix_append _ _

/-- Neither of two texts begins with the other. -/
def diverge (s t : List Char) : Bool :=
  !s.isPrefixOf t && !t.isPrefixOf s

lemma not_prefix_of_diverge {s t : List Char} (h : diverge s t = true) : ¬s <+: t ∧ ¬t <+: s := by
  rw [diverge, Bool.and_eq_true, Bool.not_eq_true', Bool.not_eq_true'] at h
  exact ⟨fun hst => absurd (List.isPrefixOf_iff_prefix.2 hst) (Bool.eq_false_iff.1 h.1),
    fun hts => absurd (List.isPrefixOf_iff_prefix.2 hts) (Bool.eq_false_iff.1 h.2)⟩

/-- Characters behind which nothing opens a statement. -/
structure Bars (p : List Char) : Prop where
  solid : ∀ c ∈ p, isBlank c = false
  bars : ∀ z, opensStatement (canonical (p ++ z)) = false

/-! ## Words -/

/-- A word in capitals of ASCII that no keyword begins with and that begins with none. -/
def opensNone (word : List Char) : Bool :=
  word.all (fun c => c.toNat < 128 && !isBlank c)
    && statementKeywords.all fun k => diverge (k.toList.map Char.toUpper) word

lemma bars_of_capitals {u : List Char} (h : opensNone (upper u) = true) : Bars u := by
  obtain ⟨hall, hnone⟩ := Bool.and_eq_true_iff.1 h
  have hcapitals : ∀ d ∈ upper u, d.toNat < 128 ∧ isBlank d = false := fun d hd => by
    simpa using List.all_eq_true.1 hall d hd
  constructor
  case solid => exact fun c hc => isBlank_of_capitals fun d hd =>
      (hcapitals d (List.mem_flatMap.2 ⟨c, hc, hd⟩)).2
  case bars =>
    have hsmall : ∀ word ∈ statementKeywords,
        word.toList.all (fun d => 97 ≤ d.toNat && d.toNat < 128) = true := by decide
    have hletters : ∀ word ∈ statementKeywords, ∀ d ∈ word.toList,
        97 ≤ d.toNat ∧ d.toNat < 128 := fun word hword d hd => by
      simpa using List.all_eq_true.1 (hsmall word hword) d hd
    intro z
    refine Bool.eq_false_iff.2 fun hopens => ?_
    obtain ⟨word, hword, hprefix⟩ := exists_prefix_of_opensStatement hopens
    obtain ⟨hshort, hlong⟩ := not_prefix_of_diverge (List.all_eq_true.1 hnone word hword)
    exact (prefix_of_capitals hcapitals (hletters word hword) hprefix).elim hshort hlong

lemma entries_opensNone : ∀ c, ∀ x ∈ Vocabulary.entries c,
    x.1 = .typeName → ∀ w ∈ x.2, opensNone w.toList = true := by
  intro c
  unfold Vocabulary.entries
  split <;> decide

lemma opensNone_of_kindOf {word : List Char} (h : Vocabulary.kindOf word = .typeName) :
    opensNone word = true := by
  obtain hname | ⟨c, x, hmem, hkind, w, hw, rfl⟩ := Token.kindOf_cases word
  · rw [hname] at h
    cases h
  · exact entries_opensNone c x hmem (hkind.symm.trans h) w hw

/-! ## Signs and phrases -/

lemma solid_lowerAfter_cons {c k : Char} (h : c.toLower = k) (hk : k.toNat < 128)
    (hblank : isBlank k = false) (before t : List Char) :
    solid (lowerAfter before (c :: t)) = k :: solid (lowerAfter (c :: before) t) := by
  have hascii : c.toNat < 128 := by
    by_contra hc
    rw [toLower_eq_self (Nat.le_of_not_lt hc)] at h
    exact hc (h ▸ hk)
  have hdotted : c ≠ '\u0130' := by
    rintro rfl
    exact absurd hascii (by decide)
  have hsigma : c ≠ '\u03a3' := by
    rintro rfl
    exact absurd hascii (by decide)
  have hlower : lowerChar c = k := by rw [lowerChar, if_pos hascii, h]
  rw [lowerAfter, if_neg hdotted, if_neg hsigma, hlower, solid_cons hblank]

lemma bars_of_solid {p front : List Char} (hp : ∀ c ∈ p, isBlank c = false)
    (hfront : ∀ z, front <+: solid (lower (p ++ z)))
    (hnone : ∀ word ∈ statementKeywords, diverge word.toList front = true) : Bars p where
  solid := hp
  bars z := by
    refine Bool.eq_false_iff.2 fun hopens => ?_
    obtain ⟨word, hword, hprefix⟩ := exists_prefix_of_opensStatement hopens
    obtain ⟨hshort, hlong⟩ := not_prefix_of_diverge (hnone word hword)
    exact (List.prefix_or_prefix_of_prefix hprefix (hfront z)).elim hshort hlong

lemma bars_colon : Bars [':'] := by
  have hfront : ∀ z, [':'] <+: solid (lower ([':'] ++ z)) := fun z =>
    ⟨solid (lowerAfter [':'] z),
      (solid_lowerAfter_cons (rfl : ':'.toLower = ':') (by decide) rfl [] z).symm⟩
  exact bars_of_solid (List.forall_mem_singleton.2 rfl) hfront (by decide)

lemma exists_bars_of_begins {c d : Char} {t : List Char} (h : Token.Begins c d t)
    (hc : c.toNat < 128 ∧ isBlank c = false) (hd : d.toNat < 128 ∧ isBlank d = false)
    (hnone : ∀ word ∈ statementKeywords, diverge word.toList [c, d] = true) :
    ∃ p y, t = p ++ y ∧ Bars p := by
  obtain ⟨a, b, r, rfl, ha, hb⟩ := h
  refine ⟨[a, b], r, rfl, bars_of_solid ?_ (fun z => ⟨solid (lowerAfter [b, a] z), ?_⟩) hnone⟩
  · rw [List.forall_mem_cons, List.forall_mem_singleton, ← isBlank_toLower, ← isBlank_toLower b, ha,
      hb]
    exact ⟨hc.2, hd.2⟩
  · exact ((solid_lowerAfter_cons ha hc.1 hc.2 _ _).trans
      (congrArg (c :: ·) (solid_lowerAfter_cons hb hd.1 hd.2 _ _))).symm

/-- A change of the time zone that begins like a statement. -/
def Token.isOddShift (t : Token) : Bool :=
  t.kind == .zoneShift && t.text.head?.any (·.toLower == 'w')

/-- What is joined on to a comment before it opens no statement. -/
lemma exists_bars_of_leans {t : Token} (hshape : t.kind.isShaped = true → t.Shape)
    (hleans : t.leans = true) (hshift : t.isOddShift = false) : ∃ p y, t.text = p ++ y ∧ Bars p := by
  obtain hkind | hword := Bool.or_eq_true_iff.1 hleans
  · have hmem : t.kind ∈ [.cast, .zoneShift, .typeName, .assignment] := List.contains_iff_mem.1 hkind
    have hshaped : t.kind.isShaped = true := by
      simp only [List.mem_cons, List.not_mem_nil, or_false] at hmem
      obtain h | h | h | h := hmem <;> rw [h] <;> rfl
    cases hshape hshaped with
    | layout h =>
      have hlayout := h.isLayout
      simp only [List.mem_cons, List.not_mem_nil, or_false] at hmem
      obtain h | h | h | h := hmem <;> rw [h] at hlayout <;> cases hlayout
    | sign _ colon =>
      obtain ⟨r, hr⟩ := colon
      exact ⟨[':'], r, hr, bars_colon⟩
    | typeName _ name =>
      obtain hkindOf | hbegins := name
      · exact ⟨t.text, [], (List.append_nil _).symm,
          bars_of_capitals (opensNone_of_kindOf hkindOf)⟩
      · exact exists_bars_of_begins hbegins (by decide) (by decide) (by decide)
    | zoneShift isShift phrase =>
      obtain hbegins | ⟨a, ha, hw⟩ := phrase
      · exact exists_bars_of_begins hbegins (by decide) (by decide) (by decide)
      · rw [Token.isOddShift, isShift, Option.mem_def.1 ha, Option.any_some, hw] at hshift
        exact absurd hshift (by decide)
  · obtain ⟨-, hany⟩ := Bool.and_eq_true_iff.1 hword
    obtain ⟨w, hw, heq⟩ := List.any_eq_true.1 hany
    have hnone : ∀ w ∈ ["AS", "TIMESTAMP"], opensNone w.toList = true := by decide
    have hcapitals : upper t.text = w.toList := (beq_iff_eq.1 heq).symm
    exact ⟨t.text, [], (List.append_nil _).symm,
      bars_of_capitals (by rw [hcapitals]; exact hnone w hw)⟩

end QueryTutor.Query
