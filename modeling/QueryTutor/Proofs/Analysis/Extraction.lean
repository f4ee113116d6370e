import QueryTutor.Proofs.Analysis.Clause
import QueryTutor.Proofs.Text.Occurrence
import QueryTutor.Proofs.Text.Small

/-!
# Extracting clauses

The clause of a keyword is cut out exactly if the keyword stands in the text as whole words, at
whatever depth, and what is cut out begins with it.
-/

namespace QueryTutor.Analysis
open Text Phrase

variable {before : Option Char} {t u v w q rest : List Char} {k p : String}

/-! ## Keywords -/

/-- One of the phrases at which a clause begins stands over the piece `w` of a text as whole words,
behind the character `before` and with `rest` behind it. -/
structure Covers (p : String) (before : Option Char) (w rest : List Char) : Prop where
  mem : p ∈ boundaryPhrases
  strip : strip? p.toList w = some []
  before : continuesWord before = false
  behind : startsWithWord rest = false

lemma isPlain_of_mem (hp : p ∈ boundaryPhrases) : isPlain p.toList = true :=
  closed_boundaryPhrases.distinct.plain _ (List.mem_map_of_mem hp)

lemma getLast?_ne_of_mem (hp : p ∈ boundaryPhrases) : p.toList.getLast? ≠ some ' ' :=
  closed_boundaryPhrases.getLast?_ne p hp

/-- A phrase that stands somewhere covers a piece of the text. -/
lemma exists_covers (hp : p ∈ boundaryPhrases) (h : wholeAt? p.toList before t = some rest) :
    ∃ w, t = w ++ rest ∧ Covers p before w rest := by
  obtain ⟨hbefore, hstrip, hrest⟩ := wholeAt?_eq_some.1 h
  obtain ⟨w, hw, hcover⟩ := exists_cover (isPlain_of_mem hp) (getLast?_ne_of_mem hp) hstrip
  exact ⟨w, hw, hp, hcover, hbefore, hrest⟩

namespace Covers

lemma wholeAt? (h : Covers p before w rest) :
    Phrase.wholeAt? p.toList before (w ++ rest) = some rest :=
  wholeAt?_cover (getLast?_ne_of_mem h.mem) h.strip h.before h.behind

lemma startsBlank (h : Covers p before w rest) : Text.startsBlank w = false ∧ w ≠ [] := by
  obtain ⟨hstart, hne⟩ :=
    closed_boundaryPhrases.distinct.starts _ (List.mem_map_of_mem h.mem)
  exact startsBlank_cover (isPlain_of_mem h.mem) hstart hne h.strip

lemma length_pos (h : Covers p before w rest) : 0 < w.length :=
  List.length_pos_of_ne_nil h.startsBlank.2

lemma getLast? (h : Covers p before w rest) : ∀ c ∈ w.getLast?, isBlank c = false :=
  isBlank_getLast?_cover (isPlain_of_mem h.mem) (getLast?_ne_of_mem h.mem) h.strip

/-- A keyword has no signs in it. -/
lemma ne_sign (h : Covers p before w rest) {c : Char} (hc : c ∈ w) : c ≠ ';' ∧ c ≠ ')' := by
  have hsigns : ∀ d : Char, d = ';' ∨ d = ')' →
      isBlank d = false ∧ (Fold.key d).isLower = false := by
    rintro d (rfl | rfl) <;> decide
  have hnot : ¬ (c = ';' ∨ c = ')') := fun hsign => by
    obtain ⟨hblank, hlower⟩ := hsigns c hsign
    obtain h | h := isBlank_or_isLower_key (isPlain_of_mem h.mem) h.strip hc
    · exact absurd (h.symm.trans hblank) nofun
    · exact absurd (h.symm.trans hlower) nofun
  exact not_or.1 hnot

end Covers

/-! ## Boundaries and their keywords -/

lemma le_start_of_mem_boundariesFrom {skip start : Nat} {top : List Bool} {b : Boundary}
    (h : b ∈ boundariesFrom before skip start t top) : start + skip ≤ b.start := by
  induction t generalizing before skip start top with
  | nil =>
    rw [boundariesFrom] at h
    cases h
  | cons c t ih =>
    cases skip with
    | succ skip =>
      rw [boundariesFrom] at h
      have := ih h
      omega
    | zero =>
      have later : ∀ {skip}, b ∈ boundariesFrom (some c) skip (start + 1) t top.tail →
          start + 0 ≤ b.start := fun h => by
        have := ih h
        omega
      rw [boundariesFrom] at h
      split at h
      case h_1 =>
        dsimp only at h
        split_ifs at h
        · obtain rfl | h := List.mem_cons.1 h
          · exact le_rfl
          · exact later h
        · exact later h
      case h_2 => exact later h

/-- The boundary is that of a keyword `w` in the text, which begins at `start` behind the character
`before`. -/
def Opens (before : Option Char) (start : Nat) (t : List Char) (b : Boundary) (w : List Char) :
    Prop :=
  ∃ u rest p, t = u ++ (w ++ rest) ∧ Covers p (u.getLast?.or before) w rest ∧
    b = ⟨clauseKind w, start + u.length⟩

/-- What opens in a text opens in the text with a character before it. -/
lemma Opens.cons {c : Char} {start : Nat} {b : Boundary} (h : Opens (some c) (start + 1) t b w) :
    Opens before start (c :: t) b w := by
  obtain ⟨u, rest, p, rfl, hcovers, rfl⟩ := h
  refine ⟨c :: u, rest, p, rfl, by rwa [getLast?_cons_or], ?_⟩
  rw [List.length_cons, Nat.add_assoc, Nat.add_comm 1]

/-- Each boundary is that of a keyword, and those behind it lie behind the keyword. -/
lemma exists_opens {skip start : Nat} {top : List Bool} {b : Boundary}
    {earlier later : List Boundary}
    (h : boundariesFrom before skip start t top = earlier ++ b :: later) :
    ∃ w, Opens before start t b w ∧ ∀ n ∈ later, b.start + w.length ≤ n.start := by
  induction t generalizing before skip start top earlier with
  | nil =>
    rw [boundariesFrom] at h
    exact absurd h (by simp)
  | cons c t ih =>
    have behind : ∀ {skip earlier},
        boundariesFrom (some c) skip (start + 1) t top.tail = earlier ++ b :: later →
        ∃ w, Opens before start (c :: t) b w ∧ ∀ n ∈ later, b.start + w.length ≤ n.start :=
      fun h => (ih h).imp fun _ hw => ⟨hw.1.cons, hw.2⟩
    cases skip with
    | succ skip =>
      rw [boundariesFrom] at h
      exact behind h
    | zero =>
      rw [boundariesFrom] at h
      split at h
      case h_2 => exact behind h
      case h_1 rest hphrase =>
        dsimp only at h
        split_ifs at h
        · cases earlier with
          | cons _ earlier => exact behind (List.cons.inj h).2
          | nil =>
            -- this is the boundary, and the others are counted from behind its keyword
            obtain ⟨rfl, rfl⟩ := List.cons.inj h
            obtain ⟨p, hp, hwhole⟩ := List.exists_of_findSome?_eq_some hphrase
            obtain ⟨w, hw, hcovers⟩ := exists_covers hp hwhole
            have hpos := hcovers.length_pos
            have hlength := congrArg List.length hw
            rw [List.length_append, List.length_cons] at hlength
            have hkeyword : (c :: t).take (t.length + 1 - rest.length) = w := by
              have hlen : t.length + 1 - rest.length = w.length := by omega
              rw [hlen, hw, List.take_left]
            rw [hkeyword]
            refine ⟨w, ⟨[], rest, p, hw, hcovers, rfl⟩, fun n hn => ?_⟩
            have := le_start_of_mem_boundariesFrom hn
            dsimp only
            omega
        · exact behind h

lemma kind_of_boundariesAt {kind : List Char} {b : Boundary} {later : List Boundary}
    (h : boundariesAt kind q = b :: later) : b.kind = kind := by
  have hhead := List.head?_dropWhile_not (fun b : Boundary => b.kind != kind) (boundaries q)
  rw [← boundariesAt, h] at hhead
  simpa using hhead

/-! ## Kinds of clauses -/

/-- The keywords whose clauses can be cut out. -/
def clauseKeywords : List String :=
  ["from", "join", "where", "group by", "select", "order by", "limit"]

/-- The phrases that open the clause of a keyword: the keyword, and `join` behind sides. -/
def openings (k : String) : List String :=
  boundaryPhrases.filter fun p => p == k || (k == "join" && "join".toList.isSuffixOf p.toList)

/-- A phrase with the letters of a keyword opens its clause, and so does one whose letters end with
those of `join`. -/
lemma mem_openings_of_solid : ∀ p ∈ boundaryPhrases, ∀ k ∈ clauseKeywords,
    solid p.toList = solid k.toList ∨ (k = "join" ∧ "join".toList <:+ solid p.toList) →
      p ∈ openings k := by
  decide

/-- A phrase that opens the clause of a keyword ends with it, as words. -/
lemma exists_led : ∀ k ∈ clauseKeywords, ∀ p ∈ openings k,
    ∃ led, p.toList = led ++ k.toList ∧ (led = [] ∨ led.getLast? = some ' ') := by
  have hall : ∀ k ∈ clauseKeywords, ∀ p ∈ openings k,
      p.toList = p.toList.take (p.length - k.length) ++ k.toList ∧
        (p.toList.take (p.length - k.length) = [] ∨
          (p.toList.take (p.length - k.length)).getLast? = some ' ') := by
    decide
  exact fun k hk p hp => ⟨_, hall k hk p hp⟩

/-- The character is not the dot that the small letters of a dotted `I` have. -/
def isNoDot (c : Char) : Bool :=
  c != '\u0307'

/-- In small letters, a keyword has the small letters of its characters, but for dots. -/
lemma filter_lowerAfter (before : List Char)
    (hw : ∀ c ∈ w, isBlank c = true ∨ (Fold.key c).isLower = true) :
    (lowerAfter before w).filter isNoDot = w.map lowerChar := by
  induction w generalizing before with
  | nil => rfl
  | cons c w ih =>
    obtain ⟨hc, hrest⟩ := List.forall_mem_cons.1 hw
    have hdot : isNoDot (lowerChar c) = true := by
      rw [isNoDot, bne_iff_ne]
      intro h
      rw [← isBlank_lowerChar, ← key_lowerChar, h] at hc
      exact absurd hc (by decide)
    have hsigma : c ≠ '\u03a3' := by
      rintro rfl
      exact absurd hc (by decide)
    rw [lowerAfter, if_neg hsigma, List.map_cons]
    split_ifs with hdotted
    · rw [hdotted, List.filter_cons_of_pos (by decide), List.filter_cons_of_neg (by decide),
        ih _ hrest, show lowerChar '\u0130' = 'i' by decide]
    · rw [List.filter_cons_of_pos hdot, ih _ hrest]

/-- The letters of a keyword's kind are those of its phrase. -/
lemma Covers.map_key_lower (h : Covers p before w rest) :
    ((solid (lower w)).filter isNoDot).map Fold.key = solid p.toList := by
  have hletters := fun c => isBlank_or_isLower_key (isPlain_of_mem h.mem) h.strip (c := c)
  have hsolid : solid (w.map lowerChar) = (solid w).map lowerChar := by
    simp only [solid, List.filter_map, Function.comp_def, isBlank_lowerChar]
  have hkey : ((solid w).map lowerChar).map Fold.key = (solid w).map Fold.key := by
    rw [List.map_map]
    exact List.map_congr_left fun c _ => key_lowerChar c
  have hfilter : (solid (lower w)).filter isNoDot
      = solid ((lower w).filter isNoDot) := by
    rw [solid, solid, List.filter_filter, List.filter_filter]
    simp only [Bool.and_comm]
  rw [hfilter, lower, filter_lowerAfter [] hletters, hsolid, hkey,
    map_key_solid (isPlain_of_mem h.mem) h.strip]

/-- A keyword of the kind of another one is a phrase that opens its clause. -/
lemma Covers.mem_openings (h : Covers p before w rest) (hk : k ∈ clauseKeywords)
    (hkind : clauseKind w = k.toList) : p ∈ openings k := by
  have hself : ∀ k ∈ clauseKeywords,
      ((solid k.toList).filter isNoDot).map Fold.key = solid k.toList := by decide
  have hsolid : solid (trim (squeeze (lower w))) = solid (lower w) := by
    rw [trim, solid_trimLeft, solid_trimRight, solid_squeeze]
  apply mem_openings_of_solid p h.mem k hk
  rw [← h.map_key_lower, ← hsolid]
  rw [clauseKind] at hkind
  split_ifs at hkind with hjoin
  · obtain ⟨front, hfront⟩ := List.isSuffixOf_iff_suffix.1 hjoin
    refine .inr ⟨String.toList_inj.1 hkind.symm, ?_⟩
    rw [← hfront, solid_append, List.filter_append, List.map_append]
    exact ⟨_, rfl⟩
  · exact .inl (by rw [hkind, hself k hk])

/-! ## Clauses -/

/-- The text begins, as whole words, with a phrase that opens the clause of the keyword. -/
def StartsClause (k : String) (t : List Char) : Prop :=
  ∃ p ∈ openings k, (wholeAt? p.toList none t).isSome = true

lemma StartsClause.ne_nil (h : StartsClause k t) : t ≠ [] := by
  obtain ⟨p, hp, hwhole⟩ := h
  obtain ⟨rest, hrest⟩ := Option.isSome_iff_exists.1 hwhole
  obtain ⟨w, rfl, hcovers⟩ := exists_covers (List.mem_of_mem_filter hp) hrest
  exact List.append_ne_nil_of_left_ne_nil hcovers.startsBlank.2 rest

namespace Covers

/-- A keyword in front of a text stays in front when white space is dropped at the ends. -/
lemma trim (h : Covers p before w rest) (v : List Char) :
    ∃ v', v' <+: v ∧ Text.trim (w ++ v) = w ++ v' := by
  refine ⟨dropTrailing isBlank v, isPrefix_dropTrailing _ _, ?_⟩
  obtain ⟨c, w', rfl⟩ := List.exists_cons_of_ne_nil h.startsBlank.2
  rw [Text.trim, trimRight, dropTrailing_append_of_getLast? h.getLast?]
  exact trimLeft_of_not_startsBlank h.startsBlank.1

/-- A keyword in front of a text stays in front when semicolons are dropped at its end. -/
lemma dropSemicolons (h : Covers p before w rest) (v : List Char) :
    ∃ v', v' <+: v ∧ Analysis.dropSemicolons (w ++ v) = w ++ v' := by
  have hlast : ∀ c ∈ w.getLast?, (c == ';') = false := fun c hc =>
    beq_eq_false_iff_ne.2 (h.ne_sign (List.mem_of_getLast? hc)).1
  obtain ⟨v₁, hv₁, heq₁⟩ := h.trim v
  obtain ⟨v₂, hv₂, heq₂⟩ := h.trim (dropTrailing (· == ';') v₁)
  refine ⟨v₂, (hv₂.trans (isPrefix_dropTrailing _ _)).trans hv₁, ?_⟩
  rw [Analysis.dropSemicolons, heq₁, dropTrailing_append_of_getLast? hlast, heq₂]

/-- A keyword in front of a text stays in front up to the next semicolon or parenthesis. -/
lemma untilClosed (h : Covers p before w rest) (v : List Char) :
    ∃ v', v' <+: v ∧ Analysis.untilClosed (w ++ v) = w ++ v' := by
  have hw : ∀ c ∈ w, (c != ';' && c != ')') = true := fun c hc => by
    rw [Bool.and_eq_true, bne_iff_ne, bne_iff_ne]
    exact h.ne_sign hc
  obtain ⟨v', hv', heq⟩ := h.trim (v.takeWhile fun c => c != ';' && c != ')')
  refine ⟨v', hv'.trans (List.takeWhile_prefix _), ?_⟩
  rw [Analysis.untilClosed, List.takeWhile_append_of_pos hw, heq]

lemma startsClause (h : Covers p before w rest) (hp : p ∈ openings k) (hv : v <+: rest) :
    StartsClause k (w ++ v) := by
  have hbehind := startsWithWord_of_prefix hv h.behind
  exact ⟨p, hp, by rw [wholeAt?_cover (getLast?_ne_of_mem h.mem) h.strip rfl hbehind]; rfl⟩

/-- Where a phrase stands that opens the clause of a keyword, so does the keyword. -/
lemma occurs (h : Covers p u.getLast? w rest) (hk : k ∈ clauseKeywords) (hp : p ∈ openings k) :
    Phrase.occurs k.toList (u ++ (w ++ rest)) = true := by
  obtain ⟨led, hled, hspace⟩ := exists_led k hk p hp
  have hwhole := h.wholeAt?
  rw [hled] at hwhole
  obtain ⟨u', v, heq, hv⟩ := exists_wholeAt?_of_suffix hspace hwhole
  refine occurs_iff.2 ⟨u ++ u', v, by rw [List.append_assoc, heq], ?_⟩
  rw [List.getLast?_append, hv]
  rfl

end Covers

/-- A clause at top level begins with its keyword, which stands in the text. -/
lemma startsClause_of_topClause? (hk : k ∈ clauseKeywords) {clause : List Char}
    (h : topClause? k.toList q = some clause) :
    occurs k.toList q = true ∧ StartsClause k clause := by
  rw [topClause?] at h
  split at h
  case h_1 => cases h
  case h_2 b later hat =>
    dsimp only at h
    -- the first boundary of the kind, and what stands before and behind it
    have hsplit := List.takeWhile_append_dropWhile (p := fun b : Boundary => b.kind != k.toList)
      (l := boundaries q)
    rw [← boundariesAt, hat] at hsplit
    have hkind : b.kind = k.toList := kind_of_boundariesAt hat
    obtain ⟨w, ⟨u, rest, p, rfl, hcovers, rfl⟩, hlater⟩ := exists_opens hsplit.symm
    rw [Option.or_none] at hcovers
    have hp : p ∈ openings k := hcovers.mem_openings hk hkind
    refine ⟨hcovers.occurs hk hp, ?_⟩
    -- the clause goes on at least through its keyword
    have hclause : ∀ stop, u.length + w.length ≤ stop →
        StartsClause k (dropSemicolons (slice (u ++ (w ++ rest)) (0 + u.length) stop)) := by
      intro stop hstop
      rw [slice, Nat.zero_add, List.drop_left, List.take_append, List.take_of_length_le (by omega)]
      obtain ⟨v, hv, heq⟩ := hcovers.dropSemicolons (rest.take (stop - u.length - w.length))
      rw [heq]
      exact hcovers.startsClause hp (hv.trans (List.take_prefix _ _))
    rw [← Option.some.inj h]
    apply hclause
    split
    case h_1 n more hnext =>
      have hn : n ∈ later := by
        split_ifs at hnext
        · exact (List.dropWhile_sublist _).subset (hnext ▸ List.mem_cons_self)
        · exact hnext ▸ List.mem_cons_self
      have := hlater n hn
      dsimp only at this
      omega
    case h_2 =>
      simp only [List.length_append]
      omega

/-- The phrases that are looked for inside parentheses are the keyword and others that open its
clause. -/
lemma mem_innerPhrases : ∀ k ∈ clauseKeywords,
    k ∈ (if k.toList == "join".toList then joinPhrases else [String.ofList k.toList]) ∧
      ∀ p ∈ (if k.toList == "join".toList then joinPhrases else [String.ofList k.toList]),
        p ∈ openings k := by
  decide

/-- A clause is looked for inside parentheses from the first place where its keyword stands. -/
lemma innerClause_cases (hk : k ∈ clauseKeywords) {phrases : List String} (hmem : k ∈ phrases)
    (hphrases : ∀ p ∈ phrases, p ∈ openings k) :
    (occurs k.toList q = true ∧ StartsClause k (innerClause phrases q)) ∨
      (occurs k.toList q = false ∧ innerClause phrases q = []) := by
  rw [innerClause]
  split
  case h_1 found rest hfound =>
    obtain ⟨u, rfl, hphrase⟩ := findFrom_eq_some hfound
    obtain ⟨p, hp, hwhole⟩ := List.exists_of_findSome?_eq_some hphrase
    have hopen := hphrases p hp
    obtain ⟨w, rfl, hcovers⟩ := exists_covers (List.mem_of_mem_filter hopen) hwhole
    rw [Option.or_none] at hcovers
    obtain ⟨v, hv, heq⟩ := hcovers.untilClosed rest
    exact .inl ⟨hcovers.occurs hk hopen, heq ▸ hcovers.startsClause hopen hv⟩
  case h_2 hnone =>
    refine .inr ⟨Bool.eq_false_iff.2 fun hoccurs => ?_, rfl⟩
    obtain ⟨u, v, rfl, hwhole⟩ := occurs_iff.1 hoccurs
    have hfound : (findFrom (phraseAt? phrases) none (u ++ v)).isSome = true := by
      refine isSome_findFrom_iff.2 ⟨u, v, rfl, ?_⟩
      rw [Option.or_none, phraseAt?, List.findSome?_isSome_iff]
      exact ⟨k, hmem, hwhole⟩
    rw [hnone] at hfound
    cases hfound

/-- What is cut out as the clause of a keyword begins with it, unless the keyword stands nowhere in
the text and nothing is cut out. -/
lemma extractClause_cases (hk : k ∈ clauseKeywords) {keyword : List Char}
    (hkind : clauseKind keyword = k.toList) (q : List Char) :
    (occurs k.toList q = true ∧ StartsClause k (extractClause keyword q)) ∨
      (occurs k.toList q = false ∧ extractClause keyword q = []) := by
  obtain ⟨hmem, hphrases⟩ := mem_innerPhrases k hk
  rw [extractClause, hkind]
  cases htop : topClause? k.toList q with
  | some clause => exact .inl (startsClause_of_topClause? hk htop)
  | none => exact innerClause_cases hk hmem hphrases

end QueryTutor.Analysis
