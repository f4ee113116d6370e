import QueryTutor.Proofs.Analysis.Reference
import QueryTutor.Proofs.Catalog.Connectives
import QueryTutor.Proofs.Catalog.PlainForm
import QueryTutor.Proofs.Text.Front

/-!
# Joins by commas

A list of tables behind `from` is detected as a join by commas if the name of its first table and
its alias are made of the characters of words.  Names with a schema or a dollar sign are tables too,
but no list that begins with one is detected.
-/

namespace QueryTutor.Catalog
open Pattern Text Mistake

variable {u w v x y : List Char}

/-! ## The pattern -/

/-- The piece is made of characters of words. -/
def IsWords (w : List Char) : Prop :=
  1 ≤ w.length ∧ ∀ c ∈ w, isWord c = true

/-- The pattern of `AS`, if it is there. -/
def asPattern : Pattern :=
  many .greedy 0 (some 1) (ofList (['A', 'S'].map char ++ [spaces]))

/-- The pattern of an alias, with or without `AS`, if there is one. -/
def aliasPattern : Pattern :=
  many .greedy 0 (some 1) (ofList [spaces, asPattern, word])

/-- The pattern of a table behind `FROM`, a comma and another name. -/
def commaJoin : Pattern :=
  ofList (edge :: (['F', 'R', 'O', 'M'].map char
    ++ [spaces, word, aliasPattern, blanks, char ',', blanks, word]))

/-- The piece is the word `as` and white space, or nothing. -/
def IsAs (w : List Char) : Prop :=
  w = [] ∨ ∃ k b, w = k ++ b ∧ Reads "as" k ∧ IsSpace b

/-- The piece is white space and an alias of the kind, with or without `as`. -/
def IsAlias (P : List Char → Prop) (w : List Char) : Prop :=
  ∃ b a n, w = b ++ (a ++ n) ∧ IsSpace b ∧ IsAs a ∧ P n

/-- The text begins with `from`, a table and its alias, a comma and another name. -/
def StartsCommaJoin (y : List Char) : Prop :=
  ∃ k b n a s s' m v, y = k ++ (b ++ (n ++ (a ++ (s ++ ',' :: (s' ++ (m ++ v)))))) ∧
    Reads "from" k ∧ IsSpace b ∧ IsWords n ∧ (a = [] ∨ IsAlias IsWords a) ∧
    (∀ c ∈ s, isBlank c = true) ∧ (∀ c ∈ s', isBlank c = true) ∧ IsWords m

/-- A set of one category is met by the characters that belong to it. -/
lemma meetsPiece_category {f : Char → Bool} {k : Pattern.Category}
    (hf : ∀ c, detectionMode.belongs c k = f c) {greed : Greed} {least : Nat} :
    (many greed least none (set false [.category k false])).MeetsPiece u w v ↔
      least ≤ w.length ∧ ∀ c ∈ w, f c = true := by
  have hset : ∀ c, detectionMode.meetsSet false [.category k false] c = f c := by
    intro c
    rw [← hf]
    simp [Mode.meetsSet, Mode.meetsItem]
  rw [meetsPiece_many (fun _ _ => Iff.rfl)]
  simp only [hset]

lemma meetsPiece_word : word.MeetsPiece u w v ↔ IsWords w :=
  meetsPiece_category fun _ => rfl

lemma meetsPiece_blanks : blanks.MeetsPiece u w v ↔ ∀ c ∈ w, isBlank c = true := by
  rw [blanks, meetsPiece_category (f := isBlank) (k := .blank) fun c => Bool.and_true (isBlank c)]
  exact and_iff_right (Nat.zero_le _)

lemma meetsPiece_comma : (char ',').MeetsPiece u w v ↔ w = [','] := by
  have hcomma : ∀ c, detectionMode.meets ',' c = true ↔ c = ',' := by
    intro c
    constructor
    · intro h
      have hlower : c.toLower = ','.toLower := toLower_eq_of_meets (by decide) h
      have heq := congr_of_toLower (f := (· == ',')) (fun d hd => forall_ascii
        (P := fun d => (d.toLower == ',') = (d == ',')) (by decide) hd) hlower
      exact beq_iff_eq.1 heq
    · rintro rfl
      decide
  refine meetsPiece_step.trans ?_
  simp only [hcomma]
  exact ⟨fun ⟨c, hw, hc⟩ => hc ▸ hw, fun hw => ⟨',', hw, rfl⟩⟩

lemma meetsPiece_as : asPattern.MeetsPiece u w v ↔ IsAs w := by
  rw [asPattern, meetsPiece_optional, meetsPiece_append (groupless_chars _)]
  simp only [meetsPiece_chars, ofList, meetsPiece_spaces]
  refine or_congr_right (exists_congr fun k => exists_congr fun b => and_congr_right fun _ => ?_)
  exact and_congr_left fun _ => metBy_iff_reads (by decide)

lemma meetsPiece_alias : aliasPattern.MeetsPiece u w v ↔ w = [] ∨ IsAlias IsWords w := by
  rw [aliasPattern, meetsPiece_optional]
  refine or_congr_right ?_
  simp only [meetsPiece_cons (p := spaces) rfl, meetsPiece_spaces,
    meetsPiece_cons (p := asPattern) rfl, meetsPiece_as, show ofList [word] = word from rfl,
    meetsPiece_word]
  constructor
  · rintro ⟨b, _, rfl, hb, a, n, rfl, ha, hn⟩
    exact ⟨b, a, n, rfl, hb, ha, hn⟩
  · rintro ⟨b, a, n, rfl, hb, ha, hn⟩
    exact ⟨b, _, rfl, hb, a, n, rfl, ha, hn⟩

/-- A join by commas is detected where no word goes on before one that the text has. -/
lemma occurs_commaJoin_iff : commaJoin.occurs detectionMode x = true ↔
    ∃ u y, x = u ++ y ∧ u.getLast?.any isWord = false ∧ StartsCommaJoin y := by
  have hpiece : ∀ u y, (∃ t, commaJoin.Meets detectionMode (.between u y) t) ↔
      u.getLast?.any isWord = false ∧ StartsCommaJoin y := by
    intro u y
    rw [exists_meets_iff rfl, commaJoin]
    simp only [meetsPiece_cons (p := edge) rfl, meetsPiece_append (groupless_chars _),
      meetsPiece_chars, meetsPiece_edge, meetsPiece_cons (p := spaces) rfl, meetsPiece_spaces,
      meetsPiece_cons (p := word) rfl, meetsPiece_word, meetsPiece_cons (p := aliasPattern) rfl,
      meetsPiece_alias, meetsPiece_cons (p := blanks) rfl, meetsPiece_blanks,
      meetsPiece_cons (p := char ',') rfl, meetsPiece_comma, show ofList [word] = word from rfl]
    have hfrom : ∀ k, MetBy ['F', 'R', 'O', 'M'] k → ∀ z : List Char,
        (k ++ z).head?.any isWord = true := fun k hk z =>
      startsWord_append (startsWord_of_metBy (by decide) hk) z
    constructor
    · rintro ⟨_, v, rfl, _, _, rfl, ⟨rfl, hedge⟩, k, _, rfl, hk, b, _, rfl, hb, n, _, rfl, hn, a, _,
        rfl, ha, s, _, rfl, hs, _, _, rfl, rfl, s', m, rfl, hs', hm⟩
      rw [List.append_assoc, hfrom k hk] at hedge
      refine ⟨by simpa using hedge, k, b, n, a, s, s', m, v, by simp, ?_, hb, hn, ha, hs, hs', hm⟩
      exact (metBy_iff_reads (by decide)).1 hk
    · rintro ⟨hu, k, b, n, a, s, s', m, v, rfl, hk, hb, hn, ha, hs, hs', hm⟩
      have hk : MetBy ['F', 'R', 'O', 'M'] k := (metBy_iff_reads (by decide)).2 hk
      refine ⟨k ++ (b ++ (n ++ (a ++ (s ++ ([','] ++ (s' ++ m)))))), v, by simp, [], _, rfl,
        ⟨rfl, ?_⟩, k, _, rfl, hk, b, _, rfl, hb, n, _, rfl, hn, a, _, rfl, ha, s, _, rfl, hs, _, _,
        rfl, rfl, s', m, rfl, hs', hm⟩
      change (u.getLast?.any isWord != (k ++ _ ++ v).head?.any isWord) = true
      rw [List.append_assoc, hfrom k hk, hu]
      rfl
  rw [occurs_iff rfl]
  simp only [hpiece]

lemma patterns_implicitJoin {x : List Char} :
    Pattern.anyOccursIn detectionMode x Standard.implicitJoin.patterns
      = .ok (commaJoin.occurs detectionMode x) :=
  anyOccursIn_singleton (occursIn_of_parsesTo (by decide) _ _)

/-! ## Lists of tables -/

/-- A table in a list: its name, maybe with a schema, and its alias, if there is one. -/
structure Reference where
  name : List Char
  aliased : List Char
  name_eq : Analysis.tableName? name = some (name, [])
  aliased_eq : aliased = [] ∨ IsAlias (fun n => Analysis.tablePart? n = some (n, [])) aliased

/-- A comma, and the white space before and behind it. -/
structure Comma where
  before : List Char
  behind : List Char
  isBlank_before : ∀ c ∈ before, isBlank c = true
  isBlank_behind : ∀ c ∈ behind, isBlank c = true

/-- The text of a table in a list. -/
def Reference.text (t : Reference) : List Char :=
  t.name ++ t.aliased

/-- The text of a comma in a list. -/
def Comma.text (c : Comma) : List Char :=
  c.before ++ ',' :: c.behind

/-- The text of a list of tables. -/
def tableList (first : Reference) (others : List (Comma × Reference)) : List Char :=
  first.text ++ others.flatMap fun o => o.1.text ++ o.2.text

/-- A query that selects from a list of tables. -/
def selection (list : List Char) (first : Reference) (others : List (Comma × Reference))
    (r : List Char) : List Char :=
  "SELECT ".toList ++ (list ++ (" FROM ".toList ++ (tableList first others ++ r)))

/-- The table has no schema, and no dollar sign in its name and alias. -/
def Reference.IsPlain (t : Reference) : Prop :=
  ∀ c ∈ t.text, c ≠ '.' ∧ c ≠ '$'

lemma Reference.isPlain_iff (t : Reference) :
    t.IsPlain ↔ t.text.all (fun c => c != '.' && c != '$') = true := by
  simp only [Reference.IsPlain, List.all_eq_true, Bool.and_eq_true, bne_iff_ne]

instance (t : Reference) : Decidable t.IsPlain :=
  decidable_of_iff' _ t.isPlain_iff

/-! ## Pieces of lists -/

/-- White space or a comma follows. -/
def StartsGap (t : List Char) : Prop :=
  ∀ c ∈ t.head?, isBlank c = true ∨ c = ','

/-- The piece goes on without white space and commas. -/
def IsGapless (w : List Char) : Prop :=
  w ≠ [] ∧ ∀ c ∈ w, isBlank c = false ∧ c ≠ ','

lemma startsGap_comma {b : List Char} (hb : ∀ c ∈ b, isBlank c = true) (t : List Char) :
    StartsGap (b ++ ',' :: t) := by
  intro c hc
  cases b with
  | nil => exact .inr (Option.some.inj hc).symm
  | cons d b => exact .inl (Option.some.inj hc ▸ hb d List.mem_cons_self)

lemma startsGap_space {b : List Char} (hb : IsSpace b) (t : List Char) : StartsGap (b ++ t) := by
  obtain ⟨hlen, hblank⟩ := hb
  intro c hc
  cases b with
  | nil => cases hlen
  | cons d b => exact .inl (Option.some.inj hc ▸ hblank d List.mem_cons_self)

lemma IsGapless.head? (h : IsGapless w) (t : List Char) :
    ∀ c ∈ (w ++ t).head?, isBlank c = false ∧ c ≠ ',' := by
  obtain ⟨hne, hall⟩ := h
  intro c hc
  cases w with
  | nil => exact absurd rfl hne
  | cons d w => exact Option.some.inj hc ▸ hall d List.mem_cons_self

lemma gapless_of_isTablePart {c : Char} (h : Analysis.isTablePart c = true) :
    isBlank c = false ∧ c ≠ ',' := by
  constructor
  · by_contra hblank
    rw [(Analysis.endsName (by simpa using hblank)).isTablePart] at h
    cases h
  · rintro rfl
    exact absurd h (by decide)

lemma IsWords.isGapless (h : IsWords w) : IsGapless w := by
  refine ⟨List.ne_nil_of_length_pos h.1, fun c hc => gapless_of_isTablePart ?_⟩
  rw [Analysis.isTablePart, h.2 c hc, Bool.true_or]

/-- What is read as a word of small letters is made of characters of words. -/
lemma isWords_of_reads {word : String} (h : Reads word w) (hne : word.toList ≠ [])
    (hlower : word.toList.all Char.isLower = true) : IsWords w := by
  refine ⟨List.length_pos_of_ne_nil fun hw => ?_, fun c hc => isWord_of_isLower_key ?_⟩
  · rw [Reads, hw] at h
    exact hne h.symm
  · have hkey := List.mem_map_of_mem (f := Fold.key) hc
    rw [h] at hkey
    exact List.all_eq_true.1 hlower _ hkey

lemma isWords_as (h : Reads "as" w) : IsWords w :=
  isWords_of_reads h (by decide) (by decide)

lemma isGapless_of_tablePart? (h : Analysis.tablePart? w = some (w, [])) : IsGapless w := by
  obtain ⟨-, hchars⟩ := Analysis.tablePart?_eq_some h
  refine ⟨?_, fun c hc => gapless_of_isTablePart (hchars c hc)⟩
  rintro rfl
  cases h

lemma isGapless_of_tableName? (h : Analysis.tableName? w = some (w, [])) : IsGapless w := by
  obtain ⟨-, hchars⟩ := Analysis.tableName?_eq_some h
  refine ⟨?_, fun c hc => ?_⟩
  · rintro rfl
    cases h
  · obtain hpart | rfl := hchars c hc
    · exact gapless_of_isTablePart hpart
    · decide

/-- What is made of characters of words up to a gap is the piece up to the gap. -/
lemma append_gap_inj {m n t t' : List Char} (hn : IsWords n) (ht : StartsGap t) (hm : IsGapless m)
    (ht' : StartsGap t') (h : n ++ t = m ++ t') : n = m ∧ t = t' := by
  refine append_inj_of_edge hn.2 ht (fun c hc => ?_) (fun c hc hword => ?_) h
  · obtain ⟨hblank, hcomma⟩ := hm.2 c hc
    simp [hblank, hcomma]
  · obtain hblank | rfl := ht' c hc
    · rw [(letterless hblank).isWord] at hword
      cases hword
    · exact absurd hword (by decide)

/-- White space up to a character that is none is all the white space there. -/
lemma append_blank_inj {b b' t t' : List Char} (hb : ∀ c ∈ b, isBlank c = true)
    (ht : ∀ c ∈ t.head?, isBlank c = false) (hb' : ∀ c ∈ b', isBlank c = true)
    (ht' : ∀ c ∈ t'.head?, isBlank c = false) (h : b ++ t = b' ++ t') : b = b' ∧ t = t' := by
  refine append_inj_of_edge (P := fun c => isBlank c = true) (Q := fun c => isBlank c = false) hb ht
    (fun c hc => ?_) (fun c hc => ?_) h
  · simp [hb' c hc]
  · simp [ht' c hc]

/-- Behind white space, a comma is not the beginning of a name. -/
lemma append_comma_ne {b b' t t' : List Char} (hb : ∀ c ∈ b, isBlank c = true)
    (hb' : ∀ c ∈ b', isBlank c = true) (ht' : ∀ c ∈ t'.head?, isBlank c = false ∧ c ≠ ',') :
    b ++ ',' :: t ≠ b' ++ t' := by
  intro h
  have hcomma : ∀ c ∈ (',' :: t).head?, isBlank c = false := by
    rintro c ⟨⟩
    decide
  obtain ⟨-, rfl⟩ := append_blank_inj hb hcomma hb' (fun c hc => (ht' c hc).1) h
  obtain ⟨-, hne⟩ := ht' ',' rfl
  exact hne rfl

section Alias

variable {a b m n s s' t t' : List Char}

/-- Up to a comma, a word and the alias there are the same, with `as` or without it, or else the
alias is that `as`. -/
lemma isWords_of_as_append (ha : IsAs a) (hb : IsAs b) (hn : IsWords n) (hm : IsGapless m)
    (hs : ∀ c ∈ s, isBlank c = true) (hs' : ∀ c ∈ s', isBlank c = true)
    (h : a ++ (n ++ (s ++ ',' :: t)) = b ++ (m ++ (s' ++ ',' :: t'))) : IsWords m := by
  have hgap := startsGap_comma hs t
  have hgap' := startsGap_comma hs' t'
  obtain rfl | ⟨k, d, rfl, hk, hd⟩ := ha <;> obtain rfl | ⟨k', d', rfl, hk', hd'⟩ := hb
  · obtain ⟨rfl, -⟩ := append_gap_inj hn hgap hm hgap' h
    exact hn
  · rw [List.nil_append, List.append_assoc] at h
    obtain ⟨-, h⟩ := append_gap_inj hn hgap (isWords_as hk').isGapless (startsGap_space hd' _) h
    exact absurd h (append_comma_ne hs hd'.2 (hm.head? _))
  · rw [List.nil_append, List.append_assoc] at h
    obtain ⟨rfl, -⟩ := append_gap_inj (isWords_as hk) (startsGap_space hd _) hm hgap' h
    exact isWords_as hk
  · rw [List.append_assoc, List.append_assoc] at h
    obtain ⟨-, h⟩ := append_gap_inj (isWords_as hk) (startsGap_space hd _)
      (isWords_as hk').isGapless (startsGap_space hd' _) h
    obtain ⟨-, h⟩ := append_blank_inj hd.2 (fun c hc => (hn.isGapless.head? _ c hc).1) hd'.2
      (fun c hc => (hm.head? _ c hc).1) h
    obtain ⟨rfl, -⟩ := append_gap_inj hn hgap hm hgap' h
    exact hn

lemma head?_as_append (ha : IsAs a) (hn : IsGapless n) (t : List Char) :
    ∀ c ∈ (a ++ (n ++ t)).head?, isBlank c = false ∧ c ≠ ',' := by
  obtain rfl | ⟨k, d, rfl, hk, -⟩ := ha
  · exact hn.head? t
  · rw [List.append_assoc]
    exact (isWords_as hk).isGapless.head? _

lemma word_or_blank_of_as (ha : IsAs a) : ∀ c ∈ a, isWord c = true ∨ isBlank c = true := by
  obtain rfl | ⟨k, d, rfl, hk, hd⟩ := ha
  · nofun
  · intro c hc
    exact (List.mem_append.1 hc).imp ((isWords_as hk).2 c) (hd.2 c)

lemma startsGap_alias {P : List Char → Prop} (ha : a = [] ∨ IsAlias P a)
    (hs : ∀ c ∈ s, isBlank c = true) (t : List Char) : StartsGap (a ++ (s ++ ',' :: t)) := by
  obtain rfl | ⟨d, a, n, rfl, hd, -⟩ := ha
  · exact startsGap_comma hs t
  · rw [List.append_assoc]
    exact startsGap_space hd _

/-- What stands as an alias up to a comma is the alias up to the comma. -/
lemma word_or_blank_of_alias_append (ha : a = [] ∨ IsAlias IsWords a) (hb : IsAlias IsGapless b)
    (hs : ∀ c ∈ s, isBlank c = true) (hs' : ∀ c ∈ s', isBlank c = true)
    (h : a ++ (s ++ ',' :: t) = b ++ (s' ++ ',' :: t')) :
    ∀ c ∈ b, isWord c = true ∨ isBlank c = true := by
  obtain ⟨d', b, m, rfl, hd', hb, hm⟩ := hb
  rw [List.append_assoc, List.append_assoc] at h
  have hstart := head?_as_append hb hm (s' ++ ',' :: t')
  obtain rfl | ⟨d, a, n, rfl, hd, ha, hn⟩ := ha
  · exact absurd h (append_comma_ne hs hd'.2 hstart)
  · rw [List.append_assoc, List.append_assoc] at h
    have hstart' := head?_as_append ha hn.isGapless (s ++ ',' :: t)
    obtain ⟨-, h⟩ := append_blank_inj hd.2 (fun c hc => (hstart' c hc).1) hd'.2
      (fun c hc => (hstart c hc).1) h
    have hwords := isWords_of_as_append ha hb hn hm hs hs' h
    intro c hc
    obtain hc | hc | hc := by simpa only [List.mem_append] using hc
    · exact .inr (hd'.2 c hc)
    · exact word_or_blank_of_as hb c hc
    · exact .inl (hwords.2 c hc)

end Alias

lemma IsAlias.imp {P Q : List Char → Prop} (hPQ : ∀ n, P n → Q n) (h : IsAlias P w) :
    IsAlias Q w := by
  obtain ⟨b, a, n, hw, hb, ha, hn⟩ := h
  exact ⟨b, a, n, hw, hb, ha, hPQ n hn⟩

/-! ## Tables -/

lemma Reference.isAlias (t : Reference) : t.aliased = [] ∨ IsAlias IsGapless t.aliased :=
  t.aliased_eq.imp_right (.imp fun _ => isGapless_of_tablePart?)

lemma Reference.exists_cons (t : Reference) : ∃ c n, t.name = c :: n ∧ isWord c = true := by
  have hname := t.name_eq
  rw [Analysis.tableName?, Option.map_eq_some_iff] at hname
  obtain ⟨a, ha, -⟩ := hname
  cases hn : t.name with
  | nil =>
    rw [hn] at ha
    cases ha
  | cons c n =>
    rw [hn, Analysis.tablePart?] at ha
    split_ifs at ha with hc
    exact ⟨c, n, rfl, Analysis.isWord_of_isNameHead hc⟩

lemma isWord_of_isTablePart {c : Char} (h : Analysis.isTablePart c = true) (hc : c ≠ '$') :
    isWord c = true := by
  simpa [Analysis.isTablePart, hc] using h

/-- The name of a plain table is made of characters of words. -/
lemma Reference.IsPlain.isWords_name {t : Reference} (h : t.IsPlain) : IsWords t.name := by
  obtain ⟨-, hchars⟩ := Analysis.tableName?_eq_some t.name_eq
  refine ⟨List.length_pos_of_ne_nil (isGapless_of_tableName? t.name_eq).1, fun c hc => ?_⟩
  obtain ⟨hpoint, hdollar⟩ := h c (List.mem_append_left _ hc)
  exact isWord_of_isTablePart ((hchars c hc).resolve_right hpoint) hdollar

/-- The alias of a plain table is made of characters of words. -/
lemma Reference.IsPlain.isAlias_words {t : Reference} (h : t.IsPlain) :
    t.aliased = [] ∨ IsAlias IsWords t.aliased := by
  refine t.aliased_eq.imp_right fun ⟨b, a, n, heq, hb, ha, hn⟩ => ⟨b, a, n, heq, hb, ha, ?_⟩
  obtain ⟨-, hchars⟩ := Analysis.tablePart?_eq_some hn
  refine ⟨List.length_pos_of_ne_nil (isGapless_of_tablePart? hn).1, fun c hc => ?_⟩
  have hmem : c ∈ t.text := by
    rw [Reference.text, heq]
    simp [hc]
  exact isWord_of_isTablePart (hchars c hc) (h c hmem).2

/-! ## Detection -/

/-- A list that begins with a plain table is a join by commas. -/
lemma startsCommaJoin_of_isPlain {first : Reference} (h : first.IsPlain) (c : Comma) (t : Reference)
    (r : List Char) :
    StartsCommaJoin ("FROM".toList ++ ([' '] ++ (first.text ++ (c.text ++ (t.text ++ r))))) := by
  obtain ⟨d, n, hname, hd⟩ := t.exists_cons
  refine ⟨"FROM".toList, [' '], first.name, first.aliased, c.before, c.behind, [d],
    n ++ (t.aliased ++ r), ?_, by rw [Reads]; decide, isSpace_singleton, h.isWords_name,
    h.isAlias_words, c.isBlank_before, c.isBlank_behind, le_rfl, List.forall_mem_singleton.2 hd⟩
  simp [Reference.text, Comma.text, hname]

/-- A list that is a join by commas begins with a plain table. -/
lemma isPlain_of_startsCommaJoin {first : Reference} {c : Comma} {r : List Char}
    (h : StartsCommaJoin ("FROM".toList ++ ([' '] ++ (first.text ++ (c.text ++ r))))) :
    first.IsPlain := by
  obtain ⟨k, b, n, a, s, s', m, v, heq, hk, hb, hn, ha, hs, -, -⟩ := h
  have hlen : "FROM".toList.length = k.length := by
    have hkey := congrArg List.length hk
    rw [List.length_map] at hkey
    exact (by decide : "FROM".toList.length = "from".toList.length).trans hkey.symm
  obtain ⟨-, heq⟩ := List.append_inj heq hlen
  have hname := isGapless_of_tableName? first.name_eq
  rw [Reference.text, Comma.text, List.append_assoc, List.append_assoc, List.cons_append] at heq
  obtain ⟨-, heq⟩ := append_blank_inj isSpace_singleton.2
    (fun d hd => (hname.head? _ d hd).1) hb.2 (fun d hd => (hn.isGapless.head? _ d hd).1) heq
  obtain ⟨rfl, halias⟩ := append_gap_inj hn (startsGap_alias ha hs _) hname
    (startsGap_alias first.isAlias c.isBlank_before _) heq.symm
  have hword : ∀ d ∈ first.text, isWord d = true ∨ isBlank d = true := by
    intro d hd
    obtain hd | hd := List.mem_append.1 hd
    · exact .inl (hn.2 d hd)
    · obtain hnone | hsome := first.isAlias
      · rw [hnone] at hd
        cases hd
      · exact word_or_blank_of_alias_append ha hsome hs c.isBlank_before halias d hd
  intro d hd
  constructor
  · rintro rfl
    exact absurd (hword '.' hd) (by decide)
  · rintro rfl
    exact absurd (hword '$' hd) (by decide)

lemma selection_eq (list r : List Char) (first t : Reference) (c : Comma)
    (others : List (Comma × Reference)) : selection list first ((c, t) :: others) r
      = ("SELECT ".toList ++ (list ++ [' '])) ++ ("FROM".toList ++ ([' '] ++ (first.text ++ (c.text
        ++ (t.text ++ (others.flatMap (fun o => o.1.text ++ o.2.text) ++ r)))))) := by
  have hfrom : " FROM ".toList = [' '] ++ ("FROM".toList ++ [' ']) := by decide
  unfold selection tableList
  rw [hfrom]
  generalize "SELECT ".toList = front
  generalize "FROM".toList = k
  simp only [List.flatMap_cons, List.append_assoc]

/-- A list of tables is detected as a join by commas if its first table is plain, whatever is
selected and whatever follows.  If the word `from` stands nowhere else, it is detected only then. -/
theorem mem_detect_implicitJoin (list r : List Char) (first : Reference)
    {others : List (Comma × Reference)} (hothers : others ≠ []) (heuristics : Bool)
    (enabled : List String) :
    ∃ ms, standard.detect (selection list first others r) heuristics enabled = .ok ms ∧
      (first.IsPlain → Standard.implicitJoin ∈ ms) ∧
      ((∀ i, StandsAt (Reads "from") (selection list first others r) i → i = 8 + list.length) →
        Standard.implicitJoin ∈ ms → first.IsPlain) := by
  obtain ⟨ms, hms, hmem⟩ :=
    exists_detect_standard (selection list first others r) heuristics enabled
  have hdetect : Standard.implicitJoin ∈ ms ↔ ∃ u y, selection list first others r = u ++ y ∧
      u.getLast?.any isWord = false ∧ StartsCommaJoin y := by
    rw [hmem _ (by simp [standard, Standard.all]) rfl, patterns_implicitJoin, Except.ok.injEq,
      occurs_commaJoin_iff]
  obtain ⟨⟨c, t⟩, others, rfl⟩ := List.exists_cons_of_ne_nil hothers
  have hedge : ("SELECT ".toList ++ (list ++ [' '])).getLast?.any isWord = false := by
    rw [← List.append_assoc, List.getLast?_concat]
    decide
  refine ⟨ms, hms, fun hplain => ?_, fun honly hjoin => ?_⟩
  · exact hdetect.2
      ⟨_, _, selection_eq .., hedge, startsCommaJoin_of_isPlain hplain c t _⟩
  · obtain ⟨u, y, heq, hu, hy⟩ := hdetect.1 hjoin
    -- the join that is found begins at the word `from`
    have hstands : StandsAt (Reads "from") (selection list first ((c, t) :: others) r)
        u.length := by
      obtain ⟨k, b, n, a, s, s', m, v, rfl, hk, hb, -⟩ := hy
      refine ⟨_, u, k, _, heq, rfl, rfl, hk, hu, ?_⟩
      obtain ⟨d, b, rfl⟩ := List.exists_cons_of_ne_nil (List.ne_nil_of_length_pos hb.1)
      exact (letterless (hb.2 d List.mem_cons_self)).isWord
    have hlen := honly _ hstands
    rw [selection_eq] at heq
    have hfront : ("SELECT ".toList ++ (list ++ [' '])).length = u.length := by
      have hselect : "SELECT ".toList.length = 7 := by decide
      rw [hlen, List.length_append, List.length_append, hselect, List.length_singleton]
      omega
    obtain ⟨-, rfl⟩ := List.append_inj heq hfront
    exact isPlain_of_startsCommaJoin hy

/-- Orders, by one letter. -/
def orders : Reference where
  name := "orders".toList
  aliased := " o".toList
  name_eq := by decide
  aliased_eq :=
    .inr ⟨[' '], [], ['o'], by decide, isSpace_singleton, .inl rfl, by decide⟩

/-- Orders in a schema, by one letter. -/
def salesOrders : Reference where
  name := "sales.orders".toList
  aliased := " o".toList
  name_eq := by decide
  aliased_eq := orders.aliased_eq

/-- Customers, behind a comma and by one letter. -/
def andCustomers : Comma × Reference where
  fst := ⟨[], [' '], nofun, isSpace_singleton.2⟩
  snd :=
    { name := "customers".toList
      aliased := " c".toList
      name_eq := by decide
      aliased_eq :=
        .inr ⟨[' '], [], ['c'], by decide, isSpace_singleton, .inl rfl, by decide⟩ }

/-- A join of orders and customers by a comma is detected, and with a schema it is not. -/
theorem mem_detect_orders :
    let r := " WHERE o.customer_id = c.id".toList
    (orders.IsPlain ∧
        ∃ ms, standard.detect (selection "o.id".toList orders [andCustomers] r) false [] = .ok ms ∧
          Standard.implicitJoin ∈ ms) ∧
      ((∀ i, StandsAt (Reads "from") (selection "o.id".toList salesOrders [andCustomers] r) i →
          i = 8 + "o.id".toList.length) ∧
        ∃ ms, standard.detect (selection "o.id".toList salesOrders [andCustomers] r) false []
            = .ok ms ∧
          Standard.implicitJoin ∉ ms) := by
  intro r
  have hplain : orders.IsPlain := by decide
  have hschema : ¬ salesOrders.IsPlain := by decide
  have honly : ∀ i, StandsAt (Reads "from")
      (selection "o.id".toList salesOrders [andCustomers] r) i → i = 8 + "o.id".toList.length := by
    have hall : ∀ i < (selection "o.id".toList salesOrders [andCustomers] r).length,
        (((selection "o.id".toList salesOrders [andCustomers] r).drop i).take 4).map Fold.key
          = "from".toList → i = 8 + "o.id".toList.length := by decide
    rintro i ⟨j, u, w, v, heq, rfl, -, hw, -⟩
    have hlen : w.length = 4 := by
      have hkey := congrArg List.length hw
      rw [List.length_map] at hkey
      exact hkey.trans (by decide)
    rw [heq] at hall
    refine hall u.length ?_ ?_
    · simp only [List.length_append]
      omega
    · rw [List.drop_left, ← hlen, List.take_left]
      exact hw
  obtain ⟨ms, hms, hfound, -⟩ :=
    mem_detect_implicitJoin "o.id".toList r orders (List.cons_ne_nil andCustomers []) false []
  obtain ⟨ms', hms', -, hmissed⟩ :=
    mem_detect_implicitJoin "o.id".toList r salesOrders (List.cons_ne_nil andCustomers []) false []
  exact ⟨⟨hplain, ms, hms, hfound hplain⟩, honly, ms', hms', fun h => hschema (hmissed honly h)⟩

/-- Nothing is detected in a join by a comma whose first table has a schema, though it is a list of
tables. -/
theorem detect_schema_join :
    let r := " WHERE o.customer_id = c.id".toList
    selection "o.id".toList salesOrders [andCustomers] r
        = "SELECT o.id FROM sales.orders o, customers c WHERE o.customer_id = c.id".toList ∧
      standard.detect (selection "o.id".toList salesOrders [andCustomers] r) false [] = .ok [] := by
  intro r
  have hselection : selection "o.id".toList salesOrders [andCustomers] r
      = "SELECT o.id FROM sales.orders o, customers c WHERE o.customer_id = c.id".toList := by
    decide
  refine ⟨hselection, detect_of_misses ?_ false []⟩
  rw [hselection]
  have hraw : "SELECT o.id FROM sales.orders o, customers c WHERE o.customer_id = c.id".toList
      = _ := String.toList_ofList
  rw [hraw]
  decide +kernel

end QueryTutor.Catalog
