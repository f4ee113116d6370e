import QueryTutor.Proofs.Analysis.Boundary
import QueryTutor.Proofs.Query.Occurrence

/-!
# Clauses at top level

A clause that begins at top level is cut out from its keyword up to the next boundary, or to the end
of the text.  It begins with the only boundary that it has, joins that follow each other apart, so
it stays as it is when it is cut out again.  A clause that is found only inside parentheses or
literals goes on to the next semicolon or closing parenthesis, through other boundaries.
-/

namespace QueryTutor.Analysis
open Text Phrase

variable {kind t q : List Char} {k : String} {b : Boundary}
  {earlier joined later : List Boundary}

/-! ## Extent -/

/-- A clause of the kind ends at the boundary; joins that follow each other are one clause. -/
def EndsClause (kind : List Char) (b : Boundary) : Prop :=
  kind = "join".toList → b.kind ≠ kind

/-- The first clause of the kind at top level goes from `start` to `stop`, which is the next
boundary or the end of the text. -/
structure SpansClause (kind q : List Char) (start stop : Nat) : Prop where
  opens : ⟨kind, start⟩ ∈ boundaries q
  first : ∀ b ∈ boundaries q, b.kind = kind → start ≤ b.start
  ends : (∃ b ∈ boundaries q, EndsClause kind b ∧ start < b.start ∧ b.start = stop) ∨
    stop = q.length
  next : ∀ b ∈ boundaries q, start < b.start → EndsClause kind b → stop ≤ b.start

/-- The first clause of the kind begins at the boundary `b` and goes on with the boundaries
`joined`; others of the text stand before and behind it. -/
structure Surrounds (kind q : List Char) (earlier : List Boundary) (b : Boundary)
    (joined later : List Boundary) : Prop where
  eq : boundaries q = earlier ++ b :: (joined ++ later)
  ne_of_mem : ∀ n ∈ earlier, n.kind ≠ kind
  kind_eq : b.kind = kind
  joins : ∀ n ∈ joined, kind = "join".toList ∧ n.kind = kind
  ends : ∀ n ∈ later.head?, EndsClause kind n

/-- The place of the first of the boundaries, or else the end of the text. -/
def stopAt (q : List Char) (later : List Boundary) : Nat :=
  (later.head?.map Boundary.start).getD q.length

/-- The boundaries behind another one have later places. -/
lemma start_lt_of_boundaries_eq (h : boundaries q = earlier ++ b :: later) :
    ∀ n ∈ later, b.start < n.start := by
  obtain ⟨w, ⟨u, rest, p, -, hcovers, -⟩, hlater⟩ := exists_opens h
  intro n hn
  have := hlater n hn
  have := hcovers.length_pos
  omega

lemma exists_surrounds (h : ∃ b ∈ boundaries q, b.kind = kind) :
    ∃ earlier b joined later, Surrounds kind q earlier b joined later := by
  obtain ⟨b, hb, hkind⟩ := h
  obtain ⟨earlier, rest, heq, hearlier, hrest⟩ :
      ∃ earlier rest, boundaries q = earlier ++ rest ∧ (∀ n ∈ earlier, n.kind ≠ kind) ∧
        ∀ n ∈ rest.head?, n.kind = kind :=
    ⟨(boundaries q).takeWhile (·.kind != kind), (boundaries q).dropWhile (·.kind != kind),
      List.takeWhile_append_dropWhile.symm,
      fun n hn => by simpa using List.mem_takeWhile_imp hn,
      fun n hn => by
        have := List.head?_dropWhile_not (·.kind != kind) (boundaries q)
        rw [hn] at this
        simpa using this⟩
  cases rest with
  | nil =>
    rw [heq, List.append_nil] at hb
    exact absurd hkind (hearlier b hb)
  | cons b rest =>
    have hb : b.kind = kind := hrest b rfl
    by_cases hjoin : kind = "join".toList
    · refine ⟨earlier, b, rest.takeWhile (·.kind == kind), rest.dropWhile (·.kind == kind),
        by rw [heq, List.takeWhile_append_dropWhile], hearlier, hb,
        fun n hn => ⟨hjoin, by simpa using List.mem_takeWhile_imp hn⟩, fun n hn _ => ?_⟩
      have := List.head?_dropWhile_not (·.kind == kind) rest
      rw [hn] at this
      simpa using this
    · exact ⟨earlier, b, [], rest, heq, hearlier, hb, nofun, fun n _ h => absurd h hjoin⟩

namespace Surrounds

lemma joined_eq_nil (h : Surrounds kind q earlier b joined later) (hkind : kind ≠ "join".toList) :
    joined = [] :=
  List.eq_nil_iff_forall_not_mem.2 fun n hn => hkind (h.joins n hn).1

lemma topClause? (h : Surrounds kind q earlier b joined later) :
    topClause? kind q = some (dropSemicolons (slice q b.start (stopAt q later))) := by
  have hat : boundariesAt kind q = b :: (joined ++ later) := by
    rw [boundariesAt, h.eq, List.dropWhile_append_of_pos fun n hn => by
      simpa using h.ne_of_mem n hn]
    exact List.dropWhile_cons_of_neg (by simpa using h.kind_eq)
  have hlater : (if kind == "join".toList then (joined ++ later).dropWhile (·.kind == kind)
      else joined ++ later) = later := by
    split_ifs with hjoin
    · rw [List.dropWhile_append_of_pos fun n hn => by simpa using (h.joins n hn).2]
      cases later with
      | nil => rfl
      | cons n later =>
        exact List.dropWhile_cons_of_neg (by simpa using h.ends n rfl (by simpa using hjoin))
    · rw [h.joined_eq_nil (by simpa using hjoin), List.nil_append]
  rw [Analysis.topClause?, hat]
  dsimp only
  rw [hlater]
  cases later <;> rfl

lemma spans (h : Surrounds kind q earlier b joined later) :
    SpansClause kind q b.start (stopAt q later) where
  opens := by
    rw [← h.kind_eq, h.eq]
    exact List.mem_append_right _ List.mem_cons_self
  first n hn hkind := by
    rw [h.eq, List.mem_append, List.mem_cons] at hn
    obtain hn | rfl | hn := hn
    · exact absurd hkind (h.ne_of_mem n hn)
    · exact le_rfl
    · exact (start_lt_of_boundaries_eq h.eq n hn).le
  ends := by
    cases later with
    | nil => exact .inr rfl
    | cons n later =>
      refine .inl ⟨n, ?_, h.ends n rfl, start_lt_of_boundaries_eq h.eq n (by simp), rfl⟩
      rw [h.eq]
      simp
  next n hn hlt hends := by
    have heq := h.eq
    rw [heq, List.mem_append, List.mem_cons, List.mem_append] at hn
    obtain hn | rfl | hn | hn := hn
    · obtain ⟨first, rest, rfl⟩ := List.append_of_mem hn
      rw [List.append_assoc] at heq
      have := start_lt_of_boundaries_eq heq b (by simp)
      omega
    · omega
    · obtain ⟨hjoin, hkind⟩ := h.joins n hn
      exact absurd hkind (hends hjoin)
    · cases later with
      | nil => cases hn
      | cons m later =>
        obtain rfl | hn := List.mem_cons.1 hn
        · exact le_rfl
        · have heq : boundaries q = (earlier ++ b :: joined) ++ m :: later := by
            rw [h.eq, List.append_assoc, List.cons_append]
          exact (start_lt_of_boundaries_eq heq n hn).le

/-- The boundaries of the clause are those it is made of. -/
lemma boundaries_slice (h : Surrounds kind q earlier b joined later) :
    (boundaries (slice q b.start (stopAt q later))).map (Boundary.shift b.start) = b :: joined := by
  obtain ⟨u, x, rfl, hstart, -, hx⟩ := boundaries_cut h.eq
  rw [hstart]
  cases later with
  | nil =>
    have hslice : slice (u ++ x) u.length (stopAt (u ++ x) []) = x := by
      change ((u ++ x).drop u.length).take ((u ++ x).length - u.length) = x
      rw [List.drop_left, List.length_append, Nat.add_sub_cancel_left, List.take_length]
    rw [hslice, hx, List.append_nil]
  | cons n later =>
    rw [← List.cons_append] at hx
    obtain ⟨front, back, hfront, hmap, hback⟩ := List.map_eq_append_iff.1 hx
    cases back with
    | nil => cases hback
    | cons m back =>
      obtain ⟨rfl, -⟩ := List.cons.inj hback
      obtain ⟨v, s, rfl, hm, hv, -⟩ := boundaries_cut hfront
      have hslice : slice (u ++ (v ++ s)) u.length
          (stopAt (u ++ (v ++ s)) (m.shift u.length :: later)) = v := by
        change ((u ++ (v ++ s)).drop u.length).take (u.length + m.start - u.length) = v
        rw [List.drop_left, Nat.add_sub_cancel_left, hm, List.take_left]
      rw [hslice, hv, hmap]

end Surrounds

/-! ## Ends of clauses -/

lemma dropSemicolons_eq (ht : startsBlank t = false) :
    dropSemicolons t = dropTrailing isBlank (dropTrailing (· == ';') (dropTrailing isBlank t)) := by
  have hsemicolons : startsBlank (dropTrailing (· == ';') (dropTrailing isBlank t)) = false :=
    startsBlank_of_prefix ((isPrefix_dropTrailing _ _).trans (isPrefix_dropTrailing _ _)) ht
  rw [dropSemicolons, trim_of_not_startsBlank ht, trim_of_not_startsBlank hsemicolons]

/-- What is dropped at the end of a clause is white space and semicolons. -/
lemma exists_dropSemicolons_append (ht : startsBlank t = false) :
    ∃ trail, (∀ c ∈ trail, Query.isTrailer c = true) ∧ t = dropSemicolons t ++ trail := by
  obtain ⟨s₁, hs₁, h₁⟩ := exists_dropTrailing_append isBlank t
  obtain ⟨s₂, hs₂, h₂⟩ := exists_dropTrailing_append (· == ';') (dropTrailing isBlank t)
  obtain ⟨s₃, hs₃, h₃⟩ := exists_dropTrailing_append isBlank
    (dropTrailing (· == ';') (dropTrailing isBlank t))
  refine ⟨s₃ ++ (s₂ ++ s₁), fun c hc => ?_, ?_⟩
  · rw [Query.isTrailer, Bool.or_eq_true]
    obtain hc | hc | hc := by simpa only [List.mem_append] using hc
    · exact .inl (hs₃ c hc)
    · exact .inr (hs₂ c hc)
    · exact .inl (hs₁ c hc)
  · rw [dropSemicolons_eq ht, ← List.append_assoc, ← h₃, ← List.append_assoc, ← h₂, ← h₁]

lemma boundaries_dropSemicolons (ht : startsBlank t = false) :
    boundaries (dropSemicolons t) = boundaries t := by
  obtain ⟨trail, htrail, heq⟩ := exists_dropSemicolons_append ht
  obtain ⟨marks, hmarks⟩ := exists_topLevelAfter_append 0 false (dropSemicolons t) trail
  conv_rhs => rw [heq, boundaries, topLevel, hmarks]
  exact (boundariesFrom_wordless (fun c hc => Query.not_isWord_of_isTrailer (htrail c hc))
    (length_topLevelAfter ..)).symm

/-! ## Clauses -/

/-- The text is one clause of the kind: it begins with a boundary of the kind at top level and has
no other one, unless it is made of joins that follow each other. -/
def IsClause (kind t : List Char) : Prop :=
  ∃ more, boundaries t = ⟨kind, 0⟩ :: more ∧ ∀ n ∈ more, kind = "join".toList ∧ n.kind = kind

lemma IsClause.startsBlank (h : IsClause kind t) : startsBlank t = false := by
  obtain ⟨more, hmore, -⟩ := h
  have hfirst : boundaries t = [] ++ ⟨kind, 0⟩ :: more := hmore
  obtain ⟨w, ⟨u, rest, p, rfl, hcovers, hb⟩, -⟩ := exists_opens hfirst
  have hu : u = [] := List.length_eq_zero_iff.1 (by
    have := congrArg Boundary.start hb
    dsimp only at this
    omega)
  obtain ⟨c, w, rfl⟩ := List.exists_cons_of_ne_nil hcovers.startsBlank.2
  rw [hu]
  exact hcovers.startsBlank.1

lemma Surrounds.isClause (h : Surrounds kind q earlier b joined later) :
    IsClause kind (slice q b.start (stopAt q later)) := by
  obtain ⟨n, more, hmore, hn, hjoined⟩ := List.map_eq_cons_iff.1 h.boundaries_slice
  have hfirst : n = ⟨kind, 0⟩ := by
    obtain ⟨kind', start⟩ := n
    obtain ⟨rfl, hstart⟩ := Boundary.mk.inj hn
    obtain rfl : start = 0 := by
      dsimp only at hstart
      omega
    rw [← h.kind_eq]
  refine ⟨more, hfirst ▸ hmore, fun m hm => ?_⟩
  exact h.joins (m.shift b.start) (hjoined ▸ List.mem_map_of_mem hm)

lemma IsClause.dropSemicolons (h : IsClause kind t) : IsClause kind (dropSemicolons t) := by
  have hsame := boundaries_dropSemicolons h.startsBlank
  obtain ⟨more, hmore, hjoins⟩ := h
  exact ⟨more, hsame.trans hmore, hjoins⟩

/-- One clause is cut out as a whole, but for the semicolons at its end. -/
lemma IsClause.topClause? (h : IsClause kind t) :
    topClause? kind t = some (Analysis.dropSemicolons t) := by
  obtain ⟨more, hmore, hjoins⟩ := h
  have hsurrounds : Surrounds kind t [] ⟨kind, 0⟩ more [] :=
    ⟨by rw [hmore, List.append_nil, List.nil_append], nofun, rfl, hjoins, nofun⟩
  rw [hsurrounds.topClause?]
  change some (Analysis.dropSemicolons ((t.drop 0).take (t.length - 0))) = _
  rw [List.drop_zero, Nat.sub_zero, List.take_length]

lemma topClause?_eq_none (h : ∀ b ∈ boundaries q, b.kind ≠ kind) : topClause? kind q = none := by
  have hat : boundariesAt kind q = [] :=
    List.dropWhile_eq_nil_iff.2 fun b hb => by simpa using h b hb
  rw [topClause?, hat]

lemma clauseKind_of_mem : ∀ k ∈ clauseKeywords, clauseKind k.toList = k.toList := by
  decide

/-- If the kind has a boundary at top level, then what spans from the first one on is cut out. -/
lemma exists_spansClause (hk : k ∈ clauseKeywords) (h : ∃ b ∈ boundaries q, b.kind = k.toList) :
    ∃ start stop, SpansClause k.toList q start stop ∧ IsClause k.toList (slice q start stop) ∧
      extractClause k.toList q = dropSemicolons (slice q start stop) := by
  obtain ⟨earlier, b, joined, later, hsurrounds⟩ := exists_surrounds h
  refine ⟨b.start, stopAt q later, hsurrounds.spans, hsurrounds.isClause, ?_⟩
  rw [extractClause, clauseKind_of_mem k hk, hsurrounds.topClause?]

/-- At top level, the clause of a keyword is cut out from its first boundary to the next one that is
not a join behind a join, or to the end of the text, without the semicolons and the white space at
its end.  It is one clause when it is searched for boundaries again. -/
theorem extractClause_at_top (hk : k ∈ clauseKeywords) (h : ∃ b ∈ boundaries q, b.kind = k.toList) :
    ∃ start stop trail, SpansClause k.toList q start stop ∧
      slice q start stop = extractClause k.toList q ++ trail ∧
      (∀ c ∈ trail, Query.isTrailer c = true) ∧ IsClause k.toList (extractClause k.toList q) := by
  obtain ⟨start, stop, hspans, hclause, hextract⟩ := exists_spansClause hk h
  obtain ⟨trail, htrail, hslice⟩ := exists_dropSemicolons_append hclause.startsBlank
  rw [hextract]
  exact ⟨start, stop, trail, hspans, hslice, htrail, hclause.dropSemicolons⟩

/-- The clauses of a subquery do not end the clause around it. -/
theorem extractClause_around_subquery :
    let q := "SELECT a FROM t WHERE a IN (SELECT b FROM u WHERE c > 5) LIMIT 2;".toList
    ("where" ∈ clauseKeywords ∧ ∃ b ∈ boundaries q, b.kind = "where".toList) ∧
      ∃ start stop trail, SpansClause "where".toList q start stop ∧
        slice q start stop = extractClause "where".toList q ++ trail ∧
        (∀ c ∈ trail, Query.isTrailer c = true) ∧
        IsClause "where".toList (extractClause "where".toList q) := by
  intro q
  have hmem : "where" ∈ clauseKeywords := by decide
  have hwhere : ∃ b ∈ boundaries q, b.kind = "where".toList := by decide
  exact ⟨⟨hmem, hwhere⟩, extractClause_at_top hmem hwhere⟩

/-! ## Clauses of clauses -/

/-- White space parts two of the semicolons that the text ends in. -/
def PartsSemicolons (t : List Char) : Prop :=
  ∃ u w v, t = u ++ ';' :: (w ++ ';' :: v) ∧ w ≠ [] ∧ (∀ c ∈ w, isBlank c = true) ∧
    ∀ c ∈ v, Query.isTrailer c = true

/-- Semicolons at the end are dropped up to white space between them. -/
lemma ne_semicolon_of_getLast? (ht : startsBlank t = false) (h : ¬ PartsSemicolons t) :
    ∀ c ∈ (dropSemicolons t).getLast?, c ≠ ';' := by
  rintro c hc rfl
  apply h
  rw [dropSemicolons_eq ht] at hc
  obtain ⟨s₁, hs₁, h₁⟩ := exists_dropTrailing_append isBlank t
  have hy := getLast?_dropTrailing (p := isBlank) (t := t)
  generalize dropTrailing isBlank t = y at hc h₁ hy
  obtain ⟨s₂, hs₂, h₂⟩ := exists_dropTrailing_append (· == ';') y
  have hx := getLast?_dropTrailing (p := (· == ';')) (t := y)
  generalize dropTrailing (· == ';') y = x at hc h₂ hx
  obtain ⟨s₃, hs₃, h₃⟩ := exists_dropTrailing_append isBlank x
  obtain ⟨u, hu⟩ := List.getLast?_eq_some_iff.1 hc
  rw [hu] at h₃
  -- behind the semicolon that is left there is white space, and other semicolons behind that
  have hblanks : s₃ ≠ [] := by
    rintro rfl
    have := hx ';' (by simp [h₃])
    exact absurd this (by decide)
  cases s₂ with
  | nil =>
    obtain ⟨c, hc⟩ := Option.isSome_iff_exists.1 (List.getLast?_isSome.2 hblanks)
    have := hy c (by rw [h₂, h₃, List.append_nil, List.getLast?_append, hc]; rfl)
    rw [hs₃ c (List.mem_of_getLast? hc)] at this
    cases this
  | cons d s₂ =>
    obtain rfl : d = ';' := beq_iff_eq.1 (hs₂ d List.mem_cons_self)
    refine ⟨u, s₃, s₂ ++ s₁, by simp [h₁, h₂, h₃], hblanks, hs₃, fun c hc => ?_⟩
    rw [Query.isTrailer, Bool.or_eq_true]
    obtain hc | hc := List.mem_append.1 hc
    · exact .inr (hs₂ c (.tail _ hc))
    · exact .inl (hs₁ c hc)

/-- A text that ends in no white space and no semicolon stays. -/
lemma dropSemicolons_eq_self (ht : startsBlank t = false)
    (hblank : ∀ c ∈ t.getLast?, isBlank c = false) (hsemicolon : ∀ c ∈ t.getLast?, c ≠ ';') :
    dropSemicolons t = t := by
  have hkeep : dropTrailing isBlank t = t := dropTrailing_eq_self_iff.2 hblank
  have hkeep' : dropTrailing (· == ';') t = t :=
    dropTrailing_eq_self_iff.2 fun c hc => beq_eq_false_iff_ne.2 (hsemicolon c hc)
  rw [dropSemicolons_eq ht, hkeep, hkeep', hkeep]

/-- No semicolon and no closing parenthesis is left in what stands before the next one. -/
lemma ne_of_mem_untilClosed {c : Char} (h : c ∈ untilClosed t) : (c != ';' && c != ')') = true :=
  List.mem_takeWhile_imp (p := fun c => c != ';' && c != ')') (mem_of_mem_trim h)

lemma untilClosed_untilClosed (t : List Char) : untilClosed (untilClosed t) = untilClosed t := by
  rw [untilClosed, List.takeWhile_eq_self_iff.2 fun c => ne_of_mem_untilClosed, untilClosed,
    trim_trim]

lemma innerClause_eq (phrases : List String) (q : List Char) :
    ∃ t, innerClause phrases q = untilClosed t := by
  rw [innerClause]
  split
  · exact ⟨_, rfl⟩
  · exact ⟨[], rfl⟩

/-- A clause that is found inside parentheses is found again as it is. -/
lemma innerClause_innerClause {phrases : List String}
    (hphrases : ∀ p ∈ phrases, p ∈ boundaryPhrases) (q : List Char) :
    innerClause phrases (innerClause phrases q) = innerClause phrases q := by
  have hnil : innerClause phrases [] = [] := by
    rw [innerClause]
    split
    case h_1 hfound =>
      obtain ⟨u, hu, -⟩ := findFrom_eq_some hfound
      rw [(List.append_eq_nil_iff.1 hu.symm).2]
      rfl
    case h_2 => rfl
  cases hfound : findFrom (phraseAt? phrases) none q with
  | none =>
    have hclause : innerClause phrases q = [] := by rw [innerClause, hfound]
    rw [hclause, hnil]
  | some found =>
    obtain ⟨found, rest⟩ := found
    have hclause : innerClause phrases q = untilClosed found := by rw [innerClause, hfound]
    -- the clause begins with the same phrase, which is found there first
    obtain ⟨u, -, hphrase⟩ := findFrom_eq_some hfound
    obtain ⟨p, hp, hwhole⟩ := List.exists_of_findSome?_eq_some hphrase
    obtain ⟨w, rfl, hcovers⟩ := exists_covers (hphrases p hp) hwhole
    obtain ⟨v, hv, heq⟩ := hcovers.untilClosed rest
    have hbehind := startsWithWord_of_prefix hv hcovers.behind
    have hagain : wholeAt? p.toList none (w ++ v) = some v :=
      wholeAt?_cover (getLast?_ne_of_mem hcovers.mem) hcovers.strip rfl hbehind
    have hsome : (phraseAt? phrases none (w ++ v)).isSome = true :=
      List.findSome?_isSome_iff.2 ⟨p, hp, by rw [hagain]; rfl⟩
    obtain ⟨r, hr⟩ := Option.isSome_iff_exists.1 hsome
    rw [hclause, innerClause, heq, findFrom_of_at? hr]
    dsimp only
    rw [← heq, untilClosed_untilClosed]

/-- The phrases that are looked for if the clause of the keyword has no boundary at top level. -/
def innerPhrases (k : String) : List String :=
  if k.toList == "join".toList then joinPhrases else [String.ofList k.toList]

lemma extractClause_of_forall_ne (hk : k ∈ clauseKeywords)
    (h : ∀ b ∈ boundaries q, b.kind ≠ k.toList) :
    extractClause k.toList q = innerClause (innerPhrases k) q := by
  rw [extractClause, clauseKind_of_mem k hk, topClause?_eq_none h]
  rfl

lemma mem_boundaryPhrases_of_mem_innerPhrases (hk : k ∈ clauseKeywords) :
    ∀ p ∈ innerPhrases k, p ∈ boundaryPhrases :=
  fun p hp => List.mem_of_mem_filter ((mem_innerPhrases k hk).2 p hp)

lemma isBlank_getLast?_extractClause (hk : k ∈ clauseKeywords) (q : List Char) :
    ∀ c ∈ (extractClause k.toList q).getLast?, isBlank c = false := by
  by_cases htop : ∃ b ∈ boundaries q, b.kind = k.toList
  · obtain ⟨start, stop, -, -, hextract⟩ := exists_spansClause hk htop
    rw [hextract]
    exact isBlank_getLast?_trim _
  · obtain ⟨t, ht⟩ := innerClause_eq (innerPhrases k) q
    rw [extractClause_of_forall_ne hk (by simpa using htop), ht]
    exact isBlank_getLast?_trim _

lemma ne_semicolon_getLast?_extractClause (hk : k ∈ clauseKeywords)
    (hparts : ∀ start stop, SpansClause k.toList q start stop →
      ¬ PartsSemicolons (slice q start stop)) :
    ∀ c ∈ (extractClause k.toList q).getLast?, c ≠ ';' := by
  by_cases htop : ∃ b ∈ boundaries q, b.kind = k.toList
  · obtain ⟨start, stop, hspans, hclause, hextract⟩ := exists_spansClause hk htop
    rw [hextract]
    exact ne_semicolon_of_getLast? hclause.startsBlank (hparts start stop hspans)
  · obtain ⟨t, ht⟩ := innerClause_eq (innerPhrases k) q
    rw [extractClause_of_forall_ne hk (by simpa using htop), ht]
    rintro c hc rfl
    exact absurd (ne_of_mem_untilClosed (List.mem_of_getLast? hc)) (by decide)

lemma isClause_extractClause (hk : k ∈ clauseKeywords) (h : ∃ b ∈ boundaries q, b.kind = k.toList) :
    IsClause k.toList (extractClause k.toList q) := by
  obtain ⟨start, stop, -, hclause, hextract⟩ := exists_spansClause hk h
  exact hextract ▸ hclause.dropSemicolons

/-- One clause without semicolons and white space at its end is cut out as it is. -/
lemma IsClause.extractClause (hk : k ∈ clauseKeywords) (h : IsClause k.toList t)
    (hblank : ∀ c ∈ t.getLast?, isBlank c = false) (hsemicolon : ∀ c ∈ t.getLast?, c ≠ ';') :
    extractClause k.toList t = t := by
  rw [Analysis.extractClause, clauseKind_of_mem k hk, h.topClause?]
  exact dropSemicolons_eq_self h.startsBlank hblank hsemicolon

/-- What is cut out and has no boundary of its kind was found inside parentheses, and is found so
again. -/
lemma extractClause_again (hk : k ∈ clauseKeywords)
    (h : ∀ b ∈ boundaries (extractClause k.toList q), b.kind ≠ k.toList) :
    extractClause k.toList (extractClause k.toList q) = extractClause k.toList q := by
  have htop : ∀ b ∈ boundaries q, b.kind ≠ k.toList := by
    intro b hb hkind
    obtain ⟨more, hmore, -⟩ := isClause_extractClause hk ⟨b, hb, hkind⟩
    exact h ⟨k.toList, 0⟩ (hmore ▸ List.mem_cons_self) rfl
  rw [extractClause_of_forall_ne hk h, extractClause_of_forall_ne hk htop,
    innerClause_innerClause (mem_boundaryPhrases_of_mem_innerPhrases hk)]

/-- The clause of a keyword ends in no white space.  If the semicolons at its end have no white
space between them, it ends in no semicolon.  It then stays as it is when it is cut out again, if it
begins at top level, and in any case exactly if it is one clause or has no boundary of its kind. -/
theorem extractClause_extractClause (hk : k ∈ clauseKeywords) (q : List Char) :
    (∀ c ∈ (extractClause k.toList q).getLast?, isBlank c = false) ∧
    ((∀ start stop, SpansClause k.toList q start stop → ¬ PartsSemicolons (slice q start stop)) →
      (∀ c ∈ (extractClause k.toList q).getLast?, c ≠ ';') ∧
      ((∃ b ∈ boundaries q, b.kind = k.toList) →
        extractClause k.toList (extractClause k.toList q) = extractClause k.toList q) ∧
      (extractClause k.toList (extractClause k.toList q) = extractClause k.toList q ↔
        IsClause k.toList (extractClause k.toList q) ∨
          ∀ b ∈ boundaries (extractClause k.toList q), b.kind ≠ k.toList)) := by
  have hblank := isBlank_getLast?_extractClause hk q
  refine ⟨hblank, fun hparts => ?_⟩
  have hsemicolon := ne_semicolon_getLast?_extractClause hk hparts
  refine ⟨hsemicolon, fun htop => ?_, fun hagain => ?_, fun h => ?_⟩
  · exact (isClause_extractClause hk htop).extractClause hk hblank hsemicolon
  · by_cases hkind : ∃ b ∈ boundaries (extractClause k.toList q), b.kind = k.toList
    · have hclause := isClause_extractClause hk hkind
      rw [hagain] at hclause
      exact .inl hclause
    · exact .inr (by simpa using hkind)
  · obtain hclause | hkind := h
    · exact hclause.extractClause hk hblank hsemicolon
    · exact extractClause_again hk hkind

/-- White space can part two semicolons only in a text that has two. -/
lemma PartsSemicolons.two_le_count (h : PartsSemicolons t) : 2 ≤ t.count ';' := by
  obtain ⟨u, w, v, rfl, -, -, -⟩ := h
  rw [List.count_append, List.count_cons_self, List.count_append, List.count_cons_self]
  omega

/-- The last clause of a query with one semicolon. -/
theorem extractClause_limit_again :
    let q := "SELECT a FROM t LIMIT 5;".toList
    ("limit" ∈ clauseKeywords ∧ ∀ start stop, SpansClause "limit".toList q start stop →
        ¬ PartsSemicolons (slice q start stop)) ∧
      (∀ c ∈ (extractClause "limit".toList q).getLast?, c ≠ ';') ∧
      extractClause "limit".toList (extractClause "limit".toList q)
        = extractClause "limit".toList q := by
  intro q
  have hmem : "limit" ∈ clauseKeywords := by decide
  have htop : ∃ b ∈ boundaries q, b.kind = "limit".toList := by decide
  have hparts : ∀ start stop, SpansClause "limit".toList q start stop →
      ¬ PartsSemicolons (slice q start stop) := by
    rintro start stop - hparts
    have hslice : (slice q start stop).count ';' ≤ q.count ';' :=
      ((List.take_sublist ..).trans (List.drop_sublist ..)).count_le _
    have hone : q.count ';' = 1 := by decide
    have := hparts.two_le_count
    omega
  obtain ⟨-, hrest⟩ := extractClause_extractClause hmem q
  obtain ⟨hsemicolon, hagain, -⟩ := hrest hparts
  exact ⟨⟨hmem, hparts⟩, hsemicolon, hagain htop⟩

/-- A clause that is found only in a subquery holds the clauses behind it, which are dropped when it
is cut out again. -/
theorem extractClause_select_in_subquery :
    let q := "DELETE FROM users WHERE id IN (SELECT user_id FROM orders)".toList
    extractClause "select".toList q = "SELECT user_id FROM orders".toList ∧
      extractClause "select".toList (extractClause "select".toList q) = "SELECT user_id".toList ∧
      extractClause "select".toList (extractClause "select".toList q)
        ≠ extractClause "select".toList q := by
  decide

end QueryTutor.Analysis
