import QueryTutor.Proofs.Analysis.Extraction
import QueryTutor.Proofs.Analysis.Prose
import QueryTutor.Proofs.Text.Respaced
import QueryTutor.Proofs.Text.SmallWord

/-!
# Boundaries of parts of a text

A text that is cut where a clause begins at top level has the boundaries of its two parts, since no
keyword goes on across the cut and nothing is open there.  An end of the text without words has no
part in any boundary.
-/

namespace QueryTutor.Analysis
open Text Phrase

variable {before : Option Char} {t s q rest : List Char} {skip start : Nat} {top marks : List Bool}

/-! ## Keywords and cuts -/

/-- A keyword ends with a character of words. -/
lemma Covers.isWord_getLast? {p : String} {w : List Char} (h : Covers p before w rest) :
    ∀ c ∈ w.getLast?, isWord c = true := by
  intro c hc
  obtain hblank | hlower := isBlank_or_isLower_key (isPlain_of_mem h.mem) h.strip
    (List.mem_of_getLast? hc)
  · rw [h.getLast? c hc] at hblank
    cases hblank
  · exact isWord_of_isLower_key hlower

lemma phraseAt?_eq_some_iff : phraseAt? boundaryPhrases before t = some rest ↔
    ∃ p w, t = w ++ rest ∧ Covers p before w rest := by
  constructor
  · intro h
    obtain ⟨p, hp, hwhole⟩ := List.exists_of_findSome?_eq_some h
    exact ⟨p, exists_covers hp hwhole⟩
  · rintro ⟨p, w, rfl, hcovers⟩
    exact phraseAt?_of_wholeAt? hcovers.mem hcovers.wholeAt?

/-- A keyword that ends before a cut stands before it. -/
lemma phraseAt?_front (h : phraseAt? boundaryPhrases before (t ++ s) = some rest)
    (hlen : s.length ≤ rest.length) :
    ∃ r, rest = r ++ s ∧ phraseAt? boundaryPhrases before t = some r := by
  obtain ⟨p, w, heq, hcovers⟩ := phraseAt?_eq_some_iff.1 h
  obtain ⟨r, rfl, rfl⟩ | ⟨r, rfl, rfl⟩ := List.append_eq_append_iff.1 heq
  · obtain rfl : r = [] := by
      rw [List.length_append] at hlen
      exact List.length_eq_zero_iff.1 (by omega)
    rw [List.append_nil] at hcovers
    refine ⟨[], rfl, phraseAt?_eq_some_iff.2 ⟨p, t, (List.append_nil t).symm, ?_⟩⟩
    exact { hcovers with behind := rfl }
  · refine ⟨r, rfl, phraseAt?_eq_some_iff.2 ⟨p, w, rfl, ?_⟩⟩
    have hbehind := startsWithWord_of_prefix (List.prefix_append r s) hcovers.behind
    exact { hcovers with behind := hbehind }

/-- No word goes on from the one part of a text to the other. -/
def PartsWords (t s : List Char) : Prop :=
  startsWithWord s = false ∨ continuesWord t.getLast? = false

/-- A keyword that stands before a cut between words stands in the text. -/
lemma phraseAt?_extend (h : phraseAt? boundaryPhrases before t = some rest)
    (hcut : PartsWords t s) : phraseAt? boundaryPhrases before (t ++ s) = some (rest ++ s) := by
  obtain ⟨p, w, rfl, hcovers⟩ := phraseAt?_eq_some_iff.1 h
  refine phraseAt?_eq_some_iff.2 ⟨p, w, List.append_assoc w rest s, ?_⟩
  refine { hcovers with behind := ?_ }
  cases rest with
  | cons c rest => exact hcovers.behind
  | nil =>
    refine hcut.resolve_right fun hend => ?_
    obtain ⟨c, hc⟩ := Option.isSome_iff_exists.1 (List.getLast?_isSome.2 hcovers.startsBlank.2)
    rw [List.append_nil, hc] at hend
    exact absurd (hcovers.isWord_getLast? c hc) (Bool.eq_false_iff.1 hend)

/-- Before a cut between words, the same keywords stand with and without what follows, if none goes
on across the cut. -/
lemma phraseAt?_cut (hcut : PartsWords t s)
    (hends : ∀ rest, phraseAt? boundaryPhrases before (t ++ s) = some rest →
      s.length ≤ rest.length) :
    phraseAt? boundaryPhrases before (t ++ s)
      = (phraseAt? boundaryPhrases before t).map (· ++ s) := by
  cases hhere : phraseAt? boundaryPhrases before t with
  | some rest => exact phraseAt?_extend hhere hcut
  | none =>
    cases hthere : phraseAt? boundaryPhrases before (t ++ s) with
    | none => rfl
    | some rest =>
      obtain ⟨r, -, hr⟩ := phraseAt?_front hthere (hends rest hthere)
      rw [hhere] at hr
      cases hr

/-! ## One step of the search -/

/-- Where the same keyword stands with and without what follows, the search makes the same step. -/
lemma boundariesFrom_step {c : Char} (start : Nat) (mark : Bool) (top marks : List Bool)
    (h : phraseAt? boundaryPhrases before (c :: (t ++ s))
      = (phraseAt? boundaryPhrases before (c :: t)).map (· ++ s)) :
    ∃ found skip, (∀ b ∈ found, b.start = start) ∧
      boundariesFrom before 0 start (c :: t) (mark :: top)
        = found ++ boundariesFrom (some c) skip (start + 1) t top ∧
      boundariesFrom before 0 start (c :: (t ++ s)) (mark :: (top ++ marks))
        = found ++ boundariesFrom (some c) skip (start + 1) (t ++ s) (top ++ marks) := by
  rw [boundariesFrom, boundariesFrom, h]
  cases hhere : phraseAt? boundaryPhrases before (c :: t) with
  | none => exact ⟨[], 0, List.forall_mem_nil _, rfl, rfl⟩
  | some rest =>
    -- the keyword and the places it takes are the same, counted from the other end
    have hskip : (t ++ s).length - (rest ++ s).length = t.length - rest.length := by
      rw [List.length_append, List.length_append]
      omega
    have hkeyword : (c :: (t ++ s)).take ((t ++ s).length + 1 - (rest ++ s).length)
        = (c :: t).take (t.length + 1 - rest.length) := by
      have hlen : (t ++ s).length + 1 - (rest ++ s).length = t.length + 1 - rest.length := by
        rw [List.length_append, List.length_append]
        omega
      rw [hlen, ← List.cons_append, List.take_append_of_le_length (by rw [List.length_cons]; omega)]
    dsimp only [Option.map_some, List.headD_cons, List.tail_cons]
    rw [hskip, hkeyword]
    cases mark with
    | true => exact ⟨[_], _, List.forall_mem_singleton.2 rfl, rfl, rfl⟩
    | false => exact ⟨[], _, List.forall_mem_nil _, rfl, rfl⟩

/-! ## Parts -/

/-- No keyword stands in a text without words. -/
lemma phraseAt?_wordless (hs : ∀ c ∈ s, isWord c = false) (before : Option Char) :
    phraseAt? boundaryPhrases before s = none := by
  cases h : phraseAt? boundaryPhrases before s with
  | none => rfl
  | some rest =>
    obtain ⟨p, w, rfl, hcovers⟩ := phraseAt?_eq_some_iff.1 h
    obtain ⟨c, hc⟩ := Option.isSome_iff_exists.1 (List.getLast?_isSome.2 hcovers.startsBlank.2)
    have hword := hs c (List.mem_append_left rest (List.mem_of_getLast? hc))
    rw [hcovers.isWord_getLast? c hc] at hword
    cases hword

/-- No keyword goes on into an end of the text without words. -/
lemma length_le_of_wordless (hs : ∀ c ∈ s, isWord c = false)
    (h : phraseAt? boundaryPhrases before (t ++ s) = some rest) : s.length ≤ rest.length := by
  obtain ⟨p, w, heq, hcovers⟩ := phraseAt?_eq_some_iff.1 h
  obtain ⟨x, rfl, rfl⟩ | ⟨x, rfl, rfl⟩ := List.append_eq_append_iff.1 heq
  · rcases List.eq_nil_or_concat x with rfl | ⟨x, c, rfl⟩
    · exact le_rfl
    · -- the keyword ends in a character of the end
      rw [List.concat_eq_append] at hcovers hs
      have hword := hcovers.isWord_getLast? c (by simp)
      rw [hs c (by simp)] at hword
      cases hword
  · rw [List.length_append]
    exact Nat.le_add_left _ _

/-- An end of a text without words has no part in its boundaries. -/
lemma boundariesFrom_wordless (hs : ∀ c ∈ s, isWord c = false) (htop : top.length = t.length) :
    boundariesFrom before skip start (t ++ s) (top ++ marks)
      = boundariesFrom before skip start t top := by
  have hstart : startsWithWord s = false := by
    cases s with
    | nil => rfl
    | cons c s => exact hs c List.mem_cons_self
  induction t generalizing before skip start top with
  | nil =>
    obtain rfl := List.length_eq_zero_iff.1 htop
    rw [List.nil_append, boundariesFrom]
    refine boundariesFrom_eq_nil (fun u hu before => ?_) _ _ _ _
    exact phraseAt?_wordless (fun c hc => hs c (hu.subset hc)) before
  | cons c t ih =>
    cases top with
    | nil => cases htop
    | cons mark top =>
      have htop' : top.length = t.length := Nat.succ.inj htop
      cases skip with
      | succ skip => exact ih htop'
      | zero =>
        have hphrase : phraseAt? boundaryPhrases before (c :: t ++ s)
            = (phraseAt? boundaryPhrases before (c :: t)).map (· ++ s) :=
          phraseAt?_cut (.inl hstart) fun rest => length_le_of_wordless hs
        obtain ⟨found, skip, -, hfront, hwhole⟩ := boundariesFrom_step start mark top marks hphrase
        exact hwhole.trans ((congrArg _ (ih htop')).trans hfront.symm)

/-- A boundary behind a keyword begins behind its end. -/
lemma le_start_of_phraseAt? {c : Char} {n : Boundary}
    (h : phraseAt? boundaryPhrases before (c :: t) = some rest)
    (hn : n ∈ boundariesFrom before 0 start (c :: t) top) (hne : n.start ≠ start) :
    start + 1 + (t.length - rest.length) ≤ n.start := by
  rw [boundariesFrom, h] at hn
  dsimp only at hn
  split_ifs at hn
  · obtain rfl | hn := List.mem_cons.1 hn
    · exact absurd rfl hne
    · exact le_start_of_mem_boundariesFrom hn
  · exact le_start_of_mem_boundariesFrom hn

/-- The search up to a boundary finds what it finds in the text before it. -/
lemma boundariesFrom_cut {n : Boundary} {earlier later : List Boundary}
    (htop : top.length = t.length) (hn : n.start = start + t.length)
    (h : boundariesFrom before skip start (t ++ s) (top ++ marks) = earlier ++ n :: later) :
    boundariesFrom before skip start t top = earlier := by
  induction t generalizing before skip start top earlier with
  | nil =>
    cases earlier with
    | nil => rw [boundariesFrom]
    | cons b earlier =>
      -- a boundary before `n` would begin before the text
      have hfirst : boundariesFrom before skip start ([] ++ s) (top ++ marks)
          = [] ++ b :: (earlier ++ n :: later) := h
      obtain ⟨w, ⟨u, rest, p, -, hcovers, hb⟩, hbehind⟩ := exists_opens hfirst
      have hlt := hbehind n (List.mem_append_right _ List.mem_cons_self)
      have hpos := hcovers.length_pos
      rw [hb, hn] at hlt
      dsimp only [List.length_nil] at hlt
      omega
  | cons c t ih =>
    rw [List.length_cons] at hn
    cases top with
    | nil => cases htop
    | cons mark top =>
      have htop' : top.length = t.length := Nat.succ.inj htop
      have hn' : n.start = start + 1 + t.length := by omega
      cases skip with
      | succ skip => exact ih htop' hn' h
      | zero =>
        have hcut : PartsWords (c :: t) s := by
          obtain ⟨w, ⟨u, rest, p, heq, hcovers, hb⟩, -⟩ := exists_opens h
          have hlen : (c :: t).length = u.length := by
            rw [hb] at hn
            dsimp only at hn
            rw [List.length_cons]
            omega
          obtain ⟨rfl, -⟩ := List.append_inj heq hlen
          have hbefore := hcovers.before
          rw [List.getLast?_cons, Option.some_or] at hbefore
          rw [PartsWords, List.getLast?_cons]
          exact .inr hbefore
        have hends : ∀ rest, phraseAt? boundaryPhrases before (c :: t ++ s) = some rest →
            s.length ≤ rest.length := by
          intro rest hrest
          rw [List.cons_append] at hrest
          have hmem : n ∈ boundariesFrom before 0 start (c :: (t ++ s)) (mark :: top ++ marks) :=
            h ▸ List.mem_append_right _ List.mem_cons_self
          have := le_start_of_phraseAt? hrest hmem (by omega)
          rw [List.length_append] at this
          omega
        obtain ⟨found, skip, hfound, hfront, hwhole⟩ :=
          boundariesFrom_step start mark top marks (phraseAt?_cut hcut hends)
        rw [List.cons_append, List.cons_append, hwhole] at h
        obtain ⟨more, rfl, hmore⟩ | ⟨more, rfl, hmore⟩ := List.append_eq_append_iff.1 h
        · rw [hfront, ih htop' hn' hmore]
        · cases more with
          | nil =>
            have hnone : boundariesFrom (some c) skip (start + 1) t top = [] :=
              ih htop' hn' hmore.symm
            rw [hfront, hnone, List.append_nil, List.append_nil]
          | cons b more =>
            obtain ⟨rfl, -⟩ := List.cons.inj hmore
            have := hfound n (List.mem_append_right _ List.mem_cons_self)
            omega

/-- The boundary in a text with `n` more characters before it. -/
def Boundary.shift (n : Nat) (b : Boundary) : Boundary :=
  ⟨b.kind, n + b.start⟩

lemma boundariesFrom_shift (n : Nat) : boundariesFrom before skip (n + start) t top
    = (boundariesFrom before skip start t top).map (Boundary.shift n) := by
  induction t generalizing before skip start top with
  | nil =>
    rw [boundariesFrom, boundariesFrom]
    rfl
  | cons c t ih =>
    cases skip with
    | succ skip => rw [boundariesFrom, boundariesFrom, Nat.add_assoc, ih]
    | zero =>
      rw [boundariesFrom, boundariesFrom]
      cases phraseAt? boundaryPhrases before (c :: t) with
      | none => exact (congrArg (boundariesFrom _ _ · _ _) (Nat.add_assoc ..)).trans ih
      | some rest =>
        dsimp only
        rw [Nat.add_assoc, ih]
        split_ifs <;> rfl

lemma boundariesFrom_congr {before' : Option Char}
    (h : continuesWord before = continuesWord before') :
    boundariesFrom before 0 start t top = boundariesFrom before' 0 start t top := by
  have hphrase : ∀ u, phraseAt? boundaryPhrases before u = phraseAt? boundaryPhrases before' u := by
    intro u
    simp only [phraseAt?, wholeAt?_congr h]
  cases t with
  | nil => rw [boundariesFrom, boundariesFrom]
  | cons c t => rw [boundariesFrom, boundariesFrom, hphrase]

/-- The search finds a boundary where a word may begin at top level, and goes on from there. -/
lemma exists_behind {n : Boundary} {earlier later : List Boundary}
    (h : boundariesFrom before skip start q top = earlier ++ n :: later) :
    ∃ u v, q = u ++ v ∧ n.start = start + u.length ∧ continuesWord (u.getLast?.or before) = false ∧
      (top.drop u.length).headD false = true ∧
      boundariesFrom (u.getLast?.or before) 0 n.start v (top.drop u.length) = n :: later := by
  induction q generalizing before skip start top earlier with
  | nil =>
    rw [boundariesFrom] at h
    exact absurd h (by simp)
  | cons c q ih =>
    have behind : ∀ {skip earlier},
        boundariesFrom (some c) skip (start + 1) q top.tail = earlier ++ n :: later →
        ∃ u v, c :: q = u ++ v ∧ n.start = start + u.length ∧
          continuesWord (u.getLast?.or before) = false ∧ (top.drop u.length).headD false = true ∧
          boundariesFrom (u.getLast?.or before) 0 n.start v (top.drop u.length) = n :: later := by
      intro skip earlier h
      obtain ⟨u, v, rfl, hstart, hbefore, hmark, hlater⟩ := ih h
      rw [← getLast?_cons_or] at hbefore hlater
      rw [List.drop_tail] at hmark hlater
      exact ⟨c :: u, v, rfl, by rw [hstart, List.length_cons]; omega, hbefore, hmark, hlater⟩
    cases skip with
    | succ skip =>
      rw [boundariesFrom] at h
      exact behind h
    | zero =>
      have hwhole := h
      rw [boundariesFrom] at h
      split at h
      case h_2 => exact behind h
      case h_1 rest hphrase =>
        dsimp only at h
        split_ifs at h with hmark
        · cases earlier with
          | cons _ earlier => exact behind (List.cons.inj h).2
          | nil =>
            obtain ⟨p, w, -, hcovers⟩ := phraseAt?_eq_some_iff.1 hphrase
            obtain ⟨rfl, -⟩ := List.cons.inj h
            exact ⟨[], c :: q, rfl, rfl, hcovers.before, hmark, hwhole⟩
        · exact behind h

/-! ## Top level in parts -/

lemma exists_topLevelAfter_drop (depth : Nat) (quoted : Bool) (t s : List Char) :
    ∃ depth' quoted', topLevelAfter depth quoted (t ++ s)
      = topLevelAfter depth quoted t ++ topLevelAfter depth' quoted' s := by
  induction t generalizing depth quoted with
  | nil => exact ⟨depth, quoted, rfl⟩
  | cons c t ih =>
    rw [List.cons_append, topLevelAfter, topLevelAfter]
    split_ifs
    · exact (ih ..).imp fun _ => .imp fun _ h => by rw [h, List.cons_append]
    · exact (ih ..).imp fun _ => .imp fun _ h => by rw [h, List.cons_append]
    · exact (ih ..).imp fun _ => .imp fun _ h => by rw [h, List.cons_append]
    · exact (ih ..).imp fun _ => .imp fun _ h => by rw [h, List.cons_append]
    · exact (ih ..).imp fun _ => .imp fun _ h => by rw [h, List.cons_append]

/-- Before a character at top level nothing is open. -/
lemma topLevelAfter_of_headD {depth : Nat} {quoted : Bool}
    (h : (topLevelAfter depth quoted t).headD false = true) :
    topLevelAfter depth quoted t = topLevel t := by
  cases t with
  | nil => rfl
  | cons c t =>
    rw [topLevelAfter] at h
    split_ifs at h with hquoted hquote hopen hclose
    · cases h
    · cases h
    · cases h
    · cases h
    · obtain rfl : depth = 0 := beq_iff_eq.1 h
      rw [Bool.eq_false_iff.2 hquoted, topLevel]

/-- A text that is cut at a boundary has the boundaries of its two parts. -/
theorem boundaries_cut {n : Boundary} {earlier later : List Boundary}
    (h : boundaries q = earlier ++ n :: later) :
    ∃ u v, q = u ++ v ∧ n.start = u.length ∧ boundaries u = earlier ∧
      (boundaries v).map (Boundary.shift u.length) = n :: later := by
  rw [boundaries] at h
  obtain ⟨u, v, rfl, hstart, hbefore, hmark, hlater⟩ := exists_behind h
  rw [Nat.zero_add] at hstart
  obtain ⟨depth, quoted, htop⟩ := exists_topLevelAfter_drop 0 false u v
  have hlen : (topLevel u).length = u.length := length_topLevelAfter 0 false u
  rw [topLevel, htop] at h hmark hlater
  rw [← hlen, topLevel, List.drop_left] at hmark
  rw [← hlen, topLevel, List.drop_left, topLevelAfter_of_headD hmark, hstart] at hlater
  refine ⟨u, v, rfl, hstart, boundariesFrom_cut hlen (by rw [hstart, Nat.zero_add]) h, ?_⟩
  rw [← hlater, boundaries, ← boundariesFrom_shift]
  exact boundariesFrom_congr hbefore.symm

end QueryTutor.Analysis
