import QueryTutor.Proofs.Analysis.Clause
import QueryTutor.Proofs.Analysis.Grammar

/-!
# Texts in which no clause begins

The search for clauses passes over words that open none, and the parentheses of a selection close
what they open.  So a query that begins with a selection has its second clause at the `from` behind
it, whatever follows.
-/

namespace QueryTutor.Analysis
open Text Phrase

variable {s t u w : List Char} {before : Option Char}

/-! ## Words that open no clause -/

/-- The first words of the phrases at which clauses begin. -/
def openers : List (List Char) :=
  boundaryPhrases.map fun p => p.toList.takeWhile (· != ' ')

/-- The first words of all phrases, in their order. -/
lemma openers_eq : openers = ["select", "from", "where", "group", "having", "order", "limit",
    "union", "intersect", "except", "natural", "natural", "inner", "inner", "natural", "natural",
    "left", "left", "natural", "natural", "right", "right", "natural", "natural", "full", "full",
    "natural", "natural", "cross", "cross", "join"].map String.toList := by
  simp only [openers, boundaryPhrases, joinSides, List.flatMap_cons, List.flatMap_nil,
    List.map_cons, List.map_nil, String.toList_append, String.reduceToList, List.append_nil,
    List.cons_append, List.nil_append]
  decide

lemma Name.not_mem_openers (n : Name) : n.1 ∉ openers := by
  have hall : ∀ w ∈ openers, w ∈ reservedWords := by
    rw [openers_eq, reservedWords]
    simp only [List.map_cons, List.map_nil, String.reduceToList]
    decide
  exact fun hmem => n.not_mem_reservedWords (hall _ hmem)

/-- A phrase at which a clause begins is one of the first words, and ends there or goes on with a
space. -/
lemma exists_opener {p : String} (hp : p ∈ boundaryPhrases) :
    ∃ k q, p.toList = k ++ q ∧ k ∈ openers ∧ k.all Char.isLower = true ∧
      (q = [] ∨ ∃ q', q = ' ' :: q') := by
  have hplain := closed_boundaryPhrases.distinct.plain _ (List.mem_map_of_mem hp)
  refine ⟨p.toList.takeWhile (· != ' '), p.toList.dropWhile (· != ' '),
    List.takeWhile_append_dropWhile.symm, List.mem_map_of_mem hp, ?_, ?_⟩
  · rw [List.all_eq_true]
    intro c hc
    have hne : (c != ' ') = true := List.mem_takeWhile_imp (p := (· != ' ')) hc
    have hletter := List.all_eq_true.1 hplain c ((List.takeWhile_sublist _).subset hc)
    rw [Bool.or_eq_true, beq_iff_eq] at hletter
    exact hletter.resolve_left (bne_iff_ne.1 hne)
  · cases hq : p.toList.dropWhile (· != ' ') with
    | nil => exact .inl rfl
    | cons c q =>
      have hc := List.head?_dropWhile_not (· != ' ') p.toList
      rw [hq, List.head?_cons] at hc
      obtain rfl : c = ' ' := by simpa using hc
      exact .inr ⟨q, rfl⟩

/-- Where a word stands that opens no clause, none begins. -/
lemma phraseAt?_word (hw : IsWordly w) (hopen : w ∉ openers) (hu : EndsWord u)
    (before : Option Char) : phraseAt? boundaryPhrases before (w ++ u) = none := by
  refine List.findSome?_eq_none_iff.2 fun p hp => ?_
  cases hwhole : wholeAt? p.toList before (w ++ u) with
  | none => rfl
  | some rest =>
    obtain ⟨-, hstrip, hrest⟩ := wholeAt?_eq_some.1 hwhole
    obtain ⟨k, q, hpq, hk, hlower, hq⟩ := exists_opener hp
    rw [hpq] at hstrip
    have hend : (∃ q', q = ' ' :: q') ∨ (q = [] ∧ startsWithWord rest = false) :=
      hq.symm.imp_right fun hnil => ⟨hnil, hrest⟩
    rw [eq_of_strip? hlower hend hw hu hstrip] at hk
    exact absurd hk hopen

lemma nil_not_mem_openers : [] ∉ openers := by
  simp [openers_eq]

/-- Where a mark stands, no clause begins. -/
lemma phraseAt?_mark {c : Char} (hc : isMark c = true) (u : List Char) (before : Option Char) :
    phraseAt? boundaryPhrases before (c :: u) = none :=
  phraseAt?_word (w := []) nofun nil_not_mem_openers (endsWord_cons hc u) before

/-- Within a word, no clause begins. -/
lemma phraseAt?_within (h : continuesWord before = true) (t : List Char) :
    phraseAt? boundaryPhrases before t = none :=
  List.findSome?_eq_none_iff.2 fun _ _ => by rw [wholeAt?, if_pos h]

/-! ## Passing over words -/

/-- Words between marks, none of which opens a clause. -/
inductive Prose : List Char → Prop where
  | word {w : List Char} : IsWordly w → w ∉ openers → Prose w
  | mark {s t : List Char} {c : Char} : Prose s → isMark c = true → Prose t → Prose (s ++ c :: t)

lemma Prose.nil : Prose [] :=
  .word nofun nil_not_mem_openers

lemma Prose.name (n : Name) : Prose n.1 :=
  .word n.isWordly n.not_mem_openers

/-- The search for clauses passes over the rest of a word. -/
lemma boundariesFrom_within (h : continuesWord before = true) (hw : IsWordly w) (start : Nat)
    (u : List Char) (top : List Bool) :
    ∃ before', boundariesFrom before 0 start (w ++ u) top
      = boundariesFrom before' 0 (start + w.length) u (top.drop w.length) := by
  induction w generalizing before start top with
  | nil => exact ⟨before, rfl⟩
  | cons c w ih =>
    have hc : continuesWord (some c) = true := hw.isWord c List.mem_cons_self
    obtain ⟨before', hlater⟩ := ih hc (fun d hd => hw d (List.mem_cons_of_mem c hd)) (start + 1)
      top.tail
    refine ⟨before', ?_⟩
    rw [List.cons_append, boundariesFrom, phraseAt?_within h]
    dsimp only
    rw [hlater, List.drop_tail, List.length_cons, Nat.add_right_comm, Nat.add_assoc]

/-- The search for clauses passes over a mark. -/
lemma boundariesFrom_mark {c : Char} (hc : isMark c = true) (before : Option Char) (start : Nat)
    (u : List Char) (top : List Bool) :
    boundariesFrom before 0 start (c :: u) top
      = boundariesFrom (some c) 0 (start + 1) u top.tail := by
  rw [boundariesFrom, phraseAt?_mark hc]

/-- The search for clauses passes over words between marks. -/
lemma Prose.boundariesFrom (h : Prose t) (hbefore : continuesWord before = false) (start : Nat)
    (hu : EndsWord u) (top : List Bool) :
    ∃ before', Analysis.boundariesFrom before 0 start (t ++ u) top
      = Analysis.boundariesFrom before' 0 (start + t.length) u (top.drop t.length) := by
  induction h generalizing before start u top with
  | @word w hw hopen =>
    cases w with
    | nil => exact ⟨before, rfl⟩
    | cons c w =>
      have hc : continuesWord (some c) = true := hw.isWord c List.mem_cons_self
      obtain ⟨before', hlater⟩ := boundariesFrom_within hc
        (fun d hd => hw d (List.mem_cons_of_mem c hd)) (start + 1) u top.tail
      refine ⟨before', ?_⟩
      have hhere := phraseAt?_word hw hopen hu before
      rw [List.cons_append] at hhere ⊢
      rw [Analysis.boundariesFrom, hhere]
      dsimp only
      rw [hlater, List.drop_tail, List.length_cons, Nat.add_right_comm, Nat.add_assoc]
  | @mark s t c _ hc _ ihs iht =>
    obtain ⟨between, hfirst⟩ := ihs hbefore start (endsWord_cons hc (t ++ u)) top
    have hword : continuesWord (some c) = false := (Analysis.mark hc).isWord
    obtain ⟨before', hlater⟩ := iht hword (start + s.length + 1) hu (top.drop s.length).tail
    refine ⟨before', ?_⟩
    have hend : start + s.length + 1 + t.length = start + (s.length + (t.length + 1)) := by omega
    have hcut : s.length + 1 + t.length = s.length + (t.length + 1) := by omega
    rw [List.append_assoc, List.cons_append, hfirst, boundariesFrom_mark hc, hlater,
      List.tail_drop, List.drop_drop, List.length_append, List.length_cons, hend, hcut]

/-! ## Keywords -/

/-- Where one of the phrases stands, it is the one that is found. -/
lemma phraseAt?_of_wholeAt? {p : String} {rest : List Char} (hp : p ∈ boundaryPhrases)
    (h : wholeAt? p.toList before t = some rest) :
    phraseAt? boundaryPhrases before t = some rest := by
  cases hfound : phraseAt? boundaryPhrases before t with
  | none =>
    have hnone := List.findSome?_eq_none_iff.1 hfound p hp
    rw [h] at hnone
    cases hnone
  | some rest' =>
    obtain ⟨k, hk, hwhole⟩ := List.exists_of_findSome?_eq_some hfound
    rw [closed_boundaryPhrases.eq_of_wholeAt? hp hk h hwhole, hwhole] at h
    exact h

/-- The letters that belong to a keyword are passed over. -/
lemma boundariesFrom_skip (before : Option Char) (start : Nat) (w u : List Char) (top : List Bool) :
    ∃ before', boundariesFrom before w.length start (w ++ u) top
      = boundariesFrom before' 0 (start + w.length) u (top.drop w.length) := by
  induction w generalizing before start top with
  | nil => exact ⟨before, rfl⟩
  | cons c w ih =>
    obtain ⟨before', hlater⟩ := ih (some c) (start + 1) top.tail
    refine ⟨before', ?_⟩
    rw [List.length_cons, List.cons_append, boundariesFrom, hlater, List.drop_tail,
      Nat.add_right_comm, Nat.add_assoc]

/-- Where a keyword of one word stands at top level, a clause begins. -/
lemma boundariesFrom_keyword {p : String} {c : Char} (hp : p ∈ boundaryPhrases)
    (hw : p.toList = c :: w) (hletters : (c :: w).all Char.isLower = true)
    (hbefore : continuesWord before = false) (start : Nat) (hu : EndsWord u) (top : List Bool) :
    ∃ before', boundariesFrom before 0 start (c :: (w ++ u)) (true :: top)
      = ⟨clauseKind (c :: w), start⟩
        :: boundariesFrom before' 0 (start + 1 + w.length) u (top.drop w.length) := by
  have hwhole : wholeAt? p.toList before (c :: (w ++ u)) = some u :=
    wholeAt?_eq_some.2 ⟨hbefore, hw ▸ strip?_self hletters u, hu.startsWithWord⟩
  have hkeyword : (c :: (w ++ u)).take ((w ++ u).length + 1 - u.length) = c :: w := by
    have hlen : (w ++ u).length + 1 - u.length = (c :: w).length := by
      rw [List.length_append, List.length_cons]
      omega
    rw [hlen, ← List.cons_append, List.take_left]
  have hskip : (w ++ u).length - u.length = w.length := by
    rw [List.length_append, Nat.add_sub_cancel]
  obtain ⟨before', hlater⟩ := boundariesFrom_skip (some c) (start + 1) w u top
  refine ⟨before', ?_⟩
  rw [boundariesFrom, phraseAt?_of_wholeAt? hp hwhole]
  dsimp only
  rw [hkeyword, hskip, List.tail_cons, hlater]
  rfl

/-! ## Nesting -/

/-- Behind the text as many parentheses are open as before it. -/
def Level (t : List Char) : Prop :=
  ∀ depth u, ∃ marks, marks.length = t.length ∧
    topLevelAfter depth false (t ++ u) = marks ++ topLevelAfter depth false u

lemma level_nil : Level [] :=
  fun _ _ => ⟨[], rfl, rfl⟩

lemma Level.cons {c : Char} (hc : c ≠ '\'' ∧ c ≠ '(' ∧ c ≠ ')') (h : Level t) :
    Level (c :: t) := by
  intro depth u
  obtain ⟨marks, hlen, heq⟩ := h depth u
  refine ⟨(depth == 0) :: marks, congrArg _ hlen, ?_⟩
  rw [List.cons_append, topLevelAfter, if_neg Bool.false_ne_true, if_neg (by simpa using hc.1),
    if_neg (by simpa using hc.2.1), if_neg (by simpa using hc.2.2), heq]
  rfl

lemma Level.append (hs : Level s) (ht : Level t) : Level (s ++ t) := by
  intro depth u
  obtain ⟨marks, hlen, heq⟩ := hs depth (t ++ u)
  obtain ⟨marks', hlen', heq'⟩ := ht depth u
  refine ⟨marks ++ marks', by rw [List.length_append, List.length_append, hlen, hlen'], ?_⟩
  rw [List.append_assoc, heq, heq', List.append_assoc]

/-- What is opened is closed. -/
lemma Level.parenthesized (h : Level t) : Level ('(' :: (t ++ [')'])) := by
  intro depth u
  obtain ⟨marks, hlen, heq⟩ := h (depth + 1) (')' :: u)
  refine ⟨false :: (marks ++ [false]), by simp [hlen], ?_⟩
  have hopen : topLevelAfter depth false ('(' :: (t ++ [')']) ++ u)
      = false :: topLevelAfter (depth + 1) false (t ++ ')' :: u) := by
    rw [List.cons_append, List.append_assoc]
    rfl
  have hclose : topLevelAfter (depth + 1) false (')' :: u) = false :: topLevelAfter depth false u :=
    rfl
  rw [hopen, heq, hclose, List.cons_append, List.append_assoc]
  rfl

lemma level_of_isWordly (hw : IsWordly w) : Level w := by
  induction w with
  | nil => exact level_nil
  | cons c w ih =>
    obtain ⟨hc, hw⟩ := List.forall_mem_cons.1 hw
    refine .cons ⟨?_, ?_, ?_⟩ (ih hw) <;>
    · rintro rfl
      exact absurd hc (by decide)

/-! ## The list of a selection -/

/-- A query that begins with a selection has two clauses at its front, of which the second one
begins behind the list. -/
lemma boundaries_selection (hprose : Prose t) (hlevel : Level t) (r : List Char) :
    ∃ later, boundaries (['s', 'e', 'l', 'e', 'c', 't', ' '] ++ t
        ++ [' ', 'f', 'r', 'o', 'm', ' '] ++ r)
      = ⟨"select".toList, 0⟩ :: ⟨"from".toList, t.length + 8⟩ :: later := by
  have hselect : "select".toList = ['s', 'e', 'l', 'e', 'c', 't'] := String.toList_ofList
  have hfrom : "from".toList = ['f', 'r', 'o', 'm'] := String.toList_ofList
  have hkinds : clauseKind ['s', 'e', 'l', 'e', 'c', 't'] = ['s', 'e', 'l', 'e', 'c', 't'] ∧
      clauseKind ['f', 'r', 'o', 'm'] = ['f', 'r', 'o', 'm'] := by decide
  have hfirst : continuesWord none = false := rfl
  have hspace : continuesWord (some ' ') = false := by decide
  rw [List.append_assoc, List.append_assoc, boundaries, topLevel, hselect, hfrom]
  generalize hrest : [' ', 'f', 'r', 'o', 'm', ' '] ++ r = rest
  -- the word `select` and a space
  obtain ⟨b₁, h₁⟩ := boundariesFrom_keyword (p := "select") (by simp [boundaryPhrases])
    hselect rfl hfirst 0 (endsWord_cons (c := ' ') rfl (t ++ rest))
    (topLevelAfter 0 false (['e', 'l', 'e', 'c', 't', ' '] ++ (t ++ rest)))
  have h₂ := boundariesFrom_mark (c := ' ') rfl b₁ 6 (t ++ rest)
    (topLevelAfter 0 false (' ' :: (t ++ rest)))
  -- the list
  obtain ⟨marks, hlen, hmarks⟩ := hlevel 0 rest
  have hends : EndsWord rest := hrest ▸ endsWord_cons rfl _
  obtain ⟨b₃, h₃⟩ := hprose.boundariesFrom hspace 7 hends
    (marks ++ topLevelAfter 0 false rest)
  rw [← hlen, List.drop_left, hlen, ← hmarks] at h₃
  -- a space and the word `from`
  subst hrest
  have h₄ := boundariesFrom_mark (c := ' ') rfl b₃ (7 + t.length) (['f', 'r', 'o', 'm', ' '] ++ r)
    (topLevelAfter 0 false ([' ', 'f', 'r', 'o', 'm', ' '] ++ r))
  obtain ⟨b₅, h₅⟩ := boundariesFrom_keyword (p := "from") (by simp [boundaryPhrases])
    hfrom rfl hspace (7 + t.length + 1) (endsWord_cons (c := ' ') rfl r)
    (topLevelAfter 0 false (['r', 'o', 'm', ' '] ++ r))
  have hstart : 7 + t.length + 1 = t.length + 8 := by omega
  rw [hstart] at h₄
  rw [hstart, hkinds.2] at h₅
  rw [hkinds.1] at h₁
  exact ⟨_, h₁.trans (congrArg _ (h₂.trans (h₃.trans (h₄.trans h₅))))⟩

end QueryTutor.Analysis
