import Mathlib.Algebra.Group.Nat.Even
import QueryTutor.Proofs.Catalog.WholeWord
import QueryTutor.Proofs.Query.Parenthesis
import QueryTutor.Proofs.Text.Front
import QueryTutor.Proofs.Text.Occurrence

/-!
# The rules of the pre-check

The pre-check accepts the texts that break none of its rules, and reports the first rule that a text
breaks.
-/

namespace QueryTutor.Query
open Text Catalog

variable {limit : Option Quantity} {q t : List Char} {r r' : Rejection}

/-! ## Words -/

/-- The text begins with the whole word. -/
def StartsWhole (word : String) (t : List Char) : Prop :=
  ∃ rest, t = word.toList ++ rest ∧ rest.head?.any isWord = false

/-- The text has the word in it, as a whole word in small letters. -/
def NamesWord (word : String) (t : List Char) : Prop :=
  HasWhole (· = word.toList) t

lemma startsWithWord_eq (t : List Char) : startsWithWord t = t.head?.any isWord := by
  cases t <;> rfl

lemma opensWith_iff {word : String} : opensWith word t = true ↔ StartsWhole word t := by
  rw [opensWith, Option.any_eq_true]
  simp only [Bool.not_eq_true', startsWithWord_eq]
  constructor
  · rintro ⟨rest, hrest, hend⟩
    exact ⟨rest, eq_append_of_stripFront? hrest, hend⟩
  · rintro ⟨rest, rfl, hend⟩
    exact ⟨rest, stripFront?_append _ _, hend⟩

lemma opensStatement_iff :
    opensStatement t = true ↔ ∃ k ∈ statementKeywords, StartsWhole k t := by
  rw [opensStatement, List.any_eq_true]
  simp only [opensWith_iff]

lemma namesSource_iff : namesSource t = true ↔ NamesWord "from" t := by
  have hat : ∀ before v, (fromAt? before v).isSome = true ↔
      before.any isWord = false ∧ StartsWhole "from" v := by
    intro before v
    rw [← opensWith_iff, fromAt?, opensWith, Phrase.continuesWord]
    have hfrom : "from".toList = ['f', 'r', 'o', 'm'] := by decide
    rw [hfrom]
    split_ifs with hbefore
    · simp [hbefore]
    · rw [Bool.not_eq_true] at hbefore
      rw [Option.isSome_filter, and_iff_right hbefore]
  rw [namesSource, Phrase.isSome_findFrom_iff]
  simp only [hat, Option.or_none]
  constructor
  · rintro ⟨u, _, rfl, hu, rest, rfl, hrest⟩
    exact ⟨u, _, rest, rfl, rfl, hu, hrest⟩
  · rintro ⟨u, _, rest, rfl, rfl, hu, hrest⟩
    exact ⟨u, _, rfl, hu, rest, rfl, hrest⟩

/-! ## Rules -/

/-- The trimmed text breaks the rule behind a rejection. -/
def Breaks (limit : Option Quantity) (q : List Char) : Rejection → Prop
  | .empty => q = []
  | .tooLong l => limit = some l ∧ l.lt (.whole q.length) = true
  | .unmatchedClosing => ∃ p, p <+: q ∧ p.count '(' < p.count ')'
  | .unmatchedOpening => (∀ p, p <+: q → p.count ')' ≤ p.count '(') ∧ q.count ')' < q.count '('
  | .unmatchedQuote => ¬ Even (q.count '\'')
  | .noStatement => ¬ ∃ k ∈ statementKeywords, StartsWhole k q
  | .noSource =>
    "select".toList <+: q ∧ ¬ NamesWord "from" q ∧ listsValues q = false

/-- The place of a rule in the order in which they are looked at. -/
def Rejection.rank : Rejection → Nat
  | .empty => 0
  | .tooLong _ => 1
  | .unmatchedClosing => 2
  | .unmatchedOpening => 3
  | .unmatchedQuote => 4
  | .noStatement => 5
  | .noSource => 6

lemma Rejection.rank_lt (r : Rejection) : r.rank < 7 := by
  cases r <;> simp [rank]

lemma Rejection.exists_of_rank_eq_one (h : r.rank = 1) : ∃ l, r = .tooLong l := by
  cases r <;> first | exact ⟨_, rfl⟩ | cases h

/-- Only rejections for the length share their place with others. -/
lemma Rejection.eq_of_rank_eq (h : r'.rank = r.rank) (hr : r.rank ≠ 1) : r' = r := by
  cases r <;> cases r' <;> first | rfl | cases h
  exact absurd rfl hr

/-- The text breaks no rule before the place. -/
def KeepsBefore (limit : Option Quantity) (q : List Char) (k : Nat) : Prop :=
  ∀ r : Rejection, r.rank < k → ¬ Breaks limit q r

/-- The rule is the first one that the text breaks. -/
def FirstBroken (limit : Option Quantity) (q : List Char) (r : Rejection) : Prop :=
  Breaks limit q r ∧ KeepsBefore limit q r.rank

/-- What the pre-check says of a trimmed text: which rule is the first one that it breaks, if it
breaks any. -/
def Outcome (limit : Option Quantity) (q : List Char) : Option Rejection → Prop
  | none => ∀ r, ¬ Breaks limit q r
  | some r => FirstBroken limit q r

/-- No two rules are the first one. -/
lemma FirstBroken.unique (h : FirstBroken limit q r) (h' : FirstBroken limit q r') : r = r' := by
  have hrank : r.rank = r'.rank :=
    Nat.le_antisymm (Nat.le_of_not_lt fun hlt => h.2 r' hlt h'.1)
      (Nat.le_of_not_lt fun hlt => h'.2 r hlt h.1)
  by_cases hlength : r'.rank = 1
  · obtain ⟨l', rfl⟩ := Rejection.exists_of_rank_eq_one hlength
    obtain ⟨l, rfl⟩ := Rejection.exists_of_rank_eq_one (hrank.trans hlength)
    exact congrArg _ (Option.some.inj (h.1.1.symm.trans h'.1.1))
  · exact Rejection.eq_of_rank_eq hrank hlength

/-- There is one outcome. -/
lemma Outcome.unique {o o' : Option Rejection} (h : Outcome limit q o) (h' : Outcome limit q o') :
    o = o' := by
  cases o with
  | none =>
    cases o' with
    | none => rfl
    | some r => exact absurd h'.1 (h r)
  | some r =>
    cases o' with
    | none => exact absurd h.1 (h' r)
    | some r' => exact congrArg some (FirstBroken.unique h h')

lemma KeepsBefore.succ {k : Nat} (h : KeepsBefore limit q k)
    (hk : ∀ r : Rejection, r.rank = k → ¬ Breaks limit q r) : KeepsBefore limit q (k + 1) :=
  fun r hr => (Nat.lt_succ_iff_lt_or_eq.1 hr).elim (h r) (hk r)

/-- A rule whose turn it is decides, or else those behind it. -/
lemma KeepsBefore.ite (h : KeepsBefore limit q r.rank) {c : Bool} {o : Option Rejection}
    (hr : r.rank ≠ 1) (hc : c = true ↔ Breaks limit q r)
    (ho : KeepsBefore limit q (r.rank + 1) → Outcome limit q o) :
    Outcome limit q (if c then some r else o) := by
  split_ifs with hif
  · exact ⟨hc.1 hif, h⟩
  · exact ho (h.succ fun r' hr' => Rejection.eq_of_rank_eq hr' hr ▸ hif ∘ hc.2)

/-! ## The rules in turn -/

lemma filter_limit_eq_some {l : Quantity} :
    limit.filter (·.lt (.whole q.length)) = some l ↔ Breaks limit q (.tooLong l) :=
  Option.filter_eq_some_iff

lemma breaks_unmatchedClosing :
    checkParentheses 0 q = some .unmatchedClosing ↔ Breaks limit q .unmatchedClosing := by
  rw [checkParentheses_closing_iff, Overcloses, Breaks]
  simp only [Nat.zero_add]

lemma breaks_unmatchedOpening :
    checkParentheses 0 q = some .unmatchedOpening ↔ Breaks limit q .unmatchedOpening := by
  rw [checkParentheses_opening_iff, Overcloses, Breaks]
  simp only [Nat.zero_add, not_exists, not_and, Nat.not_lt]

lemma breaks_unmatchedQuote :
    (q.count '\'' % 2 != 0) = true ↔ Breaks limit q .unmatchedQuote := by
  rw [Breaks, Nat.even_iff, bne_iff_ne]

lemma breaks_noStatement : (!opensStatement q) = true ↔ Breaks limit q .noStatement := by
  rw [Breaks, ← opensStatement_iff, Bool.not_eq_true', Bool.not_eq_true]

lemma breaks_noSource : (hasFront (· == ·) "select".toList q && !namesSource q && !listsValues q)
    = true ↔ Breaks limit q .noSource := by
  rw [Breaks, Bool.and_eq_true, Bool.and_eq_true, hasFront_iff, Bool.not_eq_true',
    Bool.not_eq_true', and_assoc, ← namesSource_iff, Bool.not_eq_true]

lemma outcome_precheck (limit : Option Quantity) (t : List Char) :
    Outcome limit (trim t) (precheck limit t) := by
  rw [precheck]
  generalize trim t = q
  have start : KeepsBefore limit q 0 := fun r hr => absurd hr (Nat.not_lt_zero _)
  refine start.ite (r := .empty) (by decide) List.isEmpty_iff fun nonempty => ?_
  cases hl : limit.filter (·.lt (.whole q.length)) with
  | some l => exact ⟨filter_limit_eq_some.1 hl, nonempty⟩
  | none =>
    have short : KeepsBefore limit q 2 := nonempty.succ fun r hr => by
      obtain ⟨l, rfl⟩ := Rejection.exists_of_rank_eq_one hr
      exact fun hlong => nomatch hl.symm.trans (filter_limit_eq_some.2 hlong)
    have unclosed (hne : checkParentheses 0 q ≠ some .unmatchedClosing) : KeepsBefore limit q 3 :=
      short.succ fun r hr => by
        rw [Rejection.eq_of_rank_eq (r := .unmatchedClosing) hr (by decide)]
        exact hne ∘ breaks_unmatchedClosing.2
    obtain hnone | hclosing | hopening := checkParentheses_cases 0 q
    · have balanced : KeepsBefore limit q 4 := (unclosed (by simp [hnone])).succ fun r hr => by
        rw [Rejection.eq_of_rank_eq (r := .unmatchedOpening) hr (by decide)]
        exact fun hopen => nomatch hnone.symm.trans (breaks_unmatchedOpening.2 hopen)
      rw [hnone]
      refine balanced.ite (r := .unmatchedQuote) (by decide) breaks_unmatchedQuote fun quoted => ?_
      refine quoted.ite (r := .noStatement) (by decide) breaks_noStatement fun opened => ?_
      refine opened.ite (r := .noSource) (by decide) breaks_noSource fun sourced => ?_
      exact fun r => sourced r r.rank_lt
    · rw [hclosing]
      exact ⟨breaks_unmatchedClosing.1 hclosing, short⟩
    · rw [hopening]
      exact ⟨breaks_unmatchedOpening.1 hopening, unclosed (by simp [hopening])⟩

/-! ## The grammar of accepted texts -/

/-- The rules on parentheses are kept by the words of the grammar. -/
lemma balanced_iff (limit : Option Quantity) : Balanced (parentheses q) ↔
    ¬ Breaks limit q .unmatchedClosing ∧ ¬ Breaks limit q .unmatchedOpening := by
  rw [← checkParentheses_eq_none_iff, ← breaks_unmatchedClosing, ← breaks_unmatchedOpening]
  constructor
  · intro h
    simp [h]
  · rintro ⟨hclosing, hopening⟩
    exact (checkParentheses_cases 0 q).resolve_right (not_or.2 ⟨hclosing, hopening⟩)

lemma forall_not_breaks_iff : (∀ r, ¬ Breaks limit q r) ↔
    q ≠ [] ∧ (∀ l, limit = some l → l.lt (.whole q.length) = false) ∧
      Balanced (parentheses q) ∧ Even (q.count '\'') ∧
      (∃ k ∈ statementKeywords, StartsWhole k q) ∧
      ("select".toList <+: q → NamesWord "from" q ∨ listsValues q = true) := by
  rw [balanced_iff limit]
  constructor
  · intro h
    refine ⟨h .empty, fun l hl => ?_, ⟨h _, h _⟩, not_not.1 (h .unmatchedQuote),
      not_not.1 (h .noStatement), fun hselect => ?_⟩
    · exact Bool.eq_false_iff.2 fun hlt => h (.tooLong l) ⟨hl, hlt⟩
    · by_contra hneither
      rw [not_or, Bool.not_eq_true] at hneither
      exact h .noSource ⟨hselect, hneither⟩
  · rintro ⟨hne, hshort, ⟨hclosing, hopening⟩, hquotes, hopens, hsource⟩ r hr
    cases r with
    | empty => exact hne hr
    | tooLong l => exact Bool.false_ne_true ((hshort l hr.1).symm.trans hr.2)
    | unmatchedClosing => exact hclosing hr
    | unmatchedOpening => exact hopening hr
    | unmatchedQuote => exact hr hquotes
    | noStatement => exact hr hopens
    | noSource =>
      obtain ⟨hselect, hnone, hvalues⟩ := hr
      exact (hsource hselect).elim hnone fun h => Bool.false_ne_true (hvalues.symm.trans h)

/-! ## Messages -/

lemma head?_toList_append {a : String} {c : Char} (h : a.toList.head? = some c) (b d : String) :
    (a ++ b ++ d).toList.head? = some c := by
  rw [String.toList_append, String.toList_append, List.append_assoc, List.head?_append, h,
    Option.some_or]

lemma head?_message_tooLong (l : Quantity) :
    (Rejection.tooLong l).message.toList.head? = some 'Q' :=
  head?_toList_append (by decide +kernel) _ _

/-- Three messages begin with a `U`. -/
lemma unmatched_of_head?_message (h : r.message.toList.head? = some 'U') :
    r = .unmatchedClosing ∨ r = .unmatchedOpening ∨ r = .unmatchedQuote := by
  cases r with
  | empty => exact absurd h (by decide +kernel)
  | tooLong l => exact absurd ((head?_message_tooLong l).symm.trans h) (by decide)
  | unmatchedClosing => exact .inl rfl
  | unmatchedOpening => exact .inr (.inl rfl)
  | unmatchedQuote => exact .inr (.inr rfl)
  | noStatement => exact absurd h (by decide +kernel)
  | noSource => exact absurd h (by decide +kernel)

/-- These say which of their rules is broken. -/
lemma eq_of_message_eq (hr : r.message.toList.head? = some 'U') (h : r'.message = r.message) :
    r' = r := by
  have hr' : r'.message.toList.head? = some 'U' := h ▸ hr
  obtain rfl | rfl | rfl := unmatched_of_head?_message hr <;>
    obtain rfl | rfl | rfl := unmatched_of_head?_message hr' <;>
    first | rfl | exact absurd h (by decide)

lemma map_message_eq_some_iff (hr : r.message.toList.head? = some 'U') :
    (precheck limit t).map Rejection.message = some r.message ↔ precheck limit t = some r := by
  rw [Option.map_eq_some_iff]
  constructor
  · rintro ⟨r', hr', hmessage⟩
    rw [hr', eq_of_message_eq hr hmessage]
  · exact fun h => ⟨r, h, rfl⟩

/-! ## Decision -/

/-- A text is accepted if it is not empty, not too long, its parentheses are balanced, its quotes
even in number, it opens with a word of statements, and, if it is a selection, it names a source or
lists values only.  Otherwise the first of these rules that it breaks is reported, where a first
part that closes more than it opens counts before a text that opens more than it closes. -/
theorem precheck_decides (limit : Option Quantity) (t : List Char) :
    let q := trim t
    (precheck limit t = none ↔
      q ≠ [] ∧ (∀ l, limit = some l → l.lt (.whole q.length) = false) ∧
        Balanced (parentheses q) ∧ Even (q.count '\'') ∧
        (∃ k ∈ statementKeywords, StartsWhole k q) ∧
        ("select".toList <+: q → NamesWord "from" q ∨ listsValues q = true)) ∧
      (∀ r, precheck limit t = some r ↔ FirstBroken limit q r) ∧
      ((precheck limit t).map Rejection.message = some "Unmatched closing parenthesis" ↔
        FirstBroken limit q .unmatchedClosing) ∧
      ((precheck limit t).map Rejection.message = some "Unmatched opening parenthesis" ↔
        FirstBroken limit q .unmatchedOpening) := by
  intro q
  have houtcome := outcome_precheck limit t
  have hsome : ∀ r, precheck limit t = some r ↔ FirstBroken limit q r := by
    refine fun r => ⟨fun h => ?_, fun h => houtcome.unique (show Outcome limit q (some r) from h)⟩
    rw [h] at houtcome
    exact houtcome
  have hnone : precheck limit t = none ↔ ∀ r, ¬ Breaks limit q r := by
    refine ⟨fun h => ?_, fun h => houtcome.unique (show Outcome limit q none from h)⟩
    rw [h] at houtcome
    exact houtcome
  refine ⟨hnone.trans forall_not_breaks_iff, hsome, ?_, ?_⟩
  · exact (map_message_eq_some_iff (r := .unmatchedClosing) (by decide +kernel)).trans (hsome _)
  · exact (map_message_eq_some_iff (r := .unmatchedOpening) (by decide +kernel)).trans (hsome _)

end QueryTutor.Query
