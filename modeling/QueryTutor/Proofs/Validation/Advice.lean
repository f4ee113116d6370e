import QueryTutor.Proofs.Catalog.Standard
import QueryTutor.Proofs.Score.Share
import QueryTutor.Proofs.Validation.Accepted

/-!
# Advice and verdict

The advice on how to go on is banded by the score alone, while the verdict also asks for the mark and
for the absence of critical mistakes.  So a query that is not valid is praised only below a mark above
90, and approved of only where a critical mistake takes back a score that reaches the mark.
-/

namespace QueryTutor.Validation
open Feedback

/-- The line for a score of 90 and more. -/
def praise : String :=
  "Great work! Try optimizing your query further or add comments explaining your approach."

/-- The line for a lower score that reaches the mark. -/
def approval : String :=
  "Your query works but could be improved. Review any warnings above."

/-- The advice opens with a line. -/
def OpensWith (line : String) (steps : List String) : Prop :=
  steps.head? = some line

/-- The line that the advice for a score opens with. -/
def openingLine (score : ℕ) (mark : ℤ) : String :=
  if 90 ≤ score then praise
  else if mark ≤ score then approval
  else if 50 ≤ score then "You're on the right track. Focus on the hints provided."
  else "Start with the basic structure: SELECT columns FROM table"

lemma head?_nextSteps (e : Exercise) (a : Analysis) (ms : List Mistake) (score : ℕ) (mark : ℤ) :
    (nextSteps e a ms (.whole score) (.whole mark)).head? = some (openingLine score mark) := by
  have band : ∀ n : ℤ, Quantity.le (.whole n) (.whole score) = decide (n ≤ score) := fun _ => rfl
  have cast : ∀ n : ℕ, ((n : ℤ) ≤ score) = (n ≤ score) := fun n => propext Nat.cast_le
  have h90 := cast 90
  have h50 := cast 50
  push_cast at h90 h50
  simp only [nextSteps, openingLine, band, decide_eq_true_eq, h90, h50]
  by_cases high : 90 ≤ score
  · rw [if_pos high, if_pos high]
    rfl
  · rw [if_neg high, if_neg high]
    by_cases reached : mark ≤ score
    · rw [if_pos reached, if_pos reached]
      rfl
    · rw [if_neg reached, if_neg reached]
      by_cases half : 50 ≤ score
      · rw [if_pos half, if_pos half]
        rfl
      · rw [if_neg half, if_neg half]
        rfl

lemma openingLine_eq_praise_iff (score : ℕ) (mark : ℤ) :
    openingLine score mark = praise ↔ 90 ≤ score := by
  unfold openingLine
  split_ifs with high reached half
  · exact iff_of_true rfl high
  · exact iff_of_false (by decide) high
  · exact iff_of_false (by decide) high
  · exact iff_of_false (by decide) high

lemma openingLine_eq_approval_iff (score : ℕ) (mark : ℤ) :
    openingLine score mark = approval ↔ score < 90 ∧ mark ≤ score := by
  unfold openingLine
  split_ifs with high reached half
  · exact iff_of_false (by decide) fun h => absurd high (not_le.2 h.1)
  · exact iff_of_true rfl ⟨not_le.1 high, reached⟩
  · exact iff_of_false (by decide) fun h => reached h.2
  · exact iff_of_false (by decide) fun h => reached h.2

/-- The advice of a graded query opens with the line for its score. -/
lemma opensWith_reportOf (rules : Rules) (raw : List Char) (e : Exercise) (f : Findings)
    (line : String) : OpensWith line (reportOf rules raw e f).nextSteps ↔
      openingLine (scoreOf raw e f) rules.mark = line := by
  have h := head?_nextSteps e (Analysis.ofText (Query.prepared raw)) f.mistakes (scoreOf raw e f)
    rules.mark
  unfold OpensWith
  rw [show (reportOf rules raw e f).nextSteps.head? = _ from h, Option.some.injEq]

lemma isValid_reportOf (rules : Rules) (raw : List Char) (e : Exercise) (f : Findings) :
    (reportOf rules raw e f).isValid =
      Score.passes (.whole (scoreOf raw e f)) f.mistakes (.whole rules.mark) :=
  rfl

/-- A query that is turned away is neither praised nor approved of. -/
lemma opensWith_rejectionSteps {line : String} (h : OpensWith line rejectionSteps) :
    line ≠ praise ∧ line ≠ approval := by
  obtain rfl := Option.some.inj h
  decide

lemma cost_le_penalty {d : Mistake} {ms : List Mistake} (hd : d ∈ ms) :
    Score.cost d.severity ≤ Score.penalty ms := by
  induction hd with
  | head ms => exact Nat.le_add_right _ _
  | tail d' _ ih => exact ih.trans (Nat.le_add_left _ _)

/-- A critical mistake leaves 70 points at most. -/
lemma scoreOf_le_of_critical {raw : List Char} {e : Exercise} {f : Findings} {d : Mistake}
    (hd : d ∈ f.mistakes) (hcritical : d.severity = .critical) : scoreOf raw e f ≤ 70 := by
  have hcost : 30 ≤ Score.penalty f.mistakes := by
    have h := cost_le_penalty hd
    rw [hcritical] at h
    exact h
  have hshares : ∀ t ∈ (Check.tests e (Analysis.ofText (Query.prepared raw))
      (Query.prepared raw)).map fun t => (t.passed, t.weight),
      Check.IsShare t.2 ∨ ¬ Double.IsNumber t.2 := by
    intro t ht
    obtain ⟨r, hr, rfl⟩ := List.mem_map.1 ht
    exact Check.isShare_or_not_isNumber hr
  obtain ⟨-, hupper⟩ := Score.score_within hshares f.mistakes (missing raw e).length
    f.forbidden.length
  have hleft : max 0 (Score.withoutTests f.mistakes (missing raw e).length f.forbidden.length)
      ≤ 70 := by
    unfold Score.withoutTests Score.full Score.faultCost
    omega
  exact_mod_cast hupper.trans hleft

/-- The report is praised exactly if its score is 90 or more and below the mark, and approved of
exactly if its score, which is 70 at most then, reaches the mark and a critical mistake is told. -/
structure Advised (mark : ℤ) (r : Report) : Prop where
  praise_iff : OpensWith praise r.nextSteps ↔ 90 ≤ r.score ∧ r.score < mark
  approval_iff : OpensWith approval r.nextSteps ↔
    mark ≤ r.score ∧ r.score ≤ 70 ∧ ∃ d ∈ r.mistakes, d.severity = .critical

lemma advised_rejection (mark : ℤ) (message impact : String) :
    Advised mark (Report.rejection message impact) where
  praise_iff := iff_of_false (fun h => (opensWith_rejectionSteps h).1 rfl) nofun
  approval_iff := by
    constructor
    · intro h
      exact absurd rfl (opensWith_rejectionSteps h).2
    · rintro ⟨-, -, _, h, -⟩
      cases h

lemma advised_reportOf {rules : Rules} {raw : List Char} {e : Exercise} {f : Findings}
    (h : (reportOf rules raw e f).isValid = false) :
    Advised rules.mark (reportOf rules raw e f) := by
  have hfail : ¬ (rules.mark ≤ scoreOf raw e f ∧ ∀ d ∈ f.mistakes, d.severity ≠ .critical) := by
    rw [← passes_iff, Bool.not_eq_true]
    exact h
  constructor
  case praise_iff =>
    apply ((opensWith_reportOf ..).trans (openingLine_eq_praise_iff ..)).trans
    constructor
    · intro hhigh
      refine ⟨hhigh, lt_of_not_ge fun hmark => hfail ⟨hmark, fun d hd hcritical => ?_⟩⟩
      have hle : scoreOf raw e f ≤ 70 := scoreOf_le_of_critical hd hcritical
      omega
    · exact And.left
  case approval_iff =>
    apply ((opensWith_reportOf ..).trans (openingLine_eq_approval_iff ..)).trans
    constructor
    · rintro ⟨-, hmark⟩
      have hcritical : ∃ d ∈ f.mistakes, d.severity = .critical := by
        by_contra hnone
        push Not at hnone
        exact hfail ⟨hmark, hnone⟩
      obtain ⟨d, hd, hsevere⟩ := hcritical
      exact ⟨hmark, scoreOf_le_of_critical hd hsevere, d, hd, hsevere⟩
    · rintro ⟨hmark, hlow, -⟩
      exact ⟨hlow.trans_lt (by norm_num), hmark⟩

/-- Of the queries that are not valid, those are praised whose score is 90 or more and below the
mark, and those approved of whose score, at most 70, reaches the mark in spite of a critical mistake.
-/
theorem advice_of_not_isValid {c : Catalog} {rules : Rules} {raw : String} {e : Exercise}
    (h : (validate c rules.options raw e).isValid = false) :
    Advised rules.mark (validate c rules.options raw e) := by
  rw [validate_eq] at h ⊢
  cases hr : rejection? rules raw.toList with
  | some r => exact advised_rejection ..
  | none =>
    rw [hr] at h
    dsimp only at h ⊢
    cases hf : findings c rules raw.toList e with
    | error x => exact advised_rejection ..
    | ok f =>
      rw [hf] at h
      exact advised_reportOf h

/-! ## A deletion and a selection -/

lemma detect_deletion : Catalog.standard.detect "DELETE FROM orders".toList false []
    = .ok [Mistake.Standard.missingWhere] := by
  have hraw : "DELETE FROM orders".toList = _ := String.toList_ofList
  have hlater : ∀ l ∈ Catalog.standardTexts.1.drop 4,
      Catalog.misses "DELETE FROM orders".toList l = true := by
    rw [hraw]
    decide +kernel
  have htexts : ((Catalog.standard.mistakes.drop 2).flatMap (·.patterns)).map String.toList
      = Catalog.standardTexts.1.drop 4 := by
    rw [← Catalog.standardTexts.2]
    rfl
  have hrest : Catalog.detectAmong "DELETE FROM orders".toList
      ((Catalog.standard.mistakes.drop 2).filter (Catalog.isSought false [])) = .ok [] := by
    refine Catalog.detectAmong_of_misses fun d hd source hsource => hlater _ ?_
    rw [← htexts]
    exact List.mem_map_of_mem (List.mem_flatMap.2 ⟨d, List.mem_of_mem_filter hd, hsource⟩)
  have hfirst : Pattern.anyOccursIn detectionMode "DELETE FROM orders".toList
      Mistake.Standard.selectStar.patterns = .ok false := by
    decide +kernel
  have hsecond : Pattern.anyOccursIn detectionMode "DELETE FROM orders".toList
      Mistake.Standard.missingWhere.patterns = .ok true := by
    decide +kernel
  show Catalog.detectAmong _ (Mistake.Standard.selectStar :: Mistake.Standard.missingWhere ::
    (Catalog.standard.mistakes.drop 2).filter (Catalog.isSought false [])) = _
  rw [Catalog.detectAmong, hfirst, Catalog.detectAmong, hsecond, hrest]
  rfl

/-- Deleting one order. -/
def deleteOne : Exercise where
  title := "Delete one order"
  solution := "DELETE FROM orders WHERE id = 1"
  testCases := some [⟨"deletes orders", some ["DELETE FROM orders"], none, none, none⟩]

lemma scan_deletion : Query.Token.scan "DELETE FROM orders".toList
    = [⟨.manipulation, "DELETE".toList⟩, ⟨.blank, [' ']⟩, ⟨.keyword, "FROM".toList⟩,
      ⟨.blank, [' ']⟩, ⟨.name, "orders".toList⟩] := by
  decide +kernel

lemma comesTo_deletion : ComesTo "DELETE FROM orders".toList "delete from orders".toList :=
  comesTo_of_scan scan_deletion (by decide +kernel)

lemma validate_deletion : validate .standard standardRules.options "DELETE FROM orders" deleteOne
    = reportOf standardRules "DELETE FROM orders".toList deleteOne
      ⟨[Mistake.Standard.missingWhere], []⟩ := by
  have haccepted : rejection? standardRules "DELETE FROM orders".toList = none :=
    comesTo_deletion.accepted (by decide +kernel) (by decide +kernel)
  obtain ⟨ms, hms, hreport⟩ := exists_validate_of_accepted (e := deleteOne) rfl haccepted
  rw [show deleteOne.enabledChecks.getD [] = [] from rfl, detect_deletion] at hms
  rw [hreport, Except.ok.inj hms]

lemma scoreOf_deletion : scoreOf "DELETE FROM orders".toList deleteOne
    ⟨[Mistake.Standard.missingWhere], []⟩ = 70 := by
  unfold scoreOf missing
  rw [comesTo_deletion.prepared]
  decide +kernel

lemma not_isValid_deletion :
    (validate .standard standardRules.options "DELETE FROM orders" deleteOne).isValid = false := by
  rw [validate_deletion, isValid_reportOf, scoreOf_deletion]
  rfl

lemma opensWith_deletion : OpensWith approval
    (validate .standard standardRules.options "DELETE FROM orders" deleteOne).nextSteps := by
  rw [validate_deletion, opensWith_reportOf, scoreOf_deletion]
  rfl

/-- Selecting the number one, which a condition is asked for. -/
def conditionOnOne : Exercise where
  solution := "SELECT 1"
  testCases := some [⟨"selects", some ["SELECT"], none, none, none⟩]
  requiredClauses := some ["WHERE"]

lemma validate_unconditional : validate .standard (Rules.mk false 95 (some 10000)).options
    "SELECT 1" conditionOnOne
      = reportOf ⟨false, 95, some 10000⟩ "SELECT 1".toList conditionOnOne ⟨[], []⟩ := by
  have hraw : "SELECT 1".toList = _ := String.toList_ofList
  have hmisses : ∀ l ∈ Catalog.standardTexts.1, Catalog.misses "SELECT 1".toList l = true := by
    rw [hraw]
    decide +kernel
  have haccepted : rejection? ⟨false, 95, some 10000⟩ "SELECT 1".toList = none :=
    comesTo_selection.accepted (by decide +kernel) (by decide +kernel)
  have hfound : findings .standard ⟨false, 95, some 10000⟩ "SELECT 1".toList conditionOnOne
      = .ok ⟨[], []⟩ := by
    rw [findings, Catalog.detect_of_misses hmisses]
    rfl
  rw [validate_eq, haccepted, hfound]

lemma scoreOf_unconditional : scoreOf "SELECT 1".toList conditionOnOne ⟨[], []⟩ = 90 := by
  unfold scoreOf missing
  rw [comesTo_selection.prepared]
  decide +kernel

/-- A deletion of all rows that has 70 points is approved of and not valid, and so is a selection
praised that has 90 points where 95 are asked for. -/
theorem advice_against_verdict :
    (validate .standard standardRules.options "DELETE FROM orders" deleteOne).isValid = false ∧
      OpensWith approval
        (validate .standard standardRules.options "DELETE FROM orders" deleteOne).nextSteps ∧
      (validate .standard (Rules.mk false 95 (some 10000)).options "SELECT 1"
        conditionOnOne).isValid = false ∧
      OpensWith praise (validate .standard (Rules.mk false 95 (some 10000)).options "SELECT 1"
        conditionOnOne).nextSteps := by
  refine ⟨not_isValid_deletion, opensWith_deletion, ?_, ?_⟩
  · rw [validate_unconditional, isValid_reportOf, scoreOf_unconditional]
    rfl
  · rw [validate_unconditional, opensWith_reportOf, scoreOf_unconditional]
    rfl

/-- What is approved of in a deletion of all rows has a critical mistake. -/
theorem advice_of_deletion :
    (validate .standard standardRules.options "DELETE FROM orders" deleteOne).isValid = false ∧
      OpensWith approval
        (validate .standard standardRules.options "DELETE FROM orders" deleteOne).nextSteps ∧
      ∃ d ∈ (validate .standard standardRules.options "DELETE FROM orders" deleteOne).mistakes,
        d.severity = .critical := by
  have hadvised := advice_of_not_isValid not_isValid_deletion
  obtain ⟨-, -, hcritical⟩ := hadvised.approval_iff.1 opensWith_deletion
  exact ⟨not_isValid_deletion, opensWith_deletion, hcritical⟩

end QueryTutor.Validation
