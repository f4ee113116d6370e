import QueryTutor.Proofs.Query.LetterCase
import QueryTutor.Proofs.Validation.Remark

/-!
# Letter case and validation

Queries that differ in the case of their letters get the same report, but for the clauses that the
steps of the report show.  Batches are the exception: the word `GO` ends one in capitals only.
-/

namespace QueryTutor

open Text

lemma Text.SameButCase.sameButLayout {x y : List Char} (h : SameButCase x y) :
    SameButLayout x y := by
  induction x generalizing y with
  | nil =>
    obtain rfl : y = [] := List.map_eq_nil_iff.1 h.symm
    exact .nil
  | cons c x ih =>
    obtain ⟨d, y, rfl, hd, hy⟩ := List.map_eq_cons_iff.1 h.symm
    exact .letter hd.symm (ih hy.symm)

/-- The report without the steps, which show the clauses of the query as they are written. -/
def Report.withoutSteps (r : Report) : Report :=
  { r with executionSteps := [] }

namespace Validation

section Case

variable {x y : List Char}

/-- The mistakes of the standard catalog are found in a query in either case. -/
lemma detect_recased (h : SameButCase x y) (heuristics : Bool) (enabled : List String) :
    Catalog.standard.detect x heuristics enabled = Catalog.standard.detect y heuristics enabled := by
  rw [Catalog.detect, Catalog.detect, Detection.detectAmong_eq, Detection.detectAmong_eq]
  refine Detection.sieve_congr fun d hd => ?_
  obtain ⟨b, hx, hy⟩ := Catalog.anyOccursIn_layout h.sameButLayout
    (Catalog.standard_readable d (List.mem_of_mem_filter hd))
  rw [hx, hy]

lemma checkLength_recased (h : SameButCase x y) (limit : Option Quantity) :
    Query.checkLength limit x = Query.checkLength limit y := by
  have hlength : x.length = y.length := by
    rw [← length_uncap x, h, length_uncap]
  have hblank : ∀ t : List Char, isBlankText (uncap t) = isBlankText t := fun t => by
    rw [isBlankText, isBlankText, uncap, List.all_map]
    exact congrArg t.all (funext isBlank_toLower)
  cases limit with
  | none => rfl
  | some l => rw [Query.checkLength, Query.checkLength, hlength, ← hblank x, h, hblank]

/-- What is graded depends on the raw text by what is found in it and by the steps only. -/
lemma grade_congr {c : Catalog} {o : Options} {e : Exercise}
    (hdetect : c.detect x o.heuristics (e.enabledChecks.getD [])
      = c.detect y o.heuristics (e.enabledChecks.getD []))
    (hforbidden : Check.forbidden e x = Check.forbidden e y) (q : List Char) :
    (grade c o x q e).map Report.withoutSteps = (grade c o y q e).map Report.withoutSteps := by
  rw [grade, grade, hdetect, hforbidden]
  cases c.detect y o.heuristics (e.enabledChecks.getD []) with
  | error err => rfl
  | ok ms =>
    cases Check.forbidden e y with
    | error err => rfl
    | ok verdict =>
      cases markOf o.mark with
      | error err => rfl
      | ok mark =>
        simp only [searching, Except.mapError, bind, Except.bind, pure, Except.pure, Except.map,
          Report.withoutSteps]

lemma run_congr {c : Catalog} {o : Options} {e : Exercise}
    (hlength : ∀ limit, Query.checkLength limit x = Query.checkLength limit y)
    (hprepared : Query.prepared x = Query.prepared y)
    (hgrade : ∀ q, (grade c o x q e).map Report.withoutSteps
      = (grade c o y q e).map Report.withoutSteps) :
    (run c o x e).map Report.withoutSteps = (run c o y e).map Report.withoutSteps := by
  rw [run, run, hprepared]
  cases limitOf o.limit with
  | error err => rfl
  | ok limit =>
    simp only [bind, Except.bind, hlength]
    cases Query.checkLength limit y with
    | some r => rfl
    | none =>
      cases Query.precheck limit (Query.prepared y) with
      | some r => rfl
      | none => exact hgrade _

end Case

/-- What is reported, worked out from what a run comes to. -/
lemma withoutSteps_validate (c : Catalog) (o : Options) (raw : String) (e : Exercise) :
    (validate c o raw e).withoutSteps = match (run c o raw.toList e).map Report.withoutSteps with
      | .ok r => r
      | .error _ => .internalError := by
  rw [validate]
  cases run c o raw.toList e with
  | error err => rfl
  | ok r => rfl

/-- Queries that differ in the case of their letters, with the same ends of batches, get the same
report but for the clauses that its steps show. -/
theorem validate_recased (o : Options) {e : Exercise} (hforbidden : e.forbiddenPatterns.getD [] = [])
    {x y : String} (h : Query.Recased x.toList y.toList) :
    (validate .standard o x e).withoutSteps = (validate .standard o y e).withoutSteps := by
  have hnone : Check.forbidden e x.toList = Check.forbidden e y.toList := by
    rw [Check.forbidden, Check.forbidden, hforbidden, Check.metAmong, Check.metAmong]
  have hdetect := detect_recased h.letters o.heuristics (e.enabledChecks.getD [])
  have hrun := run_congr (checkLength_recased h.letters) h.prepared_eq (grade_congr hdetect hnone)
  rw [withoutSteps_validate, withoutSteps_validate, hrun]

/-- A selection of one value with a name, in capitals and in small letters. -/
theorem validate_recased_selection :
    ({ solution := "SELECT 1 AS n" } : Exercise).forbiddenPatterns.getD [] = [] ∧
      Query.Recased "SELECT 1 AS n".toList "select 1 as N".toList ∧
      (validate .standard {} "SELECT 1 AS n"
          { solution := "SELECT 1 AS n" }).withoutSteps
        = (validate .standard {} "select 1 as N"
          { solution := "SELECT 1 AS n" }).withoutSteps := by
  have hlacks : Query.Lacks "CREATE" (Query.Token.scan "SELECT 1 AS n".toList) := by
    unfold Query.Lacks
    decide +kernel
  have h : Query.Recased "SELECT 1 AS n".toList "select 1 as N".toList :=
    ⟨by decide +kernel, by decide +kernel, .inr (.inl hlacks)⟩
  exact ⟨rfl, h, validate_recased {} rfl h⟩

/-- An exercise on a table with the name of the word that ends a batch. -/
def players : Exercise where
  solution := "SELECT name FROM go g"
  expectedTables := some ["go"]

/-- In capitals the name of the table ends a batch, and the word behind it is joined on to it. -/
theorem tables_players :
    Text.SameButCase "SELECT name FROM go g".toList "SELECT name FROM GO g".toList ∧
      (validate .standard standardRules.options "SELECT name FROM go g" players).analysis.tables
        = ["go"] ∧
      (validate .standard standardRules.options "SELECT name FROM GO g" players).analysis.tables
        = ["gog"] := by
  have tables : ∀ {x : String} {q : List Char}, ComesTo x.toList q → x.toList.length ≤ 10000 →
      (Query.precheck (some (.whole 10000)) q).isNone = true →
      (validate .standard standardRules.options x players).analysis = Analysis.ofText q := by
    intro x q hx hlength hcheck
    obtain ⟨ms, -, hreport⟩ := exists_validate_of_accepted (e := players) rfl
      (hx.accepted hlength hcheck)
    rw [hreport, ← hx.prepared]
    rfl
  have hsmall : ComesTo "SELECT name FROM go g".toList "select name from go g".toList :=
    comesTo_of_scan rfl (by decide +kernel)
  have hcapital : ComesTo "SELECT name FROM GO g".toList "select name from gog".toList :=
    comesTo_of_scan rfl (by decide +kernel)
  refine ⟨by decide +kernel, ?_, ?_⟩
  · rw [tables hsmall (by decide +kernel) (by decide +kernel)]
    decide +kernel
  · rw [tables hcapital (by decide +kernel) (by decide +kernel)]
    decide +kernel

end Validation

end QueryTutor
