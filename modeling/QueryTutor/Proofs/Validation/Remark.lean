import QueryTutor.Proofs.Validation.Accepted
import QueryTutor.Proofs.Validation.Solution

/-!
# Comment lines and validation

A comment line in front of a query changes nothing of what is worked out from the canonical form.
Mistakes and forbidden patterns are looked for in the raw text, of which the comment is a part; the
score changes only if they do.
-/

namespace QueryTutor.Validation

/-! ## Searching two texts -/

/-- The patterns that are looked for in a raw query. -/
def searched (c : Catalog) (rules : Rules) (e : Exercise) : List String :=
  (c.mistakes.filter (Catalog.isSought rules.heuristics (e.enabledChecks.getD []))).flatMap
      (·.patterns)
    ++ e.forbiddenPatterns.getD []

/-- The pattern is met in both texts or in neither. -/
def Unmoved (x y : List Char) (source : String) : Prop :=
  Pattern.occursIn source detectionMode x = Pattern.occursIn source detectionMode y

lemma anyOccursIn_congr {x y : List Char} {sources : List String}
    (h : ∀ source ∈ sources, Unmoved x y source) :
    Pattern.anyOccursIn detectionMode x sources = Pattern.anyOccursIn detectionMode y sources := by
  induction sources with
  | nil => rfl
  | cons source sources ih =>
    obtain ⟨hsource, hrest⟩ := List.forall_mem_cons.1 h
    rw [Pattern.anyOccursIn, Pattern.anyOccursIn, hsource, ih hrest]

/-- The same is found in two texts if no pattern tells them apart. -/
lemma findings_congr {c : Catalog} {rules : Rules} {e : Exercise} {x y : List Char}
    (h : ∀ source ∈ searched c rules e, Unmoved x y source) :
    findings c rules x e = findings c rules y e := by
  obtain ⟨hsought, hforbidden⟩ := List.forall_mem_append.1 h
  have hdetect : c.detect x rules.heuristics (e.enabledChecks.getD [])
      = c.detect y rules.heuristics (e.enabledChecks.getD []) := by
    rw [Catalog.detect, Catalog.detect, Detection.detectAmong_eq, Detection.detectAmong_eq]
    refine Detection.sieve_congr fun d hd => anyOccursIn_congr fun source hsource => ?_
    exact hsought source (List.mem_flatMap.2 ⟨d, hd, hsource⟩)
  rw [findings, findings, hdetect, Detection.metAmong_eq, Detection.metAmong_eq,
    Detection.sieve_congr hforbidden]

/-- Whether a search can be carried out depends on the patterns only. -/
lemma isOk_findings {ds : List Mistake} {c : Catalog} (h : Catalog.ofList? ds = .ok c)
    (rules : Rules) (e : Exercise) (x : List Char) :
    (findings c rules x e).isOk = true ↔
      Catalog.firstBadPattern? (e.forbiddenPatterns.getD []) = none := by
  obtain ⟨ms, hms⟩ := Detection.exists_of_isOk
    (Detection.isOk_detect h x rules.heuristics (e.enabledChecks.getD []))
  rw [← Detection.isOk_metAmong x, findings, hms]
  cases Check.metAmong x (e.forbiddenPatterns.getD []) <;> exact Iff.rfl

/-! ## Reports on two texts -/

/-- Two reports differ by what is found in the raw texts at most, and in score and outcome only if
different things are found. -/
structure SameButFindings (r s : Report) : Prop where
  wellFormed : r.wellFormed = s.wellFormed
  analysis : r.analysis = s.analysis
  required : r.required = s.required
  tests : r.tests = s.tests
  graded : r.mistakes = s.mistakes → r.forbidden = s.forbidden →
    r.score = s.score ∧ r.isValid = s.isValid

lemma SameButFindings.rejections (m m' impact : String) :
    SameButFindings (.rejection m impact) (.rejection m' impact) :=
  ⟨rfl, rfl, rfl, rfl, fun _ _ => ⟨rfl, rfl⟩⟩

/-- Reports on queries of one canonical form. -/
lemma sameButFindings_reportOf (rules : Rules) {x y : List Char} (e : Exercise)
    (hsame : Query.prepared x = Query.prepared y) (f g : Findings) :
    SameButFindings (reportOf rules x e f) (reportOf rules y e g) where
  wellFormed := rfl
  analysis := congrArg Analysis.ofText hsame
  required := congrArg (fun q => some (Check.required e (Analysis.ofText q) q)) hsame
  tests := congrArg (fun q => Check.tests e (Analysis.ofText q) q) hsame
  graded := by
    intro hmistakes hforbidden
    obtain ⟨ms, fs⟩ := f
    obtain ⟨ms', fs'⟩ := g
    obtain rfl : ms = ms' := hmistakes
    obtain rfl : fs = fs' := congrArg Verdict.faults (Option.some.inj hforbidden)
    simp only [reportOf, scoreOf, missing, hsame, and_self]

lemma found_reportOf (rules : Rules) (x y : List Char) (e : Exercise) (f : Findings) :
    (reportOf rules x e f).mistakes = (reportOf rules y e f).mistakes ∧
      (reportOf rules x e f).forbidden = (reportOf rules y e f).forbidden :=
  ⟨rfl, rfl⟩

/-- Queries of one canonical form that are both turned away or both graded. -/
lemma sameButFindings_of_prepared {ds : List Mistake} {c : Catalog} (h : Catalog.ofList? ds = .ok c)
    {rules : Rules} {x y : String} (e : Exercise)
    (hsame : Query.prepared x.toList = Query.prepared y.toList)
    (hrejection : rejection? rules x.toList = rejection? rules y.toList) :
    SameButFindings (validate c rules.options x e) (validate c rules.options y e) := by
  rw [validate_eq, validate_eq, hrejection]
  cases rejection? rules y.toList with
  | some r => exact .rejections ..
  | none =>
    have hok : (findings c rules x.toList e).isOk = true ↔ (findings c rules y.toList e).isOk = true :=
      (isOk_findings h rules e _).trans (isOk_findings h rules e _).symm
    cases hx : findings c rules x.toList e with
    | error err =>
      cases hy : findings c rules y.toList e with
      | error err' => exact .rejections ..
      | ok g =>
        rw [hx, hy] at hok
        exact absurd (hok.2 rfl) Bool.false_ne_true
    | ok f =>
      cases hy : findings c rules y.toList e with
      | error err =>
        rw [hx, hy] at hok
        exact absurd (hok.1 rfl) Bool.false_ne_true
      | ok g => exact sameButFindings_reportOf rules e hsame f g

/-- Queries that open no statement are turned away. -/
lemma exists_validate_of_not_opensStatement (c : Catalog) (rules : Rules) {x : String} (e : Exercise)
    (h : Query.opensStatement (Query.prepared x.toList) = false) :
    ∃ message, validate c rules.options x e = .rejection message Report.rejectionImpact := by
  rw [validate_eq]
  cases hrejection : rejection? rules x.toList with
  | some r => exact ⟨r.message, rfl⟩
  | none =>
    rw [opensStatement_of_accepted hrejection] at h
    cases h

/-! ## Comment lines -/

/-- The query behind a comment line. -/
def remarked (remark raw : String) : String :=
  String.ofList (Query.Token.remark remark.toList ++ raw.toList)

lemma toList_remarked (remark raw : String) :
    (remarked remark raw).toList = Query.Token.remark remark.toList ++ raw.toList :=
  String.toList_ofList

/-- A comment fits in front of a query: it is one line, the two together are not too long, and the
comments can be taken out of the query with it and without it. -/
structure Fits (rules : Rules) (remark raw : String) : Prop where
  oneLine : ∀ d ∈ remark.toList, d ≠ '\r' ∧ d ≠ '\n'
  allowed : rules.Allow (remarked remark raw).toList
  strippable : Query.Strippable raw.toList
  remarked : Query.Strippable (remarked remark raw).toList

lemma Fits.allowed_raw {rules : Rules} {remark raw : String} (h : Fits rules remark raw) :
    rules.Allow raw.toList := by
  intro n hn
  have hlonger := h.allowed n hn
  rw [toList_remarked, List.length_append] at hlonger
  omega

/-- The first token that is no white space and no comment, if there is one, is neither a hint nor a
change of the time zone that begins like a statement. -/
def StartsPlainly (raw : List Char) : Prop :=
  ∀ t ∈ (Query.Token.scan raw).find? fun t => !t.kind.isLayout,
    t.kind ≠ .hint ∧ t.isOddShift = false

/-- What a query behind a comment line comes to, worked out from its tokens. -/
lemma comesTo_remarked {remark raw : String} {q : List Char} {ts : List Query.Token}
    (hremark : remark.toList.all (fun d => d != '\r' && d != '\n') = true)
    (hscan : Query.Token.scan raw.toList = ts)
    (h : ((Query.Statement.split (⟨.comment, Query.Token.remark remark.toList⟩ :: ts)).mapM
      Query.Statement.strip?).map (fun nss => Query.canonical
        (nss.flatMap fun ns => Query.Statement.trimLines (Query.Node.textOf ns))) = some q) :
    ComesTo (remarked remark raw).toList q := by
  have hline : ∀ d ∈ remark.toList, d ≠ '\r' ∧ d ≠ '\n' := fun d hd => by
    simpa using List.all_eq_true.1 hremark d hd
  refine comesTo_of_scan ?_ h
  rw [toList_remarked, Query.Token.scan_remark hline, hscan]

lemma fits_standard {remark raw : String} {q q' : List Char}
    (hremark : remark.toList.all (fun d => d != '\r' && d != '\n') = true)
    (hlength : (remarked remark raw).toList.length ≤ 10000) (h : ComesTo raw.toList q)
    (h' : ComesTo (remarked remark raw).toList q') : Fits standardRules remark raw where
  oneLine d hd := by simpa using List.all_eq_true.1 hremark d hd
  allowed := allow_standard hlength
  strippable := h.strippable
  remarked := h'.strippable

lemma startsPlainly_of_scan {x : List Char} {ts : List Query.Token} (hscan : Query.Token.scan x = ts)
    (h : (ts.find? fun t => !t.kind.isLayout).all
      (fun t => t.kind != .hint && !t.isOddShift) = true) : StartsPlainly x := by
  intro t ht
  rw [hscan] at ht
  simpa using (Option.all_eq_true ..).1 h t ht

/-- A mistake that is found in one of two accepted queries and not in the other. -/
lemma mistakes_ne_of_detected {d : Mistake} {x y : String} {e : Exercise}
    (hforbidden : e.forbiddenPatterns.getD [] = [])
    (hx : rejection? standardRules x.toList = none) (hy : rejection? standardRules y.toList = none)
    (hd : d ∈ Catalog.standard.mistakes)
    (hsought : Catalog.isSought false (e.enabledChecks.getD []) d = true)
    (hmet : Pattern.anyOccursIn detectionMode x.toList d.patterns = .ok true)
    (hmissed : Pattern.anyOccursIn detectionMode y.toList d.patterns = .ok false) :
    (validate .standard standardRules.options x e).mistakes
      ≠ (validate .standard standardRules.options y e).mistakes := by
  obtain ⟨ms, hms, hreport⟩ := exists_validate_of_accepted hforbidden hx
  obtain ⟨ms', hms', hreport'⟩ := exists_validate_of_accepted hforbidden hy
  rw [hreport, hreport']
  intro heq
  have hmem : d ∈ ms' := (show ms = ms' from heq) ▸ (Detection.mem_detect_iff hd hsought hms).2 hmet
  rw [Detection.mem_detect_iff hd hsought hms', hmissed] at hmem
  cases hmem

/-! ### What a comment line can change and what it cannot -/

lemma mistakes_remarked_ne : Fits standardRules "SELECT * FROM users" "SELECT 1" ∧
    (validate .standard standardRules.options (remarked "SELECT * FROM users" "SELECT 1")
        { solution := "SELECT 1" }).mistakes
      ≠ (validate .standard standardRules.options "SELECT 1" { solution := "SELECT 1" }).mistakes := by
  have htogether : ComesTo (remarked "SELECT * FROM users" "SELECT 1").toList "select 1".toList :=
    comesTo_remarked (by decide) scan_selection (by decide)
  have hmet : Pattern.anyOccursIn detectionMode
      (remarked "SELECT * FROM users" "SELECT 1").toList Mistake.Standard.selectStar.patterns
      = .ok true := by
    rw [toList_remarked]
    decide
  exact ⟨fits_standard (by decide) (by decide) comesTo_selection htogether,
    mistakes_ne_of_detected rfl (htogether.accepted (by decide) (by decide))
      (comesTo_selection.accepted (by decide) (by decide)) List.mem_cons_self rfl
      hmet (by decide)⟩

lemma analysis_remarked_ne : Fits standardRules "first try" " /*+ h */SELECT 1" ∧
    (validate .standard standardRules.options (remarked "first try" " /*+ h */SELECT 1")
        { solution := "SELECT 1" }).analysis
      ≠ (validate .standard standardRules.options " /*+ h */SELECT 1"
        { solution := "SELECT 1" }).analysis := by
  have hscan : Query.Token.scan " /*+ h */SELECT 1".toList
      = [⟨.blank, [' ']⟩, ⟨.hint, "/*+ h */".toList⟩, ⟨.manipulation, "SELECT".toList⟩,
        ⟨.blank, [' ']⟩, ⟨.number, ['1']⟩] := by
    decide +kernel
  have halone : ComesTo " /*+ h */SELECT 1".toList "/*+ h */select 1".toList :=
    comesTo_of_scan hscan (by decide)
  have htogether : ComesTo (remarked "first try" " /*+ h */SELECT 1").toList "select 1".toList :=
    comesTo_remarked (by decide) hscan (by decide)
  refine ⟨fits_standard (by decide) (by decide) halone htogether, ?_⟩
  have hopens : Query.opensStatement (Query.prepared " /*+ h */SELECT 1".toList) = false := by
    rw [halone.prepared]
    decide
  obtain ⟨message, hreport⟩ := exists_validate_of_not_opensStatement .standard standardRules
    { solution := "SELECT 1" } hopens
  obtain ⟨ms, -, hreport'⟩ := exists_validate_of_accepted (e := { solution := "SELECT 1" }) rfl
    (htogether.accepted (by decide) (by decide))
  rw [hreport, hreport']
  have hanalysis : Analysis.ofText (Query.prepared (remarked "first try" " /*+ h */SELECT 1").toList)
      ≠ {} := by
    rw [htogether.prepared]
    decide
  exact hanalysis

/-- The score of an accepted query that meets no pattern of the standard mistakes. -/
lemma score_of_misses {x : String} {q : List Char} {e : Exercise}
    (hforbidden : e.forbiddenPatterns.getD [] = []) (h : ComesTo x.toList q)
    (haccepted : rejection? standardRules x.toList = none)
    (hmisses : ∀ l ∈ Catalog.standardTexts.1, Catalog.misses x.toList l = true) :
    (validate .standard standardRules.options x e).score
      = Score.score ((Check.tests e (Analysis.ofText q) q).map fun t => (t.passed, t.weight)) []
        (Check.required e (Analysis.ofText q) q).faults.length 0 := by
  obtain ⟨ms, hms, hreport⟩ := exists_validate_of_accepted hforbidden haccepted
  rw [Catalog.detect_of_misses hmisses] at hms
  obtain rfl := Except.ok.inj hms
  rw [hreport]
  simp only [reportOf, scoreOf, missing, h.prepared, List.length_nil]

/-- An exercise with one test, which asks for two words that stand together. -/
def joinedAliases : Exercise where
  solution := "SELECT 1"
  testCases := some [⟨"aliases", some ["asas"], none, none, none⟩]

lemma score_remarked_ne : Fits standardRules "try" "with' time zone 'x'as as/**/as'" ∧
    (validate .standard standardRules.options (remarked "try" "with' time zone 'x'as as/**/as'")
        joinedAliases).score
      ≠ (validate .standard standardRules.options "with' time zone 'x'as as/**/as'"
        joinedAliases).score := by
  have hscan : Query.Token.scan "with' time zone 'x'as as/**/as'".toList
      = [⟨.zoneShift, "with' time zone 'x'".toList⟩, ⟨.keyword, "as".toList⟩, ⟨.blank, [' ']⟩,
        ⟨.keyword, "as".toList⟩, ⟨.comment, "/**/".toList⟩, ⟨.keyword, "as".toList⟩,
        ⟨.other, ['\'']⟩] := by
    decide +kernel
  have halone : ComesTo "with' time zone 'x'as as/**/as'".toList
      "with' time zone 'x'as asas'".toList :=
    comesTo_of_scan hscan (by decide +kernel)
  have htogether : ComesTo (remarked "try" "with' time zone 'x'as as/**/as'").toList
      "with' time zone 'x'as as as'".toList :=
    comesTo_remarked (by decide +kernel) hscan (by decide +kernel)
  have hfits : Fits standardRules "try" "with' time zone 'x'as as/**/as'" :=
    fits_standard (by decide +kernel) (by decide +kernel) halone htogether
  have hremark : "try".toList = _ := String.toList_ofList
  have hraw : "with' time zone 'x'as as/**/as'".toList = _ := String.toList_ofList
  have hmisses : ∀ l ∈ Catalog.standardTexts.1,
      Catalog.misses "with' time zone 'x'as as/**/as'".toList l = true := by
    rw [hraw]
    decide +kernel
  have hmisses' : ∀ l ∈ Catalog.standardTexts.1,
      Catalog.misses (remarked "try" "with' time zone 'x'as as/**/as'").toList l = true := by
    rw [toList_remarked, hremark, hraw]
    decide +kernel
  have hscore := score_of_misses (e := joinedAliases) rfl halone
    (halone.accepted (by decide +kernel) (by decide +kernel)) hmisses
  have hscore' := score_of_misses (e := joinedAliases) rfl htogether
    (htogether.accepted (by decide +kernel) (by decide +kernel)) hmisses'
  refine ⟨hfits, ?_⟩
  rw [hscore, hscore']
  decide +kernel

/-- A comment line in front of a query changes only what is found in the raw text, and changes that
only if one of the patterns that are looked for is met in one of the texts and not in the other. -/
theorem validate_remarked {ds : List Mistake} {c : Catalog} (hc : Catalog.ofList? ds = .ok c)
    {rules : Rules} {remark raw : String} (e : Exercise) (hfits : Fits rules remark raw)
    (hplain : StartsPlainly raw.toList) :
    SameButFindings (validate c rules.options (remarked remark raw) e)
        (validate c rules.options raw e) ∧
      ((∀ source ∈ searched c rules e, Unmoved (remarked remark raw).toList raw.toList source) →
        (validate c rules.options (remarked remark raw) e).mistakes
            = (validate c rules.options raw e).mistakes ∧
          (validate c rules.options (remarked remark raw) e).forbidden
            = (validate c rules.options raw e).forbidden) := by
  have hcases := Query.prepared_remark hfits.oneLine hplain hfits.strippable
    (toList_remarked remark raw ▸ hfits.remarked)
  rw [← toList_remarked] at hcases
  obtain hsame | ⟨hnot, hnot'⟩ := hcases
  · have hrejection : rejection? rules (remarked remark raw).toList
        = rejection? rules raw.toList := by
      rw [rejection?, rejection?, hfits.allowed.checkLength, hfits.allowed_raw.checkLength, hsame]
    refine ⟨sameButFindings_of_prepared hc e hsame hrejection, fun hunmoved => ?_⟩
    rw [validate_eq, validate_eq, hrejection, findings_congr hunmoved]
    cases rejection? rules raw.toList with
    | some r => exact ⟨rfl, rfl⟩
    | none =>
      cases findings c rules raw.toList e with
      | error err => exact ⟨rfl, rfl⟩
      | ok f => exact found_reportOf ..
  · obtain ⟨m, hm⟩ := exists_validate_of_not_opensStatement c rules e hnot
    obtain ⟨m', hm'⟩ := exists_validate_of_not_opensStatement c rules e hnot'
    rw [hm, hm']
    exact ⟨.rejections .., fun _ => ⟨rfl, rfl⟩⟩

/-- A remark in front of a selection. -/
theorem validate_remarked_selection :
    Catalog.ofList? Catalog.standard.mistakes = .ok Catalog.standard ∧
      Fits standardRules "first try" "SELECT 1" ∧ StartsPlainly "SELECT 1".toList ∧
      SameButFindings
        (validate .standard standardRules.options (remarked "first try" "SELECT 1")
          { solution := "SELECT 1" })
        (validate .standard standardRules.options "SELECT 1" { solution := "SELECT 1" }) := by
  have htogether : ComesTo (remarked "first try" "SELECT 1").toList "select 1".toList :=
    comesTo_remarked (by decide +kernel) scan_selection (by decide +kernel)
  have hfits : Fits standardRules "first try" "SELECT 1" :=
    fits_standard (by decide +kernel) (by decide +kernel) comesTo_selection htogether
  have hplain : StartsPlainly "SELECT 1".toList :=
    startsPlainly_of_scan scan_selection (by decide +kernel)
  exact ⟨Catalog.ofList?_standard, hfits, hplain,
    (validate_remarked Catalog.ofList?_standard _ hfits hplain).1⟩

/-- A comment line can change what is reported: mistakes are found in it, a hint behind white space
goes with it, and words behind a change of the time zone are joined otherwise behind it. -/
theorem validate_remarked_ne :
    (Fits standardRules "SELECT * FROM users" "SELECT 1" ∧
      (validate .standard standardRules.options (remarked "SELECT * FROM users" "SELECT 1")
          { solution := "SELECT 1" }).mistakes
        ≠ (validate .standard standardRules.options "SELECT 1" { solution := "SELECT 1" }).mistakes) ∧
    (Fits standardRules "first try" " /*+ h */SELECT 1" ∧
      (validate .standard standardRules.options (remarked "first try" " /*+ h */SELECT 1")
          { solution := "SELECT 1" }).analysis
        ≠ (validate .standard standardRules.options " /*+ h */SELECT 1"
          { solution := "SELECT 1" }).analysis) ∧
    (Fits standardRules "try" "with' time zone 'x'as as/**/as'" ∧
      (validate .standard standardRules.options (remarked "try" "with' time zone 'x'as as/**/as'")
          joinedAliases).score
        ≠ (validate .standard standardRules.options "with' time zone 'x'as as/**/as'"
          joinedAliases).score) :=
  ⟨mistakes_remarked_ne, analysis_remarked_ne, score_remarked_ne⟩

end QueryTutor.Validation
