import QueryTutor.Proofs.Catalog.Standard
import QueryTutor.Proofs.Query.Remark
import QueryTutor.Proofs.Validation.Rules

/-!
# Accepted queries

A query that its canonical form lets pass the pre-check is graded.  The canonical form can be worked
out from the tokens.
-/

namespace QueryTutor.Validation

/-- The text is not longer than the rules allow. -/
def Rules.Allow (rules : Rules) (x : List Char) : Prop :=
  ∀ n, rules.limit = some n → (x.length : Int) ≤ n

lemma Rules.Allow.checkLength {rules : Rules} {x : List Char} (h : rules.Allow x) :
    Query.checkLength rules.longest x = none := by
  rw [Rules.longest]
  cases hlimit : rules.limit with
  | none => rfl
  | some n =>
    have hle : Quantity.lt (.whole n) (.whole x.length) = false :=
      decide_eq_false (Int.not_lt.2 (h n hlimit))
    simp [Query.checkLength, hle]

/-- The comments of a text can be taken out, and then it has this canonical form. -/
structure ComesTo (x q : List Char) : Prop where
  strippable : Query.Strippable x
  prepared : Query.prepared x = q

/-- What a text comes to, worked out from its tokens. -/
lemma comesTo_of_scan {x q : List Char} {ts : List Query.Token} (hscan : Query.Token.scan x = ts)
    (h : ((Query.Statement.split ts).mapM Query.Statement.strip?).map (fun nss => Query.canonical
      (nss.flatMap fun ns => Query.Statement.trimLines (Query.Node.textOf ns))) = some q) :
    ComesTo x q := by
  obtain ⟨nss, hstrip, hq⟩ := Option.map_eq_some_iff.1 h
  constructor
  · rw [Query.Strippable, hscan, hstrip]
    rfl
  · rw [Query.prepared, Query.withoutComments, hscan, hstrip]
    exact hq

/-! ## The rules of an installation -/

/-- The rules of an installation that sets none of its own. -/
def standardRules : Rules :=
  ⟨false, 70, some 10000⟩

lemma allow_standard {x : List Char} (h : x.length ≤ 10000) : standardRules.Allow x := by
  intro n hn
  cases hn
  omega

/-- A text passes the pre-check if the canonical form that it comes to does. -/
lemma ComesTo.accepted {x q : List Char} (h : ComesTo x q) (hx : x.length ≤ 10000)
    (hcheck : (Query.precheck (some (.whole 10000)) q).isNone = true) :
    rejection? standardRules x = none := by
  rw [rejection?, (allow_standard hx).checkLength, h.prepared, Option.none_or]
  exact Option.isNone_iff_eq_none.1 hcheck

/-- A query that is accepted for an exercise without forbidden patterns is graded. -/
lemma exists_validate_of_accepted {x : String} {e : Exercise}
    (hforbidden : e.forbiddenPatterns.getD [] = [])
    (h : rejection? standardRules x.toList = none) :
    ∃ ms, Catalog.standard.detect x.toList false (e.enabledChecks.getD []) = .ok ms ∧
      validate .standard standardRules.options x e = reportOf standardRules x.toList e ⟨ms, []⟩ := by
  obtain ⟨ms, hms⟩ := Detection.exists_of_isOk
    (Detection.isOk_detect Catalog.ofList?_standard x.toList false (e.enabledChecks.getD []))
  have hfindings : findings .standard standardRules x.toList e = .ok ⟨ms, []⟩ := by
    have hdetect : Catalog.standard.detect x.toList standardRules.heuristics
        (e.enabledChecks.getD []) = .ok ms := hms
    rw [findings, hdetect, hforbidden]
    rfl
  exact ⟨ms, hms, by rw [validate_eq, h, hfindings]⟩

/-! ## A selection of one value -/

lemma scan_selection : Query.Token.scan "SELECT 1".toList
    = [⟨.manipulation, "SELECT".toList⟩, ⟨.blank, [' ']⟩, ⟨.number, ['1']⟩] := by
  decide

lemma comesTo_selection : ComesTo "SELECT 1".toList "select 1".toList :=
  comesTo_of_scan scan_selection (by decide)

end QueryTutor.Validation
