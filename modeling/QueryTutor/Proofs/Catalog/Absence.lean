import QueryTutor.Proofs.Catalog.MissingWhere

/-!
# Absent clauses

Two mistakes of the standard catalog are clauses that are not there: a deletion or an update without
`where`, and `having` without `group by`.  They are detected in exactly the texts that have the one
anywhere, on whatever line, and the other nowhere.
-/

namespace QueryTutor.Catalog
open Pattern Text Mistake

/-- The pattern of texts with the words of the second body and nowhere those of the first. -/
def butNowhere (absent body : List Pattern) : Pattern :=
  ofList (place .lineStart :: ahead false (wholeAnywhere absent) :: anyText :: edge ::
    (body ++ [edge]))

/-- The words `GROUP BY`. -/
def groupBody : List Pattern :=
  ['G', 'R', 'O', 'U', 'P'].map char ++ (spaces :: ['B', 'Y'].map char)

/-- The word `HAVING`. -/
def havingBody : List Pattern :=
  ['H', 'A', 'V', 'I', 'N', 'G'].map char

lemma describes_group : Describes groupBody (ReadsPair "group" "by") :=
  .pair (by decide) (by decide) rfl rfl

lemma describes_having : Describes havingBody (Reads "having") :=
  .word (by decide) rfl rfl

/-- The pattern is met by the texts that have the one anywhere and the other nowhere. -/
lemma occurs_butNowhere_iff {absent body : List Pattern} {P Q : List Char → Prop}
    (ha : Describes absent P) (hb : Describes body Q)
    (hplain : (butNowhere absent body).isPlain = true) {x : List Char} :
    (butNowhere absent body).occurs detectionMode x = true ↔ HasWhole Q x ∧ ¬ HasWhole P x := by
  have hbody : From (anyText :: edge :: (body ++ [edge])) x 0 ↔ HasWhole Q x :=
    hb.meets_wholeAnywhere x
  rw [butNowhere, occurs_anchored_iff hplain, from_ahead, ha.meets_wholeAnywhere, hbody]
  simp [and_comm]

lemma patterns_having {x : List Char} :
    Pattern.anyOccursIn detectionMode x Standard.havingWithoutGroupBy.patterns
      = .ok ((butNowhere groupBody havingBody).occurs detectionMode x) :=
  anyOccursIn_singleton (occursIn_of_parsesTo (by decide +kernel) _ _)

/-- A raw text is found to miss a condition exactly if it has a deletion or an update and nowhere
the word `where`, and to filter groups that are never made exactly if it has the word `having` and
nowhere the words `group by`. -/
theorem mem_detect_absence_iff (q : List Char) (heuristics : Bool) (enabled : List String) :
    ∃ ms, standard.detect q heuristics enabled = .ok ms ∧
      (Standard.missingWhere ∈ ms ↔
        ¬ HasWhole (Reads "where") q ∧
          (HasWhole (ReadsPair "delete" "from") q ∨ HasWhole ReadsUpdate q)) ∧
      (Standard.havingWithoutGroupBy ∈ ms ↔
        HasWhole (Reads "having") q ∧ ¬ HasWhole (ReadsPair "group" "by") q) := by
  obtain ⟨ms, hms, hmem⟩ := exists_detect_standard q heuristics enabled
  refine ⟨ms, hms, ?_, ?_⟩
  · rw [hmem _ (by simp [standard, Standard.all]) rfl, patterns_missingWhere, Except.ok.injEq,
      Bool.or_eq_true, occurs_withoutWhere_iff describes_delete rfl,
      occurs_withoutWhere_iff describes_update rfl, and_or_left]
  · rw [hmem _ (by simp [standard, Standard.all]) rfl, patterns_having, Except.ok.injEq,
      occurs_butNowhere_iff describes_group describes_having rfl]

end QueryTutor.Catalog
