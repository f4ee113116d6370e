import QueryTutor.Proofs.Catalog.Standard
import QueryTutor.Proofs.Score.Points
import QueryTutor.Proofs.Validation.Rules

/-!
# Coherence

What a learner is told hangs together, however a validation ends: its parts have their sizes and
their order, the query is accepted exactly if it reaches the mark without a critical mistake, and a
query that is not accepted has an issue.
-/

namespace QueryTutor.Validation
open Feedback Text

/-- A report on a query, validated with a catalog and held to a mark, is coherent. -/
structure Coherent (c : Catalog) (mark : Int) (r : Report) : Prop where
  score_le : r.score ≤ 100
  hints_length : r.hints.length = 4
  hints_text : ∀ h ∈ r.hints, isBlankText h.toList = false
  steps_length : 1 ≤ r.nextSteps.length ∧ r.nextSteps.length ≤ 5
  numbered : r.executionSteps.map (·.number) = List.range' 1 r.executionSteps.length
  ordered : (r.executionSteps.map (·.operation.name)).Sublist
    ["FROM", "JOIN", "WHERE", "GROUP BY", "SELECT", "ORDER BY", "LIMIT"]
  mistakes_sublist : r.mistakes.Sublist c.mistakes
  mistakes_nodup : (r.mistakes.map (·.id)).Nodup
  main_first : r.mainMistake? = r.mistakes[0]?
  main_none : r.mainMistake? = none ↔ r.mistakes = []
  required_passed : ∀ v, r.required = some v → (v.passed = true ↔ v.faults = [])
  forbidden_passed : ∀ v, r.forbidden = some v → (v.passed = true ↔ v.faults = [])
  isValid_iff : r.isValid = true ↔
    r.wellFormed = true ∧ mark ≤ r.score ∧ ∀ d ∈ r.mistakes, d.severity ≠ .critical
  explained : r.isValid = false → ∃ i, r.issue = some i
  turnedAway : r.wellFormed = false → r.score = 0 ∧ r.analysis = {} ∧ r.mistakes = [] ∧
    r.executionSteps = [] ∧ r.tests.length = 0 ∧ r.required = none ∧ r.forbidden = none

lemma isBlankText_append {s t : String}
    (h : isBlankText s.toList = false ∨ isBlankText t.toList = false) :
    isBlankText (s ++ t).toList = false := by
  rw [isBlankText, String.toList_append, List.all_append, Bool.and_eq_false_iff]
  exact h

lemma authored?_text {e : Exercise} {level : Nat} {h : String} (hh : authored? e level = some h) :
    isBlankText h.toList = false := by
  obtain ⟨-, htext⟩ := Option.filter_eq_some_iff.1 hh
  simpa using htext

lemma nudge?_text {q s : Analysis} {h : String} (hh : nudge? q s = some h) :
    isBlankText h.toList = false := by
  unfold nudge? at hh
  split_ifs at hh <;> cases hh <;> decide

lemma getD_text {o : Option String} {s : String}
    (ho : ∀ h, o = some h → isBlankText h.toList = false) (hs : isBlankText s.toList = false) :
    isBlankText (o.getD s).toList = false := by
  cases o with
  | none => exact hs
  | some h => exact ho h rfl

lemma mistakeHints_text (d : Mistake) : ∀ h ∈ mistakeHints d, isBlankText h.toList = false := by
  have front : ∀ {s t : String}, isBlankText s.toList = false →
      isBlankText (s ++ t).toList = false := fun h => isBlankText_append (.inl h)
  intro h hh
  simp only [mistakeHints, List.mem_cons, List.not_mem_nil, or_false] at hh
  obtain rfl | rfl | rfl | rfl := hh
  · exact front (front (by decide))
  · exact front (front (front (front (by decide))))
  · exact front (front (front (by decide)))
  · exact front (front (front (front (by decide))))

lemma exerciseHints_text (e : Exercise) (a : Analysis) :
    ∀ h ∈ exerciseHints e a, isBlankText h.toList = false := by
  intro h hh
  simp only [exerciseHints, List.mem_cons, List.not_mem_nil, or_false] at hh
  -- `subst` would evaluate the hints
  rcases hh with hh | hh | hh | hh <;> rw [hh]
  · refine getD_text (fun h hh => ?_) (by decide)
    obtain hn | ⟨-, ha⟩ := Option.or_eq_some_iff.1 hh
    · exact nudge?_text hn
    · exact authored?_text ha
  · exact getD_text (fun _ => authored?_text) (by decide)
  · refine getD_text (fun _ => authored?_text) ?_
    split_ifs
    · decide
    · exact isBlankText_append (.inl (by decide))
  · exact getD_text (fun _ => authored?_text) (isBlankText_append (.inl (by decide)))

/-- There are four hints, and all have text. -/
lemma hints_spec (e : Exercise) (a : Analysis) (ms : List Mistake) :
    (hints e a ms).length = 4 ∧ ∀ h ∈ hints e a ms, isBlankText h.toList = false := by
  cases ms with
  | nil => exact ⟨rfl, exerciseHints_text e a⟩
  | cons d ms => exact ⟨rfl, mistakeHints_text d⟩

lemma nextSteps_length (e : Exercise) (a : Analysis) (ms : List Mistake) (score mark : Quantity) :
    1 ≤ (nextSteps e a ms score mark).length ∧ (nextSteps e a ms score mark).length ≤ 5 := by
  unfold nextSteps
  rw [List.length_take]
  refine ⟨le_min (by norm_num) ?_, min_le_left _ _⟩
  split_ifs <;> simp

lemma stepsFrom_number (a : Analysis) (shown : List Char) (n : Nat) (os : List Operation) :
    (stepsFrom a shown n os).map (·.number) = List.range' n (stepsFrom a shown n os).length := by
  induction os generalizing n with
  | nil => rfl
  | cons o os ih => rw [stepsFrom, List.map_cons, ih, List.length_cons, List.range'_succ]

lemma stepsFrom_operation (a : Analysis) (shown : List Char) (n : Nat) (os : List Operation) :
    (stepsFrom a shown n os).map (·.operation) = os := by
  induction os generalizing n with
  | nil => rfl
  | cons o os ih => rw [stepsFrom, List.map_cons, ih]

/-- The operations keep the order in which a database works. -/
lemma executionSteps_sublist (raw : List Char) (a : Analysis) :
    ((executionSteps raw a).map (·.operation.name)).Sublist (Operation.all.map (·.name)) := by
  have h : (executionSteps raw a).map (·.operation.name)
      = ((executionSteps raw a).map (·.operation)).map (·.name) := by
    rw [List.map_map]
    rfl
  rw [h, executionSteps, stepsFrom_operation]
  exact List.filter_sublist.map _

/-- Where nothing is found wrong, the issue is a score below the mark. -/
lemma exists_issue {ms : List Mistake} {required forbidden : Verdict} {score : Nat} {mark : Int}
    (h : Score.passes (.whole score) ms (.whole mark) = false) :
    ∃ i, issue? ms required forbidden (.whole score) (.whole mark) = some i := by
  rw [← Bool.not_eq_true, passes_iff] at h
  cases ms with
  | cons d ms => exact ⟨_, rfl⟩
  | nil =>
    have hlow : (score : Int) < mark := not_le.1 fun hle => h ⟨hle, by simp⟩
    unfold issue?
    split
    · exact ⟨_, rfl⟩
    · exact ⟨_, rfl⟩
    · exact ⟨_, rfl⟩
    · rw [if_pos (by simpa [Quantity.lt] using hlow)]
      exact ⟨_, rfl⟩

lemma ofFaults_passed (faults : List String) :
    (Verdict.ofFaults faults).passed = true ↔ (Verdict.ofFaults faults).faults = [] := by
  simp [Verdict.ofFaults]

/-- The report on a query that is turned away is coherent. -/
lemma coherent_rejection (c : Catalog) (mark : Int) (message impact : String) :
    Coherent c mark (.rejection message impact) where
  score_le := Nat.zero_le _
  hints_length := rfl
  hints_text := by
    intro h hh
    simp only [Report.rejection, rejectionHints, List.mem_cons, List.not_mem_nil, or_false] at hh
    obtain rfl | rfl | rfl | rfl := hh
    · decide
    · decide
    · decide
    · exact isBlankText_append (.inl (by decide))
  steps_length := by simp [Report.rejection, rejectionSteps]
  numbered := rfl
  ordered := List.nil_sublist _
  mistakes_sublist := List.nil_sublist _
  mistakes_nodup := .nil
  main_first := rfl
  main_none := by simp [Report.mainMistake?, Report.rejection]
  required_passed := nofun
  forbidden_passed := nofun
  isValid_iff := by simp [Report.rejection]
  explained _ := ⟨_, rfl⟩
  turnedAway _ := ⟨rfl, rfl, rfl, rfl, rfl, rfl, rfl⟩

/-- The report on a query that is graded is coherent. -/
lemma coherent_reportOf {c : Catalog} {rules : Rules} {raw : List Char} {e : Exercise}
    {f : Findings} (hc : c.ids.Nodup) (hf : f.mistakes.Sublist c.mistakes) :
    Coherent c rules.mark (reportOf rules raw e f) where
  score_le := Score.score_le _ _ _ _
  hints_length := (hints_spec _ _ _).1
  hints_text := (hints_spec _ _ _).2
  steps_length := nextSteps_length _ _ _ _ _
  numbered := stepsFrom_number _ _ _ _
  ordered := executionSteps_sublist _ _
  mistakes_sublist := hf
  mistakes_nodup := hc.sublist (hf.map _)
  main_first := List.head?_eq_getElem?
  main_none := List.head?_eq_none_iff
  required_passed v hv := by
    cases hv
    exact ofFaults_passed _
  forbidden_passed v hv := by
    cases hv
    exact ofFaults_passed _
  isValid_iff := by
    rw [← passes_iff]
    exact (and_iff_right rfl).symm
  explained h := exists_issue h
  turnedAway := nofun

/-- Every report is coherent: of every query, on every exercise, by all rules, and with every
catalog that can be made of mistakes. -/
theorem validate_coherent {ds : List Mistake} {c : Catalog} (hc : Catalog.ofList? ds = .ok c)
    (rules : Rules) (raw : String) (e : Exercise) :
    Coherent c rules.mark (validate c rules.options raw e) := by
  rw [validate_eq]
  cases rejection? rules raw.toList with
  | some r => exact coherent_rejection _ _ _ _
  | none =>
    dsimp only
    cases hf : findings c rules raw.toList e with
    | error x => exact coherent_rejection _ _ _ _
    | ok f =>
      obtain ⟨-, hids⟩ := Detection.ofList?_eq_ok hc
      obtain ⟨hdetect, -⟩ := findings_eq_ok hf
      exact coherent_reportOf hids (Detection.detect_sublist hdetect)

/-- The report on a query for all columns, with the standard catalog, is coherent. -/
theorem coherent_all_columns :
    Catalog.ofList? Catalog.standard.mistakes = .ok Catalog.standard ∧
      Coherent Catalog.standard 70
        (validate Catalog.standard (Rules.mk false 70 (some 10000)).options "SELECT * FROM orders;"
          { solution := "SELECT id FROM orders;" }) :=
  ⟨Catalog.ofList?_standard, validate_coherent Catalog.ofList?_standard ⟨false, 70, some 10000⟩ _ _⟩

end QueryTutor.Validation
