import QueryTutor.Proofs.Catalog.WellFormed
import QueryTutor.Proofs.Exercise.Encoding
import QueryTutor.Proofs.Pattern.Count
import QueryTutor.Proofs.Reading.Stop

/-!
# Outcomes of reading exercises

Whatever is wrong with an exercise is told as a list of problems, with one exception: a forbidden
pattern with a count of repeats for which there is no number stops the reading.
-/

namespace QueryTutor.Exercise

open Reading Catalog

/-- The forbidden patterns of the object are texts, the first of which that cannot be read is
`source`; `cause` is why. -/
def BreaksOn (v : Value) (source : String) (cause : Pattern.Error) : Prop :=
  ∃ fields name good rest, v = .object fields ∧
    find? fields ⟨"forbiddenPatterns", "forbidden_patterns"⟩
      = some (name, .strings (good ++ source :: rest)) ∧
    (∀ s ∈ good, IsReadable s) ∧ Pattern.parse source.toList = .error cause

/-- What can become of a value that is read as an exercise: it is accepted with patterns that can all
be read, or refused with problems, or a pattern with a count without a number stops the reading. -/
inductive Outcome (v : Value) : Reading Exercise → Prop
  | accepted {e : Exercise} (readable : ∀ source ∈ e.forbiddenPatterns.getD [], IsReadable source) :
      Outcome v (.ok e)
  | refused {ps : List Problem} (nonempty : ps ≠ []) : Outcome v (.error (.problems ps))
  | stopped {source : String} (first : BreaksOn v source .countTooLarge)
      (large : Pattern.HasLargeCount source.toList) : Outcome v (.error (.stopped .countTooLarge))

lemma neverStops_readColumn : NeverStops readColumn :=
  NeverStops.object fun fields =>
    (((ends_required fields _ neverStops_string).map _).seq
      (ends_required fields _ neverStops_string)).seq (ends_optionally fields _ neverStops_bool)

lemma neverStops_readTable : NeverStops readTable :=
  NeverStops.object fun fields =>
    ((ends_required fields _ neverStops_string).map _).seq
      (ends_withDefault fields _ neverStops_readColumn.list [])

lemma neverStops_readTables : NeverStops readTables :=
  NeverStops.object fun fields => ends_withDefault fields _ neverStops_readTable.list []

lemma ends_texts (fields : List (String × Value)) (k : Key) : Ends none (texts fields k) :=
  ends_optionally fields k neverStops_string.list

lemma neverStops_readTestCase : NeverStops readTestCase :=
  NeverStops.object fun fields =>
    (((((ends_required fields _ neverStops_string).map _).seq (ends_texts fields _)).seq
      (ends_texts fields _)).seq (ends_texts fields _)).seq
        (ends_optionally fields _ neverStops_real)

lemma neverStops_solution : NeverStops fun v => (string v).check refuseSolution := by
  intro v
  apply (neverStops_string v).check
  intro s r _ hr
  rw [refuseSolution] at hr
  split at hr <;> cases hr
  exact ⟨_, rfl⟩

/-- What is read of the forbidden patterns alone. -/
def readForbidden (fields : List (String × Value)) : Reading (Option (List String)) :=
  withDefault fields ⟨"forbiddenPatterns", "forbidden_patterns"⟩ none
    (fun v => (nullable (list string) v).check refusePatterns)

/-- Nothing but the forbidden patterns stops the reading of an exercise. -/
lemma ends_read {fields : List (String × Value)} {stop : Option Pattern.Error}
    (h : Ends stop (readForbidden fields)) : Ends stop (read (.object fields)) := by
  have htext (k : Key) (default : String) : Ends none (withDefault fields k default string) :=
    ends_withDefault fields k neverStops_string default
  have h₁ := (htext (key "title") "").map Exercise.mk
  have h₂ := h₁.seq (htext (key "description") "")
  have h₃ := h₂.seq (htext ⟨"starterCode", "starter_code"⟩ "")
  have h₄ := h₃.seq (ends_required fields (key "solution") neverStops_solution)
  have h₅ := h₄.seq (ends_withDefault fields (key "hints") neverStops_string.list [])
  have h₆ := h₅.seq (htext (key "language") "sql")
  have h₇ := h₆.seq
    (ends_optionally fields ⟨"testCases", "test_cases"⟩ neverStops_readTestCase.list)
  have h₈ := h₇.seq (ends_optionally fields ⟨"schema", "table_schema"⟩ neverStops_readTables)
  have h₉ := h₈.seq (ends_texts fields ⟨"requiredClauses", "required_clauses"⟩)
  have h₁₀ := h₉.seq h
  have h₁₁ := h₁₀.seq (ends_texts fields ⟨"expectedTables", "expected_tables"⟩)
  have h₁₂ := h₁₁.seq (ends_texts fields ⟨"expectedColumns", "expected_columns"⟩)
  have h₁₃ := h₁₂.seq (ends_texts fields ⟨"enabledChecks", "enabled_checks"⟩)
  simp only [Option.none_or, Option.or_none] at h₁₃
  exact h₁₃

variable {fields : List (String × Value)} {source : String}

lemma ends_readForbidden_of_breaksOn (h : BreaksOn (.object fields) source .countTooLarge) :
    Ends (some .countTooLarge) (readForbidden fields) := by
  obtain ⟨_, name, good, rest, ⟨⟩, hfind, hgood, hbad⟩ := h
  have hfirst := firstBadPattern?_eq_some_iff.2 ⟨good, rest, rfl, hgood, hbad⟩
  have hrefuse : refusePatterns (some (good ++ source :: rest)) = some (.stopped .countTooLarge) := by
    rw [refusePatterns, Option.getD_some, hfirst]
    rfl
  have hlist : nullable (list string) (.strings (good ++ source :: rest))
      = .ok (some (good ++ source :: rest)) := Restores.strings.nullable (some _)
  rw [readForbidden, withDefault, hfind]
  apply Ends.under
  rw [hlist, check, hrefuse]
  rfl

lemma ends_readForbidden (h : ∀ source, ¬ BreaksOn (.object fields) source .countTooLarge) :
    Ends none (readForbidden fields) := by
  rw [readForbidden, withDefault]
  split
  case h_2 => rfl
  case h_1 name w hfind =>
    apply Ends.under
    apply (neverStops_string.list.nullable w).check
    intro sources? r hw hr
    obtain ⟨⟨source, cause⟩, hfirst, rfl⟩ := Option.map_eq_some_iff.1 hr
    cases cause with
    | malformed fault place => exact ⟨_, rfl⟩
    | exclusiveFlags => exact ⟨_, rfl⟩
    | countTooLarge =>
      obtain ⟨good, rest, heq, hgood, hbad⟩ := firstBadPattern?_eq_some_iff.1 hfirst
      have hstrings : w = .strings (good ++ source :: rest) := by
        cases sources? with
        | none => exact absurd heq (by simp)
        | some sources =>
          rw [Option.getD_some] at heq
          exact eq_strings_of_nullable (heq ▸ hw)
      rw [hstrings] at hfind
      exact absurd ⟨fields, name, good, rest, rfl, hfind, hgood, hbad⟩ (h source)

lemma read_of_breaksOn {v : Value} (h : BreaksOn v source .countTooLarge) :
    read v = .error (.stopped .countTooLarge) := by
  obtain ⟨fields, _, _, _, rfl, _⟩ := id h
  exact (ends_read (ends_readForbidden_of_breaksOn h)).eq_stopped

lemma outcome_read (v : Value) : Outcome v (read v) := by
  by_cases h : ∃ source, BreaksOn v source .countTooLarge
  · obtain ⟨source, hbreaks⟩ := h
    obtain ⟨_, _, _, _, _, _, _, hbad⟩ := id hbreaks
    rw [read_of_breaksOn hbreaks]
    exact .stopped hbreaks (Pattern.hasLargeCount_of_parse hbad)
  · have hends : Ends none (read v) := by
      cases v with
      | object fields => exact ends_read (ends_readForbidden (not_exists.1 h))
      | _ => exact ends_problem
    cases hread : read v with
    | ok e =>
      have hpatterns := (admissible_of_read hread).patterns
      rw [refusePatterns, Option.map_eq_none_iff, Detection.firstBadPattern?_eq_none_iff] at hpatterns
      exact .accepted fun source hsource => isReadable_iff.2 (hpatterns source hsource)
    | error r =>
      rw [hread] at hends
      cases r with
      | problems ps => exact .refused hends.2
      | stopped e => cases hends

/-- An exercise that forbids the least count without a number. -/
def largeCount : Value :=
  .object [("solution", .string "SELECT 1"),
    ("forbiddenPatterns", .strings ["a\x7b4294967295\x7d"])]

lemma breaksOn_largeCount : BreaksOn largeCount "a\x7b4294967295\x7d" .countTooLarge :=
  ⟨_, _, [], [], rfl, rfl, List.forall_mem_nil _, rfl⟩

end QueryTutor.Exercise
