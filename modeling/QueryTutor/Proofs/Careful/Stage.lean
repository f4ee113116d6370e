import QueryTutor.Proofs.Check.SolutionMatch
import QueryTutor.Proofs.Check.Weight
import QueryTutor.Proofs.Score.Points
import QueryTutor.Validation

/-!
# Operations that can fail

The stages of a validation with every operation that is not defined everywhere as one that can fail:
looking up an entry of a table or an item of a list, dividing, and cutting a double to a whole
number.  None of these operations fails, and each stage gives what it gives without them.
-/

namespace QueryTutor.Careful
open Double

/-- Why an operation gives no result. -/
inductive Failure where
  | pattern (e : Pattern.Error)
  | noEntry
  | noItem
  | zeroDivisor
  | noWholePart
  | incomparable
  deriving DecidableEq, Repr

/-! ## Operations -/

/-- What stands in a table under a key. -/
def entry {κ α : Type} [BEq κ] (table : List (κ × α)) (k : κ) : Except Failure α :=
  match table.lookup k with
  | some a => .ok a
  | none => .error .noEntry

/-- The item of a list at a place. -/
def item {α : Type} (as : List α) (n : Nat) : Except Failure α :=
  match as[n]? with
  | some a => .ok a
  | none => .error .noItem

/-- The quotient of two doubles, of which the second is not equal to zero. -/
def divide (x y : Float) : Except Failure Float :=
  if Float.le y (Float.ofNat 0) && Float.le (Float.ofNat 0) y then .error .zeroDivisor
  else .ok (x / y)

/-- The quotient of two whole numbers, of which the second is not zero. -/
def divideWhole (m n : Nat) : Except Failure Float :=
  if n = 0 then .error .zeroDivisor else .ok (wholeQuotient m n)

/-- The whole part of a double.  What is no number, is negative, or has no places behind the point
left has none. -/
def wholePart (x : Float) : Except Failure Nat :=
  if Float.le (Float.ofNat 0) x && Float.lt x (Float.ofNat (2 ^ 52)) then .ok x.toUInt64.toNat
  else .error .noWholePart

/-- The first item, where there is one. -/
def first {α : Type} (as : List α) : Except Failure (Option α) :=
  if as.isEmpty then .ok none else some <$> item as 0

lemma first_eq {α : Type} (as : List α) : first as = .ok as.head? := by
  cases as <;> rfl

/-- Only what is equal to zero does not divide. -/
lemma divide_of_pos {x y : Float} (h : Float.lt (Float.ofNat 0) y = true) :
    divide x y = .ok (x / y) := by
  obtain ⟨-, -, hlt⟩ := lt_iff.1 h
  have hle : Float.le y (Float.ofNat 0) = false := Bool.eq_false_iff.2 fun hle =>
    absurd (le_iff.1 hle).2.2 (not_le.2 hlt)
  rw [divide, hle]
  rfl

lemma wholePart_eq {x : Float} (hx : IsNumber x) (h0 : 0 ≤ value x) (hlt : value x < 2 ^ 52) :
    wholePart x = .ok x.toUInt64.toNat := by
  have hle : Float.le (Float.ofNat 0) x = true :=
    le_iff.2 ⟨Score.isFinite_zero.isNumber, hx, Score.value_zero.trans_le h0⟩
  have hbig : Float.lt x (Float.ofNat (2 ^ 52)) = true := by
    refine lt_iff.2 ⟨hx, (isFinite_ofNat (by norm_num)).isNumber, ?_⟩
    rw [value_ofNat (by norm_num)]
    exact_mod_cast hlt
  rw [wholePart, hle, hbig]
  rfl

/-! ## Scores -/

/-- The points that a mistake of each severity costs. -/
def costs : List (Severity × Nat) :=
  [(.critical, 30), (.high, 15), (.medium, 8), (.low, 4)]

/-- The points that all mistakes cost together. -/
def penalty : List Mistake → Except Failure Nat
  | [] => .ok 0
  | d :: ds => do
    let cost ← entry costs d.severity
    let rest ← penalty ds
    return cost + rest

/-- The share of the weight of all tests that lies on those passed. -/
def passRatio (tests : List (Bool × Float)) : Except Failure Float :=
  let weight := Score.total (tests.map (·.2))
  if Float.lt (Float.ofNat 0) weight then
    divide (Score.total ((tests.filter (·.1)).map (·.2))) weight
  else .ok (Float.ofNat 1)

/-- The score of a query. -/
def score (tests : List (Bool × Float)) (ms : List Mistake) (missing violations : Nat) :
    Except Failure Nat := do
  let ratio ← passRatio tests
  let cost ← penalty ms
  wholePart (Score.points ratio cost missing violations + 0.5)

lemma entry_costs (s : Severity) : entry costs s = .ok (Score.cost s) := by
  cases s <;> rfl

lemma penalty_eq (ms : List Mistake) : penalty ms = .ok (Score.penalty ms) := by
  induction ms with
  | nil => rfl
  | cons d ds ih =>
    rw [penalty, entry_costs, ih]
    rfl

lemma passRatio_eq (tests : List (Bool × Float)) : passRatio tests = .ok (Score.passRatio tests) := by
  rw [passRatio]
  split_ifs with h
  · rw [divide_of_pos h, Score.passRatio]
    exact congrArg _ (if_pos h).symm
  · rw [Score.passRatio]
    exact congrArg _ (if_neg h).symm

/-- Points in the range can be rounded. -/
lemma wholePart_add_half {x : Float} (h : Score.InRange x) :
    wholePart (x + 0.5) = .ok (Arithmetic.round x) := by
  have hsum := rounds_add h.isFinite Score.half_spec.1
  rw [Score.half_spec.2] at hsum
  have h201 : rounded 201 = 201 := by
    simpa using rounded_natCast (n := 201) (by norm_num)
  refine wholePart_eq hsum.isNumber ?_ ?_
  · rw [hsum.value_eq, ← rounded_zero]
    exact rounded_mono (by linarith [h.nonneg])
  · rw [hsum.value_eq]
    calc rounded (value x + 1 / 2) ≤ rounded 201 := rounded_mono (by linarith [h.le_full])
      _ = 201 := h201
      _ < 2 ^ 52 := by norm_num

lemma score_eq (tests : List (Bool × Float)) (ms : List Mistake) (missing violations : Nat) :
    score tests ms missing violations = .ok (Score.score tests ms missing violations) := by
  rw [score, passRatio_eq, penalty_eq]
  exact wholePart_add_half (Score.clamp_inRange _)

/-! ## Tests -/

/-- The outcomes of the test cases. -/
def runTestCases (ts : List Exercise.TestCase) (a : Analysis) (q : List Char) :
    Except Failure (List Check.TestResult) := do
  let standard ← if ts.isEmpty then .ok 0.0 else divide 1.0 (Float.ofNat ts.length)
  return ts.map (Check.runTestCase a q standard)

/-- The share of the features of the solution that the query has. -/
def matchRatio (solution query : List (List Char)) : Except Failure Float :=
  if solution.isEmpty then .ok (Float.ofNat 0)
  else divideWhole (Check.sharedFeatures solution query) solution.length

/-- The outcome of comparing a canonical query with the model solution. -/
def runSolutionMatch (threshold : Float) (e : Exercise) (q : List Char) :
    Except Failure Check.TestResult := do
  let solution := Check.features (Query.prepared e.solution.toList)
  let ratio ← matchRatio solution (Check.features q)
  if Float.le threshold ratio then
    return ⟨"Solution Match", true, "Query structure matches expected solution", 1.0⟩
  else
    let percent ← wholePart (ratio * Float.ofNat 100 + 0.5)
    return ⟨"Solution Match", false,
      "Query matches " ++ toString percent ++ "% of expected elements", 1.0⟩

/-- The outcomes of the tests of an exercise. -/
def tests (e : Exercise) (a : Analysis) (q : List Char) :
    Except Failure (List Check.TestResult) :=
  match Check.Strategy.ofExercise e with
  | .testCases ts => runTestCases ts a q
  | .solutionMatch => do
    let result ← runSolutionMatch Check.standardThreshold e q
    return [result]

lemma runTestCases_eq (ts : List Exercise.TestCase) (a : Analysis) (q : List Char) :
    runTestCases ts a q = .ok (Check.runTestCases ts a q) := by
  cases ts with
  | nil => rfl
  | cons t ts =>
    have hone : (1 : ℕ) ≤ (t :: ts).length := Nat.le_add_left _ _
    have hpos : Float.lt (Float.ofNat 0) (Float.ofNat (t :: ts).length) = true := by
      refine lt_iff.2 ⟨Score.isFinite_zero.isNumber, (rounds_ofNat _).isNumber, ?_⟩
      have hle := value_ofNat_mono hone
      rw [value_ofNat (by norm_num), Nat.cast_one] at hle
      rw [Score.value_zero]
      linarith
    rw [runTestCases, List.isEmpty_cons, if_neg Bool.false_ne_true, divide_of_pos hpos]
    rfl

/-- The share of features lies between nothing and all. -/
lemma isShare_matchRatio (solution query : List (List Char)) :
    Check.IsShare (Check.matchRatio solution query) := by
  cases solution with
  | nil => exact Check.isShare_zero
  | cons f fs =>
    have hpos : 0 < (f :: fs).length := List.length_pos_of_ne_nil (List.cons_ne_nil _ _)
    have hle : Check.sharedFeatures (f :: fs) query ≤ (f :: fs).length := List.length_filter_le _ _
    refine (Check.rounds_wholeQuotient _ hpos).within exact_zero exact_one (by positivity) ?_
    exact (div_le_one (by exact_mod_cast hpos)).2 (by exact_mod_cast hle)

lemma matchRatio_eq (solution query : List (List Char)) :
    matchRatio solution query = .ok (Check.matchRatio solution query) := by
  cases solution <;> rfl

/-- A share can be told in percent. -/
lemma wholePart_percent {ratio : Float} (h : Check.IsShare ratio) :
    wholePart (ratio * Float.ofNat 100 + 0.5)
      = .ok (Arithmetic.round (Arithmetic.mul ratio (Arithmetic.ofNat 100))) := by
  have hhundred : value (Float.ofNat 100) = 100 := by
    simpa using value_ofNat (n := 100) (by norm_num)
  have hmul := rounds_mul h.isFinite (isFinite_ofNat (n := 100) (by norm_num))
  rw [hhundred] at hmul
  have hbound : Exact 100 := by exact_mod_cast exact_natCast (n := 100) (by norm_num)
  have hrange := hmul.within exact_zero hbound (by linarith [h.lower]) (by linarith [h.upper])
  exact wholePart_add_half ⟨hrange.isFinite, hrange.lower, hrange.upper⟩

lemma runSolutionMatch_eq (threshold : Float) (e : Exercise) (q : List Char) :
    runSolutionMatch threshold e q = .ok (Check.runSolutionMatch threshold e q) := by
  simp only [runSolutionMatch, matchRatio_eq, bind, Except.bind]
  rw [Check.runSolutionMatch, Check.matchesSolution]
  by_cases h : Float.le threshold (Check.matchRatio
      (Check.features (Query.prepared e.solution.toList)) (Check.features q)) = true
  · rw [if_pos h]
    exact congrArg Except.ok (if_pos h).symm
  · rw [if_neg h, wholePart_percent (isShare_matchRatio _ _)]
    exact congrArg Except.ok (if_neg h).symm

lemma tests_eq (e : Exercise) (a : Analysis) (q : List Char) :
    tests e a q = .ok (Check.tests e a q) := by
  rw [tests, Check.tests]
  cases Check.Strategy.ofExercise e with
  | testCases ts => exact runTestCases_eq ts a q
  | solutionMatch =>
    rw [runSolutionMatch_eq]
    rfl

/-! ## Feedback -/

/-- What is told about a mistake of each category. -/
def focuses : List (Category × String) :=
  [(.performance, "selecting data"), (.security, "handling input"),
    (.correctness, "structuring your logic"), (.dataIntegrity, "modifying rows"),
    (.style, "writing your SQL")]

/-- What is told about an operation, by its name. -/
def descriptions : List (String × String) :=
  [("JOIN", "Combine rows from multiple tables based on join conditions"),
    ("WHERE", "Filter rows based on conditions"),
    ("GROUP BY", "Group rows for aggregation"),
    ("ORDER BY", "Sort the results"),
    ("LIMIT", "Limit the number of returned rows")]

/-- The one thing that a learner is told about first. -/
def issue? (ms : List Mistake) (required forbidden : Verdict) (score mark : Quantity) :
    Except Failure (Option Feedback.Issue) := do
  let mistake ← first ms
  let element ← first required.faults
  let pattern ← first forbidden.faults
  return Feedback.issue? mistake.toList ⟨required.passed, element.toList⟩
    ⟨forbidden.passed, pattern.toList⟩ score mark

/-- The author's hint of a level, if it has text. -/
def authored? (e : Exercise) (level : Nat) : Except Failure (Option String) := do
  if level < e.hints.length then
    let hint ← item e.hints level
    return if Text.isBlankText hint.toList then none else some hint
  else return none

/-- The hints about a mistake. -/
def mistakeHints (d : Mistake) : Except Failure (List String) := do
  let focus ← entry focuses d.category
  return ["Think about " ++ d.category.name
        ++ " best practices. What might be inefficient or risky in your query?",
      "Your query has a " ++ d.category.name ++ " issue. Look at how you're " ++ focus ++ ".",
      "Issue detected: " ++ d.name ++ ". " ++ d.correction,
      "Instead of patterns like \"" ++ Feedback.preview d.wrong ++ "\", try \""
        ++ Feedback.preview d.right ++ "\""]

/-- The hints about an exercise, for a query of which no mistake is known. -/
def exerciseHints (e : Exercise) (a : Analysis) : Except Failure (List String) := do
  let solution := Query.prepared e.solution.toList
  let tables := (Analysis.tableNames solution).map String.ofList
  let tableHint :=
    if tables.isEmpty then "Check that every column you need comes from the table you are querying."
    else "Make sure you're using the correct table(s): " ++ ", ".intercalate tables
  let vague ← authored? e 0
  let directed ← authored? e 1
  let specific ← authored? e 2
  let nearSolution ← authored? e 3
  return [((Feedback.nudge? a (Analysis.ofText solution)).or vague).getD
      "Review the basic structure of your query. Is something missing or in the wrong order?",
    directed.getD "Compare the clauses in your query with what the problem asks for.",
    specific.getD tableHint,
    nearSolution.getD
      ("Your query should start similar to: " ++ Feedback.firstSolutionLine e)]

/-- The hints for a query. -/
def hints (e : Exercise) (a : Analysis) (ms : List Mistake) : Except Failure (List String) := do
  match ← first ms with
  | some d => mistakeHints d
  | none => exerciseHints e a

/-- The advice for a query. -/
def nextSteps (e : Exercise) (a : Analysis) (ms : List Mistake) (score mark : Quantity) :
    Except Failure (List String) := do
  let mistake ← first ms
  return Feedback.nextSteps e a mistake.toList score mark

/-- What the learner is told about an operation. -/
def describe (a : Analysis) (o : Feedback.Operation) : Except Failure String :=
  if o = .source then .ok ("Load data from table(s): "
    ++ Feedback.Operation.listed a.tables "specified table")
  else if o = .select then .ok ("Select columns: " ++ Feedback.Operation.listed a.columns "*")
  else entry descriptions o.name

/-- The steps for operations, the first of which has the number `n`. -/
def stepsFrom (a : Analysis) (shown : List Char) (n : Nat) :
    List Feedback.Operation → Except Failure (List Feedback.ExecutionStep)
  | [] => .ok []
  | o :: os => do
    let description ← describe a o
    let rest ← stepsFrom a shown (n + 1) os
    return ⟨n, o, description, String.ofList (Analysis.extractClause o.name.toList shown)⟩ :: rest

/-- The steps of a raw query. -/
def executionSteps (raw : List Char) (a : Analysis) :
    Except Failure (List Feedback.ExecutionStep) :=
  stepsFrom a (Query.collapsed raw) 1 (Feedback.Operation.all.filter (·.isPresent a))

lemma issue?_eq (ms : List Mistake) (required forbidden : Verdict) (score mark : Quantity) :
    issue? ms required forbidden score mark
      = .ok (Feedback.issue? ms required forbidden score mark) := by
  obtain ⟨passed, missing⟩ := required
  obtain ⟨passed', met⟩ := forbidden
  rw [issue?, first_eq, first_eq, first_eq]
  cases ms with
  | cons d ms => rfl
  | nil =>
    cases missing with
    | cons x missing => rfl
    | nil => cases met <;> rfl

lemma authored?_eq (e : Exercise) (level : Nat) :
    authored? e level = .ok (Feedback.authored? e level) := by
  rw [authored?, Feedback.authored?]
  split_ifs with h
  · rw [item, List.getElem?_eq_getElem h, Option.filter_some]
    change Except.ok (if Text.isBlankText e.hints[level].toList then none else _) = _
    cases Text.isBlankText e.hints[level].toList <;> rfl
  · rw [List.getElem?_eq_none (not_lt.1 h)]
    rfl

lemma mistakeHints_eq (d : Mistake) : mistakeHints d = .ok (Feedback.mistakeHints d) := by
  have hfocus : entry focuses d.category = .ok (Feedback.focus d.category) := by
    cases d.category <;> rfl
  rw [mistakeHints, hfocus]
  rfl

lemma exerciseHints_eq (e : Exercise) (a : Analysis) :
    exerciseHints e a = .ok (Feedback.exerciseHints e a) := by
  simp only [exerciseHints, authored?_eq, bind, Except.bind]
  rfl

lemma hints_eq (e : Exercise) (a : Analysis) (ms : List Mistake) :
    hints e a ms = .ok (Feedback.hints e a ms) := by
  rw [hints, first_eq]
  cases ms with
  | cons d ms => exact mistakeHints_eq d
  | nil => exact exerciseHints_eq e a

lemma nextSteps_eq (e : Exercise) (a : Analysis) (ms : List Mistake) (score mark : Quantity) :
    nextSteps e a ms score mark = .ok (Feedback.nextSteps e a ms score mark) := by
  rw [nextSteps, first_eq]
  cases ms <;> rfl

lemma describe_eq (a : Analysis) (o : Feedback.Operation) : describe a o = .ok (o.description a) := by
  cases o <;> rfl

lemma stepsFrom_eq (a : Analysis) (shown : List Char) (n : Nat) (os : List Feedback.Operation) :
    stepsFrom a shown n os = .ok (Feedback.stepsFrom a shown n os) := by
  induction os generalizing n with
  | nil => rfl
  | cons o os ih =>
    rw [stepsFrom, describe_eq, ih]
    rfl

lemma executionSteps_eq (raw : List Char) (a : Analysis) :
    executionSteps raw a = .ok (Feedback.executionSteps raw a) :=
  stepsFrom_eq _ _ _ _

end QueryTutor.Careful
