import QueryTutor.Proofs.Score.Points
import QueryTutor.Proofs.Validation.Rules

/-!
# Strictness

Stricter rules, a larger catalog and more demands of an exercise never raise a score, and never make
a query valid that was not.
-/

namespace QueryTutor.Validation

/-- The second exercise asks for all that the first one asks for: entries have been added, anywhere,
to what is required, expected, forbidden or enabled, and nothing else differs. -/
structure Demands (e e' : Exercise) : Prop where
  requiredClauses : (e.requiredClauses.getD []).Subperm (e'.requiredClauses.getD [])
  expectedTables : (e.expectedTables.getD []).Subperm (e'.expectedTables.getD [])
  expectedColumns : (e.expectedColumns.getD []).Subperm (e'.expectedColumns.getD [])
  forbiddenPatterns : (e.forbiddenPatterns.getD []).Subperm (e'.forbiddenPatterns.getD [])
  enabledChecks : e.enabledChecks.getD [] ⊆ e'.enabledChecks.getD []
  others : e' = { e with
    requiredClauses := e'.requiredClauses
    expectedTables := e'.expectedTables
    expectedColumns := e'.expectedColumns
    forbiddenPatterns := e'.forbiddenPatterns
    enabledChecks := e'.enabledChecks }

/-- The second rules are at least as strict: heuristic mistakes may count, the mark may be higher,
and the limit may be lower, where no limit is the highest. -/
structure Stricter (rules rules' : Rules) : Prop where
  heuristics : rules.heuristics = true → rules'.heuristics = true
  mark : rules.mark ≤ rules'.mark
  limit : ∀ n, rules.limit = some n → ∃ n', rules'.limit = some n' ∧ n' ≤ n

lemma penalty_mono {ms ms' : List Mistake} (h : ms.Sublist ms') :
    Score.penalty ms ≤ Score.penalty ms' := by
  induction h with
  | slnil => rfl
  | cons d _ ih => exact ih.trans (Nat.le_add_left _ _)
  | cons_cons d _ ih => exact Nat.add_le_add_left ih _

lemma missing_mono {e e' : Exercise} (h : Demands e e') (raw : List Char) :
    (missing raw e).length ≤ (missing raw e').length := by
  have filtered : ∀ {p : String → Bool} {as bs : List String}, as.Subperm bs →
      (as.filter p).length ≤ (bs.filter p).length := fun h => (h.filter _).length_le
  simp only [missing, Check.required, Verdict.ofFaults, List.length_append, List.length_map]
  exact Nat.add_le_add
    (Nat.add_le_add (filtered h.requiredClauses) (filtered h.expectedTables))
    (filtered h.expectedColumns)

/-- Demands leave the tests as they are. -/
lemma tests_eq {e e' : Exercise} (h : Demands e e') (a : Analysis) (q : List Char) :
    Check.tests e' a q = Check.tests e a q := by
  rw [h.others]
  rfl

lemma longest_mono {rules rules' : Rules} (h : Stricter rules rules') {n : Nat} {l : Quantity}
    (hl : rules.longest = some l) (hlt : l.lt (.whole n) = true) :
    ∃ l', rules'.longest = some l' ∧ l'.lt (.whole n) = true := by
  obtain ⟨m, hm, rfl⟩ := Option.map_eq_some_iff.1 hl
  obtain ⟨m', hm', hle⟩ := h.limit m hm
  refine ⟨.whole m', by rw [Rules.longest, hm', Option.map_some], ?_⟩
  have hlt' : m < n := by simpa [Quantity.lt] using hlt
  simpa [Quantity.lt] using hle.trans_lt hlt'

lemma checkLength_mono {rules rules' : Rules} (h : Stricter rules rules') {raw : List Char}
    (hr : Query.checkLength rules.longest raw ≠ none) :
    Query.checkLength rules'.longest raw ≠ none := by
  cases hl : rules.longest with
  | none =>
    rw [hl] at hr
    exact absurd rfl hr
  | some l =>
    rw [hl, Query.checkLength] at hr
    split_ifs at hr with hlong
    · obtain ⟨hlt, hblank⟩ := Bool.and_eq_true_iff.1 hlong
      obtain ⟨l', hl', hlt'⟩ := longest_mono h hl hlt
      rw [hl', Query.checkLength, hlt', hblank, Bool.and_true, if_pos rfl]
      nofun
    · exact absurd rfl hr

lemma precheck_mono {rules rules' : Rules} (h : Stricter rules rules') {q : List Char}
    (hr : Query.precheck rules.longest q ≠ none) : Query.precheck rules'.longest q ≠ none := by
  unfold Query.precheck at hr ⊢
  dsimp only at hr ⊢
  by_cases hempty : (Text.trim q).isEmpty = true
  · rw [if_pos hempty]
    nofun
  · rw [if_neg hempty] at hr ⊢
    cases hl' : rules'.longest.filter (·.lt (.whole (Text.trim q).length)) with
    | some l' => nofun
    | none =>
      have hl : rules.longest.filter (·.lt (.whole (Text.trim q).length)) = none := by
        by_contra hsome
        obtain ⟨l, hl⟩ := Option.ne_none_iff_exists'.1 hsome
        obtain ⟨hl, hlt⟩ := Option.filter_eq_some_iff.1 hl
        obtain ⟨l', hl'', hlt'⟩ := longest_mono h hl hlt
        rw [hl'', Option.filter_some, if_pos hlt'] at hl'
        cases hl'
      rw [hl] at hr
      exact hr

/-- A query that is turned away by some rules is turned away by stricter ones. -/
lemma rejection?_mono {rules rules' : Rules} (h : Stricter rules rules') {raw : List Char}
    (hr : rejection? rules' raw = none) : rejection? rules raw = none := by
  rw [rejection?, Option.or_eq_none_iff] at hr ⊢
  exact ⟨not_not.1 fun hne => checkLength_mono h hne hr.1,
    not_not.1 fun hne => precheck_mono h hne hr.2⟩

/-- What a stricter validation can find can be found by the other, which finds no more. -/
lemma findings_mono {c c' : Catalog} {rules rules' : Rules} {raw : List Char} {e e' : Exercise}
    {f' : Findings} (hc : c.mistakes.Sublist c'.mistakes) (hr : Stricter rules rules')
    (he : Demands e e') (h : findings c' rules' raw e' = .ok f') :
    ∃ f, findings c rules raw e = .ok f ∧ f.mistakes.Sublist f'.mistakes ∧
      f.forbidden.length ≤ f'.forbidden.length := by
  obtain ⟨hd, hm⟩ := findings_eq_ok h
  obtain ⟨ms, hms, hsub⟩ := Detection.detect_mono hc hr.heuristics he.enabledChecks hd
  rw [Detection.metAmong_eq] at hm
  obtain ⟨fs, hfs, hle⟩ := Detection.sieve_subperm he.forbiddenPatterns hm
  rw [← Detection.metAmong_eq] at hfs
  refine ⟨⟨ms, fs⟩, ?_, hsub, hle⟩
  rw [findings, hms, hfs]
  rfl

lemma scoreOf_mono {e e' : Exercise} (he : Demands e e') (raw : List Char) {f f' : Findings}
    (hm : f.mistakes.Sublist f'.mistakes) (hf : f.forbidden.length ≤ f'.forbidden.length) :
    scoreOf raw e' f' ≤ scoreOf raw e f := by
  rw [scoreOf, scoreOf, tests_eq he]
  exact Score.score_antitone _ (penalty_mono hm) (missing_mono he raw) hf

/-- A score that passes with more mistakes and a higher mark passes otherwise. -/
lemma passes_mono {score score' : Nat} {ms ms' : List Mistake} {mark mark' : Int}
    (hs : score' ≤ score) (hm : ms.Sublist ms') (hk : mark ≤ mark')
    (h : Score.passes (.whole score') ms' (.whole mark') = true) :
    Score.passes (.whole score) ms (.whole mark) = true := by
  simp only [Score.passes, Score.hasCritical, Quantity.le, Bool.and_eq_true, decide_eq_true_eq,
    Bool.not_eq_eq_eq_not, Bool.not_true, List.any_eq_false] at h ⊢
  obtain ⟨hle, hcrit⟩ := h
  exact ⟨by omega, fun d hd => hcrit d (hm.subset hd)⟩

/-- Strictness is monotone: where an exercise asks for more, the rules are stricter and the catalog
has more mistakes, the score of a query does not grow, and a query that is valid all the same was
valid before. -/
theorem validate_mono {c c' : Catalog} {rules rules' : Rules} {e e' : Exercise} (raw : String)
    (hc : c.mistakes.Sublist c'.mistakes) (hr : Stricter rules rules') (he : Demands e e') :
    (validate c' rules'.options raw e').score ≤ (validate c rules.options raw e).score ∧
      ((validate c' rules'.options raw e').isValid = true →
        (validate c rules.options raw e).isValid = true) := by
  rw [validate_eq c', validate_eq c]
  cases hrej : rejection? rules' raw.toList with
  | some r => exact ⟨Nat.zero_le _, nofun⟩
  | none =>
    rw [rejection?_mono hr hrej]
    dsimp only
    cases hf' : findings c' rules' raw.toList e' with
    | error x => exact ⟨Nat.zero_le _, nofun⟩
    | ok f' =>
      obtain ⟨f, hf, hms, hfs⟩ := findings_mono hc hr he hf'
      rw [hf]
      have hscore := scoreOf_mono he raw.toList hms hfs
      exact ⟨hscore, passes_mono hscore hms hr.mark⟩

/-- With five mistakes of the standard catalog and a lower mark, a query for a name scores as much
or more. -/
theorem validate_mono_orders :
    (Catalog.mk (Catalog.standard.mistakes.take 5)).mistakes.Sublist Catalog.standard.mistakes ∧
      Stricter ⟨false, 70, none⟩ ⟨true, 80, some 100⟩ ∧
      Demands { solution := "SELECT name FROM orders" }
        { solution := "SELECT name FROM orders", requiredClauses := some ["WHERE"] } ∧
      (validate Catalog.standard (Rules.mk true 80 (some 100)).options "SELECT * FROM orders"
          { solution := "SELECT name FROM orders", requiredClauses := some ["WHERE"] }).score ≤
        (validate ⟨Catalog.standard.mistakes.take 5⟩ (Rules.mk false 70 none).options
          "SELECT * FROM orders" { solution := "SELECT name FROM orders" }).score := by
  have hc : (Catalog.mk (Catalog.standard.mistakes.take 5)).mistakes.Sublist
      Catalog.standard.mistakes := List.take_sublist _ _
  have hr : Stricter ⟨false, 70, none⟩ ⟨true, 80, some 100⟩ :=
    ⟨nofun, by decide, nofun⟩
  have he : Demands { solution := "SELECT name FROM orders" }
      { solution := "SELECT name FROM orders", requiredClauses := some ["WHERE"] } :=
    ⟨List.nil_subperm, List.nil_subperm, List.nil_subperm, List.nil_subperm, List.nil_subset _, rfl⟩
  exact ⟨hc, hr, he, (validate_mono _ hc hr he).1⟩

end QueryTutor.Validation
