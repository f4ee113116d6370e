import QueryTutor.Proofs.Analysis.Growth
import QueryTutor.Proofs.Check.SolutionMatch

/-!
# Matching a solution with texts that go on

A text that goes on with white space keeps its analysis and its features, and so it matches the
solutions that it matched.
-/

namespace QueryTutor.Check
open Text Double Phrase Analysis

variable {s : List Char}

/-! ## Features -/

lemma getLast?_featureKeyword : ∀ k ∈ featureKeywords, k.toList.getLast? ≠ some ' ' := by
  decide

/-- What is listed as a feature of a text: keywords that occur in it, its tables and its columns. -/
lemma mem_of_mem_features {q f : List Char} (h : f ∈ features q) :
    (f ∈ featureKeywords.map String.toList ∧ occurs f q = true) ∨ f ∈ tableNames q
      ∨ f ∈ columnNames q := by
  have hmem := mem_of_mem_firstSeenBy h
  rwa [List.mem_append, List.mem_append, List.mem_filter, or_assoc] at hmem

/-- Each of these is listed, in some letter case. -/
lemma exists_mem_features {q f : List Char}
    (h : (f ∈ featureKeywords.map String.toList ∧ occurs f q = true) ∨ f ∈ tableNames q
      ∨ f ∈ columnNames q) : ∃ g ∈ features q, lower g = lower f := by
  refine exists_mem_firstSeenBy ?_
  rwa [List.mem_append, List.mem_append, List.mem_filter, or_assoc]

/-- The features of a text are features of it when it goes on with white space, letter case apart. -/
lemma exists_mem_features_append (hs : startsBlank s = true) {q f : List Char} (hf : f ∈ features q) :
    ∃ g ∈ features (q ++ s), lower g = lower f := by
  refine exists_mem_features ((mem_of_mem_features hf).imp ?_ (Or.imp ?_ ?_))
  · rintro ⟨hkeyword, hoccurs⟩
    refine ⟨hkeyword, ?_⟩
    obtain ⟨k, hk, rfl⟩ := List.mem_map.1 hkeyword
    exact occurs_append (getLast?_featureKeyword k hk) (startsWithWord_of_startsBlank hs) hoccurs
  · exact fun htable => (tableNames_append hs q).subset htable
  · intro hcolumn
    rwa [columnNames_append hs (List.ne_nil_of_mem hcolumn)]

/-! ## Matches -/

lemma sharedFeatures_mono {solution query query' : List (List Char)}
    (h : ∀ f ∈ query, ∃ g ∈ query', lower g = lower f) :
    sharedFeatures solution query ≤ sharedFeatures solution query' := by
  refine (List.monotone_filter_right solution fun f hf => ?_).length_le
  rw [List.contains_iff_mem, List.mem_map] at hf ⊢
  obtain ⟨a, ha, heq⟩ := hf
  obtain ⟨g, hg, hkey⟩ := h a ha
  exact ⟨g, hg, hkey.trans heq⟩

/-- More shared features make no smaller share. -/
lemma matchesSolution_mono {threshold : Float} {solution query query' : List (List Char)}
    (hle : sharedFeatures solution query ≤ sharedFeatures solution query')
    (h : matchesSolution threshold solution query = true) :
    matchesSolution threshold solution query' = true := by
  rw [matchesSolution, matchRatio] at h ⊢
  split_ifs at h ⊢ with hnil
  · exact h
  · have hpos : 0 < solution.length := List.length_pos_of_ne_nil (by simpa using hnil)
    obtain ⟨hnumber, -, hratio⟩ := le_iff.1 h
    have hr := rounds_wholeQuotient (sharedFeatures solution query) hpos
    have hr' := rounds_wholeQuotient (sharedFeatures solution query') hpos
    refine le_iff.2 ⟨hnumber, hr'.isNumber, ?_⟩
    calc value threshold ≤ value (wholeQuotient (sharedFeatures solution query) solution.length) :=
          hratio
      _ = rounded (sharedFeatures solution query / solution.length) := hr.value_eq
      _ ≤ rounded (sharedFeatures solution query' / solution.length) := by
          refine rounded_mono (div_le_div_of_nonneg_right ?_ (Nat.cast_nonneg _))
          exact_mod_cast hle
      _ = value (wholeQuotient (sharedFeatures solution query') solution.length) :=
          hr'.value_eq.symm

lemma passed_runSolutionMatch (threshold : Float) (e : Exercise) (q : List Char) :
    (runSolutionMatch threshold e q).passed
      = matchesSolution threshold (features (Query.prepared e.solution.toList)) (features q) := by
  rw [runSolutionMatch]
  split_ifs with h
  · exact h.symm
  · exact (Bool.eq_false_iff.2 h).symm

/-- A text that goes on with white space has all that it had: what its analysis tells stays, all its
features stay, letter case apart, and it passes every comparison with a solution that it passed. -/
theorem analysis_and_features_append (hs : startsBlank s = true) (q : List Char) :
    Grows (ofText q) (ofText (q ++ s))
      ∧ (∀ f ∈ features q, ∃ g ∈ features (q ++ s), lower g = lower f)
      ∧ ∀ (threshold : Float) (e : Exercise), (runSolutionMatch threshold e q).passed = true →
        (runSolutionMatch threshold e (q ++ s)).passed = true := by
  have hfeatures : ∀ f ∈ features q, ∃ g ∈ features (q ++ s), lower g = lower f :=
    fun _ => exists_mem_features_append hs
  refine ⟨grows_append hs q, hfeatures, fun threshold e hpassed => ?_⟩
  rw [passed_runSolutionMatch] at hpassed ⊢
  exact matchesSolution_mono (sharedFeatures_mono hfeatures) hpassed

theorem analysis_and_features_append_by :
    startsBlank " by name".toList = true
      ∧ Grows (ofText "select name from users order".toList)
        (ofText ("select name from users order".toList ++ " by name".toList))
      ∧ (∀ f ∈ features "select name from users order".toList,
        ∃ g ∈ features ("select name from users order".toList ++ " by name".toList),
          lower g = lower f)
      ∧ ∀ (threshold : Float) (e : Exercise),
        (runSolutionMatch threshold e "select name from users order".toList).passed = true →
        (runSolutionMatch threshold e
          ("select name from users order".toList ++ " by name".toList)).passed = true :=
  ⟨rfl, analysis_and_features_append rfl _⟩

end QueryTutor.Check
