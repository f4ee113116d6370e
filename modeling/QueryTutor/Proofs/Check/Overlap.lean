import Mathlib.Data.Finset.Card
import QueryTutor.Proofs.Check.Growth
import QueryTutor.Proofs.Rational

/-!
# Shared features

Reckoned exactly, a query matches a solution by the number of features that the two have in common,
whatever the letter case and however often a name comes up.
-/

namespace QueryTutor.Check
open Text Phrase Analysis

/-- The features of a text in small letters: the keywords that occur in it, its tables and its
columns. -/
def featureSet (q : List Char) : Finset (List Char) :=
  (featureKeywords.toFinset.filter fun k => occurs k.toList q).image (fun k => lower k.toList)
    ∪ (tableNames q).toFinset.image lower ∪ (columnNames q).toFinset.image lower

lemma mem_featureSet {q s : List Char} : s ∈ featureSet q ↔
    ∃ f, ((f ∈ featureKeywords.map String.toList ∧ occurs f q = true) ∨ f ∈ tableNames q
      ∨ f ∈ columnNames q) ∧ lower f = s := by
  simp only [featureSet, Finset.mem_union, Finset.mem_image, Finset.mem_filter, List.mem_toFinset]
  constructor
  · rintro ((⟨k, ⟨hk, hoccurs⟩, rfl⟩ | ⟨t, ht, rfl⟩) | ⟨c, hc, rfl⟩)
    · exact ⟨k.toList, .inl ⟨List.mem_map_of_mem hk, hoccurs⟩, rfl⟩
    · exact ⟨t, .inr (.inl ht), rfl⟩
    · exact ⟨c, .inr (.inr hc), rfl⟩
  · rintro ⟨f, ⟨hf, hoccurs⟩ | ht | hc, rfl⟩
    · obtain ⟨k, hk, rfl⟩ := List.mem_map.1 hf
      exact .inl (.inl ⟨k, ⟨hk, hoccurs⟩, rfl⟩)
    · exact .inl (.inr ⟨f, ht, rfl⟩)
    · exact .inr ⟨f, hc, rfl⟩

/-- The list of features has one entry for each feature in small letters. -/
lemma toFinset_map_lower_features (q : List Char) :
    ((features q).map lower).toFinset = featureSet q := by
  ext s
  rw [List.mem_toFinset, List.mem_map, mem_featureSet]
  constructor
  · rintro ⟨f, hf, rfl⟩
    exact ⟨f, mem_of_mem_features hf, rfl⟩
  · rintro ⟨f, hf, rfl⟩
    exact exists_mem_features hf

lemma nodup_map_lower_features (q : List Char) : ((features q).map lower).Nodup :=
  nodup_map_firstSeenBy _

lemma length_features (q : List Char) : (features q).length = (featureSet q).card := by
  rw [← toFinset_map_lower_features, List.toFinset_card_of_nodup (nodup_map_lower_features q),
    List.length_map]

/-- What is counted is how many features the two texts share. -/
lemma sharedFeatures_features (s q : List Char) :
    sharedFeatures (features s) (features q) = (featureSet s ∩ featureSet q).card := by
  have hmem : ∀ f,
      ((features q).map lower).contains (lower f) = decide (lower f ∈ featureSet q) := by
    intro f
    rw [← toFinset_map_lower_features, Bool.eq_iff_iff, List.contains_iff_mem, decide_eq_true_eq,
      List.mem_toFinset]
  calc sharedFeatures (features s) (features q)
      = (((features s).map lower).filter (· ∈ featureSet q)).length := by
        rw [List.filter_map, List.length_map, sharedFeatures]
        simp only [hmem, Function.comp_def]
    _ = (((features s).map lower).filter (· ∈ featureSet q)).toFinset.card :=
        (List.toFinset_card_of_nodup ((nodup_map_lower_features s).filter _)).symm
    _ = (featureSet s ∩ featureSet q).card := by
        rw [List.toFinset_filter, toFinset_map_lower_features]
        simp only [decide_eq_true_eq, Finset.filter_mem_eq_inter]

/-- Reckoned exactly, a text matches a solution if it has the wanted share of its features. -/
lemma matchesSolution_features_iff {threshold : ℚ} (h : 0 < threshold) (s q : List Char) :
    matchesSolution threshold (features s) (features q) = true ↔
      (featureSet s).Nonempty ∧
        threshold * (featureSet s).card ≤ (featureSet s ∩ featureSet q).card := by
  have hratio : matchesSolution threshold (features s) (features q) = true ↔
      threshold ≤ if (features s).isEmpty then ((0 : ℕ) : ℚ)
        else (featureSet s ∩ featureSet q).card / (featureSet s).card := by
    rw [← sharedFeatures_features, ← length_features, matchesSolution, matchRatio]
    split_ifs <;> exact decide_eq_true_iff
  rw [hratio, ← Finset.card_pos]
  split_ifs with hnil
  · have hzero : (featureSet s).card = 0 := by rw [← length_features, List.isEmpty_iff.1 hnil]; rfl
    rw [Nat.cast_zero, hzero]
    exact ⟨fun hle => absurd h hle.not_gt, fun hpos => absurd hpos.1 (Nat.lt_irrefl 0)⟩
  · have hpos : 0 < (featureSet s).card := by
      rw [← length_features]
      exact List.length_pos_of_ne_nil (by simpa using hnil)
    rw [le_div_iff₀ (by exact_mod_cast hpos)]
    exact (and_iff_right hpos).symm

/-- Reckoned exactly, the query has the wanted share of the features of the solution. -/
def matchesExactly (threshold : ℚ) (e : Exercise) (q : List Char) : Bool :=
  matchesSolution threshold (features (Query.prepared e.solution.toList)) (features q)

/-- Reckoned exactly, a query matches if the solution has features, and enough of them are features
of the query, each of them counted once.  Only the features in small letters matter, and more of
them in the query do no harm.  With doubles it is the same comparison that is made. -/
theorem matchesExactly_iff_card {threshold : ℚ} (h : 0 < threshold) (e : Exercise)
    (q : List Char) :
    let solution := featureSet (Query.prepared e.solution.toList)
    (matchesExactly threshold e q = true ↔
        solution.Nonempty ∧ threshold * solution.card ≤ (solution ∩ featureSet q).card) ∧
      (∀ (e' : Exercise) (q' : List Char),
        featureSet (Query.prepared e'.solution.toList) = solution → featureSet q ⊆ featureSet q' →
        matchesExactly threshold e q = true → matchesExactly threshold e' q' = true) ∧
      ∀ t : Float, (runSolutionMatch t e q).passed
        = matchesSolution t (features (Query.prepared e.solution.toList)) (features q) := by
  intro solution
  refine ⟨matchesSolution_features_iff h _ q, fun e' q' hsame hsub hmatch => ?_,
    fun t => passed_runSolutionMatch t e q⟩
  obtain ⟨hne, hle⟩ := (matchesSolution_features_iff h _ q).1 hmatch
  refine (matchesSolution_features_iff h _ q').2 ?_
  rw [hsame]
  refine ⟨hne, hle.trans ?_⟩
  exact_mod_cast Finset.card_le_card (Finset.inter_subset_inter_left hsub)

/-- An exercise on a table whose name is that of a column and a keyword. -/
def countExercise : Exercise := { solution := "SELECT count FROM count" }

/-- The keyword, the table and the column of one name are one of three features, all of which the
query has. -/
theorem matchesExactly_count :
    (0 : ℚ) < 7 / 10 ∧
      matchesExactly (7 / 10) countExercise "select total from count".toList = true ∧
      (featureSet (Query.prepared countExercise.solution.toList)).card = 3 := by
  have hpos : (0 : ℚ) < 7 / 10 := by norm_num
  have hprepared :
      Query.prepared countExercise.solution.toList = "select count from count".toList := by
    rw [show countExercise.solution.toList = _ from String.toList_ofList]
    decide +kernel
  have hcard : (featureSet "select count from count".toList).card = 3 := by decide +kernel
  have hshared : (featureSet "select count from count".toList
      ∩ featureSet "select total from count".toList).card = 3 := by decide +kernel
  obtain ⟨hmatch, -⟩ := matchesExactly_iff_card hpos countExercise "select total from count".toList
  rw [hprepared] at hmatch ⊢
  refine ⟨hpos, hmatch.2 ⟨Finset.card_pos.1 (by rw [hcard]; norm_num), ?_⟩, hcard⟩
  rw [hcard, hshared]
  norm_num

end QueryTutor.Check
