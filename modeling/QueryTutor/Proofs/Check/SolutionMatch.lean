import QueryTutor.Check.SolutionMatch
import QueryTutor.Proofs.Double.Whole
import QueryTutor.Proofs.Text.Front
import QueryTutor.Query.Precheck

/-!
# Matching a solution

A text has all features of its own, and nearly every statement has some feature.
-/

namespace QueryTutor.Check
open Text Double
open Float.Model UnpackedFloat

/-- The quotient of whole numbers is the exact one, rounded. -/
lemma rounds_wholeQuotient (m : ℕ) {n : ℕ} (hn : 0 < n) : Rounds (wholeQuotient m n) (m / n) := by
  have hv : unpackedValue (finite .positive n 0 hn) = n := by simp
  have h0 : unpackedValue (finite .positive n 0 hn) ≠ 0 := by
    rw [hv]
    exact_mod_cast hn.ne'
  obtain rfl | hm := m.eq_zero_or_pos
  · have h := packs_div (u := zero .positive) (.inl ⟨_, rfl⟩) (.inr ⟨_, _, _, _, rfl⟩) h0
    rw [hv, unpackedValue_zero, ← Nat.cast_zero] at h
    simpa [wholeQuotient, hn] using h.rounds
  · have h := packs_div (u := finite .positive m 0 hm) (.inr ⟨_, _, _, _, rfl⟩)
      (.inr ⟨_, _, _, _, rfl⟩) h0
    have hvm : unpackedValue (finite .positive m 0 hm) = m := by simp
    rw [hv, hvm] at h
    simpa [wholeQuotient, hm, hn] using h.rounds

lemma standardThreshold_spec : IsNumber standardThreshold ∧ value standardThreshold ≤ 1 := by
  have h : Float.le standardThreshold (Float.ofNat 1) = true := by decide
  obtain ⟨hnum, -, hle⟩ := le_iff.1 h
  rw [value_ofNat (by norm_num), Nat.cast_one] at hle
  exact ⟨hnum, hle⟩

lemma firstSeenBy_ne_nil {α β : Type} [BEq β] (key : α → β) {as : List α} (h : as ≠ []) :
    firstSeenBy key as ≠ [] := by
  obtain ⟨a, as, rfl⟩ := List.exists_cons_of_ne_nil h
  rw [firstSeenBy, firstSeenAfter, if_neg (by simp)]
  exact List.cons_ne_nil _ _

lemma sharedFeatures_self (fs : List (List Char)) : sharedFeatures fs fs = fs.length := by
  have h : ∀ f ∈ fs, (fs.map lower).contains (lower f) = true := fun f hf =>
    List.contains_iff_mem.2 (List.mem_map_of_mem hf)
  rw [sharedFeatures, List.filter_eq_self.2 h]

/-- A text with features matches itself. -/
lemma matchesSolution_self {fs : List (List Char)} (h : fs ≠ []) :
    matchesSolution standardThreshold fs fs = true := by
  have hpos : 0 < fs.length := List.length_pos_of_ne_nil h
  have hone : (fs.length : ℚ) / fs.length = (1 : ℕ) := by
    rw [Nat.cast_one, div_self (by exact_mod_cast hpos.ne')]
  have hr := rounds_wholeQuotient fs.length hpos
  rw [hone] at hr
  have hratio : (matchRatio fs fs : Float) = wholeQuotient fs.length fs.length := by
    rw [matchRatio, if_neg (by simpa using h), sharedFeatures_self]
    rfl
  rw [matchesSolution, hratio]
  refine le_iff.2 ⟨standardThreshold_spec.1, hr.isNumber, ?_⟩
  rw [hr.value_eq, rounded_natCast (by norm_num), Nat.cast_one]
  exact standardThreshold_spec.2

/-- A phrase without spaces is found letter by letter. -/
lemma strip?_append {phrase word : List Char}
    (h : List.Forall₂ (fun c d => c ≠ ' ' ∧ Fold.same c d = true) phrase word) (rest : List Char) :
    Phrase.strip? phrase (word ++ rest) = some rest := by
  induction h with
  | nil => rfl
  | cons hcd _ ih => 
    rw [Phrase.strip?, List.cons_append, Phrase.stripBy?, if_neg hcd.1, if_pos hcd.2]
    exact ih

/-- Every word that opens a statement is a feature, `with` apart. -/
lemma exists_featureKeyword : ∀ k ∈ Query.statementKeywords, k ≠ "with" →
    ∃ f ∈ featureKeywords,
      List.Forall₂ (fun c d => c ≠ ' ' ∧ Fold.same c d = true) f.toList k.toList := by
  decide

lemma occurs_of_opensWith {k : String} {f t : List Char}
    (hf : List.Forall₂ (fun c d => c ≠ ' ' ∧ Fold.same c d = true) f k.toList)
    (h : Query.opensWith k t = true) : Phrase.occurs f t = true := by
  rw [Query.opensWith, Option.any_eq_true] at h
  obtain ⟨rest, hrest, hend⟩ := h
  have hat : Phrase.wholeAt? f none t = some rest := by
    rw [eq_append_of_stripFront? hrest, Phrase.wholeAt?, strip?_append hf]
    simpa [Phrase.continuesWord, Option.filter] using hend
  rw [Phrase.occurs, Phrase.find?]
  cases t with
  | nil => simp [Phrase.findFrom, hat]
  | cons c t => simp [Phrase.findFrom, hat]

/-- A statement has a feature unless it opens with `with`. -/
lemma features_ne_nil {t : List Char} (h : Query.opensStatement t = true)
    (hwith : Query.opensWith "with" t = false) : features t ≠ [] := by
  rw [Query.opensStatement, List.any_eq_true] at h
  obtain ⟨k, hk, hopens⟩ := h
  have hne : k ≠ "with" := by
    rintro rfl
    exact Bool.false_ne_true (hwith.symm.trans hopens)
  obtain ⟨f, hf, hsame⟩ := exists_featureKeyword k hk hne
  have hmem : f.toList ∈ (featureKeywords.map String.toList).filter fun k => Phrase.occurs k t :=
    List.mem_filter.2 ⟨List.mem_map_of_mem hf, occurs_of_opensWith hsame hopens⟩
  refine firstSeenBy_ne_nil _ (List.ne_nil_of_mem (a := f.toList) ?_)
  exact List.mem_append_left _ (List.mem_append_left _ hmem)

end QueryTutor.Check
