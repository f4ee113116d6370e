import QueryTutor.Proofs.Text.Case

/-!
# Small letters

A text in small letters has no other small letters, although the small form of a letter can depend
on its neighbours.
-/

namespace QueryTutor.Text

/-- No partner of a letter of the first run lies on the second. -/
def CaseRun.misses (r q : CaseRun) : Bool :=
  r.image + (r.last - r.first) < q.first || q.last < r.image
    || (List.range ((r.last - r.first) / r.step + 1)).all fun k => !q.holds (r.image + k * r.step)

lemma misses_lowerRuns : ∀ r ∈ lowerRuns, ∀ q ∈ lowerRuns, r.misses q = true := by
  have hall : (lowerRuns.all fun r => lowerRuns.all r.misses) = true := by decide +kernel
  exact fun r hr q hq => List.all_eq_true.1 (List.all_eq_true.1 hall r hr) q hq

/-- The partners of a run that misses another one lie on none of its letters. -/
lemma CaseRun.misses_spec {r q : CaseRun} (h : r.misses q = true) {n : Nat}
    (hn : r.holds n = true) : q.holds (r.map n) = false := by
  simp only [CaseRun.misses, Bool.or_eq_true, decide_eq_true_eq, List.all_eq_true, List.mem_range,
    Bool.not_eq_true'] at h
  simp only [CaseRun.holds, Bool.and_eq_true, decide_eq_true_eq, beq_iff_eq] at hn
  obtain ⟨⟨hfirst, hlast⟩, hstep⟩ := hn
  have out : r.map n < q.first ∨ q.last < r.map n → q.holds (r.map n) = false := by
    intro h
    rw [CaseRun.holds, Bool.and_eq_false_iff, Bool.and_eq_false_iff, decide_eq_false_iff_not,
      decide_eq_false_iff_not]
    omega
  rw [CaseRun.map] at out ⊢
  obtain (hlt | hlt) | hall := h
  · exact out (.inl (by omega))
  · exact out (.inr (by omega))
  · have hdiv : (n - r.first) / r.step * r.step = n - r.first :=
      Nat.div_mul_cancel (Nat.dvd_of_mod_eq_zero hstep)
    have hk : (n - r.first) / r.step < (r.last - r.first) / r.step + 1 :=
      Nat.lt_succ_of_le (Nat.div_le_div_right (by omega))
    have := hall _ hk
    rwa [hdiv] at this

/-- A character that is its own small letter, whatever its neighbours. -/
structure IsSmall (c : Char) : Prop where
  lowerChar : lowerChar c = c
  ne_dotted : c ≠ '\u0130'
  ne_sigma : c ≠ '\u03a3'

/-- Characters of ASCII that are no capitals are small. -/
lemma isSmall_of_ascii {c : Char} (hc : c.toNat < 128) (h : c.toLower = c) : IsSmall c where
  lowerChar := by rw [Text.lowerChar, if_pos hc, h]
  ne_dotted := by
    rintro rfl
    exact absurd hc (by decide)
  ne_sigma := by
    rintro rfl
    exact absurd hc (by decide)

/-- Outside ASCII, characters on no run of capitals are small. -/
lemma isSmall_of_not_holds {c : Char} (hc : 128 ≤ c.toNat)
    (h : ∀ q ∈ lowerRuns, q.holds c.toNat = false) : IsSmall c where
  lowerChar := by
    have hnone : lowerRuns.find? (·.holds c.toNat) = none :=
      List.find?_eq_none.2 fun q hq => by rw [h q hq]; exact Bool.false_ne_true
    rw [Text.lowerChar, if_neg (Nat.not_lt.2 hc), mapRuns?, hnone]
    rfl
  ne_dotted := by
    rintro rfl
    have : ¬ ∀ q ∈ lowerRuns, q.holds 0x130 = false := by decide
    exact this h
  ne_sigma := by
    rintro rfl
    have : ¬ ∀ q ∈ lowerRuns, q.holds 0x3a3 = false := by decide
    exact this h

lemma toLower_of_le {c : Char} (h : 97 ≤ c.toNat) : c.toLower = c := by
  obtain hc | hc := Nat.lt_or_ge c.toNat 128
  · have hall : ∀ n < 128, 97 ≤ (Char.ofNat n).toNat → (Char.ofNat n).toLower = Char.ofNat n := by
      decide
    have := hall c.toNat hc
    rw [Char.ofNat_toNat] at this
    exact this h
  · exact toLower_eq_self hc

/-- The small letter of a character is small. -/
lemma isSmall_lowerChar (c : Char) : IsSmall (lowerChar c) := by
  unfold lowerChar
  split_ifs with hc
  · exact isSmall_of_ascii (hasSmall hc).ascii (hasSmall hc).self
  · have hc := Nat.le_of_not_lt hc
    cases hm : mapRuns? lowerRuns c.toNat with
    | none =>
      refine isSmall_of_not_holds hc fun q hq => ?_
      have hnone := List.find?_eq_none.1 (Option.map_eq_none_iff.1 hm) q hq
      simpa using hnone
    | some n =>
      obtain ⟨r, hr, rfl⟩ := Option.map_eq_some_iff.1 hm
      have hmem := List.mem_of_find?_eq_some hr
      have hholds : r.holds c.toNat = true := by simpa using List.find?_some hr
      have hfree : ∀ q ∈ lowerRuns, q.holds (r.map c.toNat) = false :=
        fun q hq => CaseRun.misses_spec (misses_lowerRuns r hmem q hq) hholds
      have hlow : ∀ q ∈ lowerRuns, 97 ≤ q.image := by decide +kernel
      have hge : 97 ≤ r.map c.toNat := Nat.le_trans (hlow r hmem) (Nat.le_add_right _ _)
      dsimp only
      obtain heq | hzero := toNat_ofNat_or (r.map c.toNat)
      · obtain hlt | hle := Nat.lt_or_ge (r.map c.toNat) 128
        · exact isSmall_of_ascii (by rwa [heq]) (toLower_of_le (by rwa [heq]))
        · exact isSmall_of_not_holds (by rwa [heq]) (by rwa [heq])
      · -- a number that is no code point stands for the character of code 0
        have h0 : Char.ofNat (r.map c.toNat) = Char.ofNat 0 := by
          rw [← Char.ofNat_toNat (Char.ofNat (r.map c.toNat)), hzero]
        rw [h0]
        exact isSmall_of_ascii (by decide) (by decide)

lemma key_lowerChar (c : Char) : Fold.key (lowerChar c) = Fold.key c := by
  rw [Fold.key, Fold.key, (isSmall_lowerChar c).lowerChar]

lemma isBlank_lowerChar (c : Char) : isBlank (lowerChar c) = isBlank c := by
  rw [Bool.eq_iff_iff]
  exact ⟨fun h => isBlank_of_lowerChar h rfl, fun h => by rwa [(letterless h).lowerChar]⟩

lemma isSmall_of_mem_lowerAfter {before t : List Char} {c : Char} (h : c ∈ lowerAfter before t) :
    IsSmall c := by
  induction t generalizing before with
  | nil => cases h
  | cons d t ih =>
    rw [lowerAfter] at h
    split_ifs at h
    · obtain rfl | h := List.mem_cons.1 h
      · exact isSmall_of_ascii (by decide) (by decide)
      · obtain rfl | h := List.mem_cons.1 h
        · exact isSmall_of_not_holds (by decide) (by decide +kernel)
        · exact ih h
    · obtain rfl | h := List.mem_cons.1 h
      · exact isSmall_of_not_holds (by decide) (by decide +kernel)
      · exact ih h
    · obtain rfl | h := List.mem_cons.1 h
      · exact isSmall_of_not_holds (by decide) (by decide +kernel)
      · exact ih h
    · obtain rfl | h := List.mem_cons.1 h
      · exact isSmall_lowerChar d
      · exact ih h

/-- All characters of a text in small letters are small. -/
lemma isSmall_of_mem_lower {t : List Char} {c : Char} (h : c ∈ lower t) : IsSmall c :=
  isSmall_of_mem_lowerAfter h

lemma lowerAfter_of_isSmall {before t : List Char} (h : ∀ c ∈ t, IsSmall c) :
    lowerAfter before t = t := by
  induction t generalizing before with
  | nil => rfl
  | cons c t ih =>
    obtain ⟨hc, ht⟩ := List.forall_mem_cons.1 h
    rw [lowerAfter, if_neg hc.ne_dotted, if_neg hc.ne_sigma, hc.lowerChar, ih ht]

/-- A text of small characters stays as it is. -/
lemma lower_of_isSmall {t : List Char} (h : ∀ c ∈ t, IsSmall c) : lower t = t :=
  lowerAfter_of_isSmall h

lemma isSmall_of_isBlank {c : Char} (h : isBlank c = true) : IsSmall c where
  lowerChar := (letterless h).lowerChar
  ne_dotted := by
    rintro rfl
    exact absurd h (by decide)
  ne_sigma := by
    rintro rfl
    exact absurd h (by decide)

end QueryTutor.Text
