import QueryTutor.Proofs.Text.Small

/-!
# Small letters of words

The small letter of a character that words are made of is one itself.  The tables of letters and of
case runs are compared range by range.
-/

namespace QueryTutor.Text

/-! ## Ranges -/

namespace RangeSet

variable {s : RangeSet} {first last n : Nat}

/-- The set holds all code points from the one to the other, in one of its ranges. -/
def covers (first last : Nat) : RangeSet → Bool
  | [] => false
  | (lo, hi) :: rest =>
    bif last.ble hi then lo.ble first else hi.blt first && covers first last rest

/-- The set holds no code point from the one to the other, and none of its ranges lies between. -/
def spares (first last : Nat) : RangeSet → Bool
  | [] => true
  | (lo, hi) :: rest =>
    bif last.ble hi then last.blt lo else hi.blt first && spares first last rest

lemma containsCode_of_covers (h : s.covers first last = true) (hfirst : first ≤ n)
    (hlast : n ≤ last) : s.containsCode n = true := by
  induction s with
  | nil => cases h
  | cons r s ih =>
    obtain ⟨lo, hi⟩ := r
    rw [covers] at h
    rw [containsCode]
    cases hle : last.ble hi with
    | true =>
      rw [hle, cond_true, Nat.ble_eq] at h
      rw [if_pos (Nat.le_trans hlast (Nat.le_of_ble_eq_true hle)), decide_eq_true_eq]
      exact Nat.le_trans h hfirst
    | false =>
      rw [hle, cond_false, Bool.and_eq_true, Nat.blt_eq] at h
      rw [if_neg (by omega)]
      exact ih h.2

lemma containsCode_of_spares (h : s.spares first last = true) (hfirst : first ≤ n)
    (hlast : n ≤ last) : s.containsCode n = false := by
  induction s with
  | nil => rfl
  | cons r s ih =>
    obtain ⟨lo, hi⟩ := r
    rw [spares] at h
    rw [containsCode]
    cases hle : last.ble hi with
    | true =>
      rw [hle, cond_true, Nat.blt_eq] at h
      rw [if_pos (Nat.le_trans hlast (Nat.le_of_ble_eq_true hle)), decide_eq_false_iff_not]
      omega
    | false =>
      rw [hle, cond_false, Bool.and_eq_true, Nat.blt_eq] at h
      rw [if_neg (by omega)]
      exact ih h.2

end RangeSet

/-! ## Runs of capitals -/

/-- The last partner of the run. -/
def CaseRun.lastImage (r : CaseRun) : Nat :=
  r.image + (r.last - r.first)

/-- The partners of the run are code points that words are made of, or else its own letters are not
such. -/
def CaseRun.keepsWords (r : CaseRun) : Bool :=
  (r.lastImage.blt 0xd800 || (Nat.blt 0xdfff r.image && r.lastImage.blt 0x110000))
    && (letters.covers r.image r.lastImage || numbers.covers r.image r.lastImage
      || (letters.spares r.first r.last && numbers.spares r.first r.last))

lemma keepsWords_lowerRuns : ∀ r ∈ lowerRuns, r.keepsWords = true := by
  have hall : lowerRuns.all CaseRun.keepsWords = true := by decide +kernel
  exact fun r hr => List.all_eq_true.1 hall r hr

/-- Letters and numbers make words, in ASCII too. -/
lemma isWord_of_isLetter_or {c : Char} (h : isLetter c = true ∨ isNumber c = true) :
    isWord c = true := by
  obtain hc | hc := Nat.lt_or_ge c.toNat 128
  · exact forall_ascii (P := fun c => isLetter c = true ∨ isNumber c = true → isWord c = true)
      (by decide) hc h
  · rw [isWord, if_neg (Nat.not_lt.2 hc), Bool.or_eq_true]
    exact h

/-- On a run that keeps words, the partner of a character of words is one. -/
lemma CaseRun.isWord_map {r : CaseRun} (hr : r.keepsWords = true) {c : Char}
    (hfirst : r.first ≤ c.toNat) (hlast : c.toNat ≤ r.last)
    (h : isLetter c = true ∨ isNumber c = true) : isWord (Char.ofNat (r.map c.toNat)) = true := by
  rw [keepsWords, Bool.and_eq_true, Bool.or_eq_true, Bool.or_eq_true, Bool.or_eq_true,
    Bool.and_eq_true, Bool.and_eq_true, Nat.blt_eq, Nat.blt_eq, Nat.blt_eq] at hr
  obtain ⟨hvalid, hwords⟩ := hr
  have hge : r.image ≤ r.map c.toNat := Nat.le_add_right _ _
  have hle : r.map c.toNat ≤ r.lastImage := by
    rw [CaseRun.map, lastImage]
    omega
  have hcode : (Char.ofNat (r.map c.toNat)).toNat = r.map c.toNat := by
    have hchar : (r.map c.toNat).isValidChar := by
      rw [Nat.isValidChar]
      omega
    rw [Char.ofNat, dif_pos hchar]
    rfl
  obtain (hletters | hnumbers) | ⟨hletters, hnumbers⟩ := hwords
  · refine isWord_of_isLetter_or (.inl ?_)
    rw [isLetter, RangeSet.contains, hcode]
    exact RangeSet.containsCode_of_covers hletters hge hle
  · refine isWord_of_isLetter_or (.inr ?_)
    rw [isNumber, RangeSet.contains, hcode]
    exact RangeSet.containsCode_of_covers hnumbers hge hle
  · rw [isLetter, isNumber, RangeSet.contains, RangeSet.contains,
      RangeSet.containsCode_of_spares hletters hfirst hlast,
      RangeSet.containsCode_of_spares hnumbers hfirst hlast] at h
    exact absurd h (by decide)

/-- The small letter of a character of words is one. -/
lemma isWord_lowerChar {c : Char} (h : isWord c = true) : isWord (lowerChar c) = true := by
  obtain hc | hc := Nat.lt_or_ge c.toNat 128
  · rw [lowerChar, if_pos hc, (hasSmall hc).isWord]
    exact h
  · rw [isWord, if_neg (Nat.not_lt.2 hc), Bool.or_eq_true] at h
    rw [lowerChar, if_neg (Nat.not_lt.2 hc)]
    cases hm : mapRuns? lowerRuns c.toNat with
    | none => exact isWord_of_isLetter_or h
    | some n =>
      obtain ⟨r, hr, rfl⟩ := Option.map_eq_some_iff.1 hm
      have hholds := List.find?_some hr
      rw [CaseRun.holds, Bool.and_eq_true, Bool.and_eq_true, decide_eq_true_eq,
        decide_eq_true_eq] at hholds
      have hkeeps := keepsWords_lowerRuns r (List.mem_of_find?_eq_some hr)
      exact CaseRun.isWord_map hkeeps hholds.1.1 hholds.1.2 h

/-! ## Letters that count as small ones -/

/-- A run that leads into ASCII has one letter only. -/
lemma single_of_image_lt : ∀ r ∈ lowerRuns, r.image < 128 →
    r.first = r.last ∧ isWord (Char.ofNat r.first) = true := by
  have hall : (lowerRuns.all fun r => (128).ble r.image
      || (r.first == r.last && isWord (Char.ofNat r.first))) = true := by decide +kernel
  intro r hr himage
  have hr := List.all_eq_true.1 hall r hr
  rw [Bool.or_eq_true, Nat.ble_eq, Bool.and_eq_true, beq_iff_eq] at hr
  exact hr.resolve_left (by omega)

/-- What counts as a small letter of ASCII, such as the long s, is a character of words. -/
lemma isWord_of_isLower_key {c : Char} (h : (Fold.key c).isLower = true) : isWord c = true := by
  obtain hc | hc := Nat.lt_or_ge c.toNat 128
  · exact forall_ascii (P := fun c => (Fold.key c).isLower = true → isWord c = true)
      (by decide) hc h
  · have hnonzero : ∀ {d : Char}, d.isLower = true → d.toNat ≠ 0 := by
      rintro d hd hzero
      rw [← Char.ofNat_toNat d, hzero] at hd
      cases hd
    rw [Fold.key] at h
    split_ifs at h with hlow
    · -- a capital whose small letter is in ASCII
      rw [lowerChar, if_neg (Nat.not_lt.2 hc)] at h hlow
      cases hm : mapRuns? lowerRuns c.toNat with
      | none =>
        rw [hm] at hlow
        exact absurd hlow (Nat.not_lt.2 hc)
      | some n =>
        rw [hm] at h hlow
        obtain ⟨r, hr, rfl⟩ := Option.map_eq_some_iff.1 hm
        have hholds := List.find?_some hr
        rw [CaseRun.holds, Bool.and_eq_true, Bool.and_eq_true, decide_eq_true_eq,
          decide_eq_true_eq] at hholds
        have hcode : (Char.ofNat (r.map c.toNat)).toNat = r.map c.toNat :=
          (toNat_ofNat_or _).resolve_right (hnonzero h)
        have himage : r.image < 128 := by
          rw [hcode, CaseRun.map] at hlow
          omega
        obtain ⟨hsingle, hword⟩ := single_of_image_lt r (List.mem_of_find?_eq_some hr) himage
        rwa [← Char.ofNat_toNat c, show c.toNat = r.first by omega]
    · -- a small letter that shares its capital with one in ASCII
      have hsiblings : ∀ p ∈ Fold.siblings, (Char.ofNat p.2).isLower = true →
          standsAlone (Char.ofNat p.1) = true ∧ isWord (Char.ofNat p.1) = true := by
        decide
      cases hs : Fold.siblings.lookup (lowerChar c).toNat with
      | none =>
        rw [hs] at h
        have hhigh : (lowerChar c).toNat ≤ 122 :=
          UInt32.le_iff_toNat_le.1 (of_decide_eq_true (Bool.and_eq_true_iff.1 h).2)
        omega
      | some n =>
        rw [hs] at h
        obtain ⟨l, r, hl, -⟩ := List.lookup_eq_some_iff.1 hs
        obtain ⟨halone, hword⟩ := hsiblings _ (hl ▸ List.mem_append_right _ List.mem_cons_self) h
        rw [Char.ofNat_toNat] at halone hword
        have hself := toLower_eq_of_lowerChar halone rfl
        rw [toLower_eq_self hc] at hself
        rwa [hself]

end QueryTutor.Text
