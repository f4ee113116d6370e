import QueryTutor.Proofs.Double.Arithmetic

/-!
# Doubles and whole numbers

How whole numbers become doubles, and which whole number lies below a double.
-/

namespace QueryTutor.Double
open Float.Model Float.Model.UnpackedFloat

lemma unpack_one :
    (Float.exactlyRepresentablePowersOfTen[0]).toModel.unpack
      = .finite .positive (2 ^ 52) (-52) (by norm_num) := by
  rfl

lemma rounds_toFloat (n : UInt64) : Rounds n.toFloat n.toNat := by
  have h := packs_normalize (n.toNat : ℤ) 0 .positive
  rw [zpow_zero, mul_one, Int.cast_natCast] at h
  exact h.rounds

lemma rounds_ofNat_of_lt {n : ℕ} (hn : n < 2 ^ 53) : Rounds (Float.ofNat n) n := by
  have hone : value (Float.exactlyRepresentablePowersOfTen[0]) = 1 := by
    rw [value, unpack_one, unpackedValue_finite, signValue_positive]
    norm_num
  have hfin : IsFinite (Float.exactlyRepresentablePowersOfTen[0]) :=
    .inr ⟨_, _, _, _, unpack_one⟩
  have hsize : n.toUInt64.toNat = n := UInt64.toNat_ofNat_of_lt' (by
    norm_num [UInt64.size] at hn ⊢
    omega)
  have hfloat := rounds_toFloat n.toUInt64
  rw [hsize] at hfloat
  have hlt := natCast_lt_overflow hn
  have h := rounds_mul (hfloat.isFinite (by rw [rounded_natCast hn]; simpa)) hfin
  rw [hfloat.value_eq, hone, mul_one, rounded_natCast hn] at h
  change Rounds (Float.ofScientific n false 0) n
  rw [Float.ofScientific, dif_pos ⟨hn, by norm_num⟩]
  exact h

lemma rounds_ofNat_of_ge {n : ℕ} (hn : 2 ^ 53 ≤ n) : Rounds (Float.ofNat n) n := by
  have h0 : n ≠ 0 := by omega
  have hfine : 2 ^ 52 ≤ n <<< 53 * 1 := by
    rw [Nat.shiftLeft_eq]
    omega
  have h := packs_roundWithAccuracy (.positive * .positive) (e := -53 + 0)
    (by exact_mod_cast (by omega : 0 < n <<< 53 * 1)) (represents_exact _) (.inl hfine)
  have heq : signValue (.positive * .positive) * (((n <<< 53 * 1 : ℕ) : ℚ) * 2 ^ (-53 + 0 : ℤ))
      = n := by
    rw [signValue_mul, Nat.shiftLeft_eq]
    push_cast
    norm_num
    ring
  rw [heq] at h
  have hsci : UnpackedFloat.ofScientific .binary64 n (Int.ofNat 0)
      = roundWithAccuracy .binary64 (.positive * .positive) (n <<< 53 * 1) (-53 + 0) .exact := by
    rw [UnpackedFloat.ofScientific, dif_neg h0, if_neg (by norm_num), if_neg (by simp),
      if_pos (by norm_num)]
    rfl
  rw [← hsci] at h
  change Rounds (Float.ofScientific n false 0) n
  rw [Float.ofScientific, dif_neg (by omega)]
  exact h.rounds

/-- A whole number becomes the nearest double. -/
lemma rounds_ofNat (n : ℕ) : Rounds (Float.ofNat n) n := by
  obtain h | h := lt_or_ge n (2 ^ 53)
  · exact rounds_ofNat_of_lt h
  · exact rounds_ofNat_of_ge h

lemma value_ofNat {n : ℕ} (h : n < 2 ^ 53) : value (Float.ofNat n) = n := by
  rw [(rounds_ofNat n).value_eq, rounded_natCast h]

lemma isFinite_ofNat {n : ℕ} (h : n < 2 ^ 53) : IsFinite (Float.ofNat n) := by
  have hlt := natCast_lt_overflow h
  exact (rounds_ofNat n).isFinite (by rw [rounded_natCast h]; simpa)

/-- Cutting a positive mantissa at its point gives the whole part of the number. -/
lemma roundToInt_eq (s : Sign) (m : ℕ) (e : ℤ) :
    roundToInt s m e = s.apply ⌊(m : ℚ) * 2 ^ e⌋ := by
  have hval := decreaseExponent_eq m e 0
  have hle : (decreaseExponent m e 0).2 ≤ 0 := by
    change e - ((e - 0).toNat : ℤ) ≤ 0
    omega
  simp only [roundToInt, shiftToExponent]
  generalize decreaseExponent m e 0 = d at hval hle ⊢
  obtain ⟨n, f⟩ := d
  dsimp only at hval hle ⊢
  have hfloor := ((represents_exact n).shiftRight (0 - f).toNat).floor
  have hq : (n : ℚ) / 2 ^ (0 - f).toNat = m * 2 ^ e := by
    rw [← hval, div_eq_mul_inv, ← zpow_natCast, ← zpow_neg]
    congr 2
    omega
  rw [← hq, hfloor]

/-- The whole number below a double that is not negative, up to the largest word. -/
lemma toNat_toUInt64 {x : Float} (h : IsNumber x) :
    x.toUInt64.toNat = min ⌊value x⌋₊ (2 ^ 64 - 1) := by
  have hclamp : ∀ n : ℕ, (UInt64.ofNatClamp n).toNat = min n (2 ^ 64 - 1) := by
    intro n
    unfold UInt64.ofNatClamp
    split_ifs with hn <;> simp only [UInt64.toNat_ofNatLT] <;> norm_num [UInt64.size] at hn ⊢ <;>
      omega
  have hx : x.toUInt64.toNat
      = min (x.toModel.unpack.toInt 0 (2 ^ 64 - 1)).toNat (2 ^ 64 - 1) := hclamp _
  rw [hx, value]
  have hbig : (2 ^ 64 : ℚ) ≤ overflow := by
    rw [overflow, ← zpow_natCast]
    exact zpow_le_zpow_right₀ (by norm_num) (by norm_num)
  obtain ⟨s, hs⟩ | ⟨s, m, e, hm, hs⟩ | ⟨s, hs⟩ := or_assoc.1 (bounded_or_infinite h)
  · simp [hs, UnpackedFloat.toInt]
  · rw [hs, unpackedValue_finite, UnpackedFloat.toInt, roundToInt_eq]
    have hpos : (0 : ℚ) ≤ m * 2 ^ e := by positivity
    cases s
    · have hneg : -((m : ℚ) * 2 ^ e) ≤ 0 := by linarith
      have hfl : 0 ≤ ⌊(m : ℚ) * 2 ^ e⌋ := Int.floor_nonneg.2 hpos
      simp only [signValue_negative, neg_one_mul, Nat.floor_of_nonpos hneg, Sign.apply]
      omega
    · rw [signValue_positive, one_mul]
      rfl
  · rw [hs, unpackedValue_infinity]
    cases s
    · have hneg : -overflow ≤ 0 := by linarith [overflow_pos]
      simp [UnpackedFloat.toInt, Nat.floor_of_nonpos hneg]
    · have hfl : 2 ^ 64 ≤ ⌊overflow⌋₊ := Nat.le_floor (by exact_mod_cast hbig)
      simp only [UnpackedFloat.toInt, signValue_positive, one_mul]
      omega

end QueryTutor.Double
