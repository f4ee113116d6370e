import QueryTutor.Proofs.Double.Value

/-!
# Mantissas

Shifting and rounding the mantissa of an exact result gives the nearest double.
-/

namespace QueryTutor.Double
open Float.Model Float.Model.UnpackedFloat

/-- What a mantissa and its two residual bits tell of an exact number. -/
def Represents : ExtendedMantissa → ℚ → Prop
  | ⟨m, false, false⟩, x => x = m
  | ⟨m, false, true⟩, x => (m : ℚ) < x ∧ x < m + 1 / 2
  | ⟨m, true, false⟩, x => x = m + 1 / 2
  | ⟨m, true, true⟩, x => (m : ℚ) + 1 / 2 < x ∧ x < m + 1

lemma Represents.floor {em : ExtendedMantissa} {x : ℚ} (h : Represents em x) :
    ⌊x⌋ = em.mantissa := by
  obtain ⟨m, r, s⟩ := em
  rw [Int.floor_eq_iff]
  push_cast
  cases r <;> cases s <;> simp only [Represents] at h <;> constructor <;> linarith

lemma Represents.roundedMantissa {em : ExtendedMantissa} {x : ℚ} (h : Represents em x) :
    (em.roundedMantissa : ℤ) = roundEven x := by
  have hf := h.floor
  have hq : (⌊x⌋ : ℚ) = em.mantissa := by rw [hf]; simp
  obtain ⟨m, r, s⟩ := em
  cases r <;> cases s <;> simp only [Represents] at h hq hf
  · rw [roundEven_of_lt (by linarith), hf]
    rfl
  · rw [roundEven_of_lt (by linarith), hf]
    rfl
  · rw [roundEven_of_eq (by linarith), hf]
    rfl
  · rw [roundEven_of_gt (by linarith), hf]
    rfl

/-- A shift by one place halves the number. -/
lemma Represents.shiftRightOne {em : ExtendedMantissa} {x : ℚ} (h : Represents em x) :
    Represents em.shiftRightOne (x / 2) := by
  obtain ⟨m, r, s⟩ := em
  obtain ⟨n, rfl | rfl⟩ := m.even_or_odd'
  · have hm : 2 * n / 2 = n := by omega
    cases r <;> cases s <;>
      simp only [Represents, ExtendedMantissa.shiftRightOne, hm, Nat.mul_mod_right,
        bne_self_eq_false, Bool.or_false, Bool.or_true] at h ⊢ <;> push_cast at h ⊢ <;>
      first | linarith | constructor <;> linarith
  · have hm : (2 * n + 1) / 2 = n := by omega
    have hodd : ((2 * n + 1) % 2 != 0) = true := by
      rw [Nat.mul_add_mod]
      rfl
    cases r <;> cases s <;>
      simp only [Represents, ExtendedMantissa.shiftRightOne, hm, hodd, Bool.or_false,
        Bool.or_true] at h ⊢ <;> push_cast at h ⊢ <;>
      first | linarith | constructor <;> linarith

/-- A shift divides the number by a power of two. -/
lemma Represents.shiftRight {em : ExtendedMantissa} {x : ℚ} (h : Represents em x) (n : ℕ) :
    Represents (em >>> n) (x / 2 ^ n) := by
  change Represents (n.repeat ExtendedMantissa.shiftRightOne em) _
  induction n with
  | zero => simpa [Nat.repeat] using h
  | succ n ih =>
    have step := ih.shiftRightOne
    rwa [div_div, ← pow_succ] at step

/-- Packing a rounded mantissa gives a number that is infinite if it is too large. -/
lemma pack_finite {s : Sign} {m : ℕ} {e : ℤ} (h : 0 < m) (lt : m < 2 ^ 53) (le : -1074 ≤ e)
    (full : 2 ^ 52 ≤ m ∨ e = -1074) :
    UnpackedFloat.unpack .binary64 (UnpackedFloat.pack .binary64 (.finite s m e h)) ≠ .notANumber ∧
      unpackedValue
          (UnpackedFloat.unpack .binary64 (UnpackedFloat.pack .binary64 (.finite s m e h)))
        = signValue s * min overflow (m * 2 ^ e) := by
  obtain hle | hgt := le_or_gt e 971
  · have fits : Fits m e := ⟨lt, le, hle, full⟩
    rw [unpack_pack (u := .finite s m e h) fits, unpackedValue_finite,
      min_eq_right fits.lt_overflow.le]
    simp
  · have hinf : UnpackedFloat.pack .binary64 (.finite s m e h) = packedInfinity .binary64 s := by
      rw [UnpackedFloat.pack]
      apply if_pos
      change 2 ^ 11 ≤ (e + (1023 : ℕ) + (52 : ℕ)).toNat + 1
      omega
    have hunp : UnpackedFloat.unpack .binary64 (packedInfinity .binary64 s) = .infinity s := by
      cases s <;> rfl
    have hm : (2 : ℚ) ^ (52 : ℤ) ≤ m := by exact_mod_cast full.resolve_right (by omega)
    have hover : overflow ≤ m * 2 ^ e := by
      rw [overflow]
      calc (2 : ℚ) ^ (1024 : ℤ) ≤ 2 ^ (52 + e) := zpow_le_zpow_right₀ (by norm_num) (by omega)
        _ = 2 ^ (52 : ℤ) * 2 ^ e := zpow_add₀ (by norm_num) _ _
        _ ≤ m * 2 ^ e := by gcongr
    rw [hinf, hunp, unpackedValue_infinity, min_eq_left hover]
    simp

/-- A mantissa that has no more than its places is not shifted. -/
lemma shiftToTargetExponent_of_lt {m : ℕ} {e : ℤ} (h : m < 2 ^ 53) (le : -1074 ≤ e) :
    shiftToTargetExponent .binary64 m e .exact = (⟨m, false, false⟩, e) := by
  have hlog : m.log2 ≤ 52 := by
    obtain rfl | hm := eq_or_ne m 0
    · decide
    · exact Nat.lt_succ_iff.1 ((Nat.log2_lt hm).2 h)
  have hamount : (Format.binary64.targetExponent (totalExponent m e) - e).toNat = 0 := by
    change (max (m.log2 + 1 + e - (53 : ℕ)) (-1074) - e).toNat = 0
    omega
  simp only [shiftToTargetExponent, shiftToExponent, hamount, Nat.cast_zero, add_zero]
  rfl

/-- A mantissa that has grown by a place is shifted back by it. -/
lemma shiftToTargetExponent_pow {e : ℤ} (le : -1074 ≤ e) :
    shiftToTargetExponent .binary64 (2 ^ 53) e .exact = (⟨2 ^ 52, false, false⟩, e + 1) := by
  have hamount : (Format.binary64.targetExponent (totalExponent (2 ^ 53) e) - e).toNat = 1 := by
    change (max (((2 ^ 53 : ℕ).log2 : ℤ) + 1 + e - (53 : ℕ)) (-1074) - e).toNat = 1
    rw [Nat.log2_two_pow]
    omega
  simp only [shiftToTargetExponent, shiftToExponent, hamount, Nat.cast_one]
  rfl

/-- The exponent that an exact result is shifted to is that of its last place. -/
lemma shifted_exponent {m : ℕ} {e : ℤ} {x : ℚ} (hx : 0 < x) (hm : ⌊x⌋ = m)
    (fine : 2 ^ 52 ≤ m ∨ e ≤ -1074) :
    e + (Format.binary64.targetExponent (totalExponent m e) - e).toNat = lastPlace (x * 2 ^ e) := by
  have hpos : 0 < x * 2 ^ e := by positivity
  change e + (max (m.log2 + 1 + e - (53 : ℕ)) (-1074) - e).toNat = _
  rw [lastPlace, abs_of_pos hpos]
  have hfloor := Int.floor_eq_iff.1 hm
  push_cast at hfloor
  -- A mantissa that is zero has no first place, so the smallest exponent has to decide.
  obtain rfl | hm0 := eq_or_ne m 0
  · have hlt : x * 2 ^ e < 2 ^ e := by
      have : x < 1 := by simpa using hfloor.2
      have hp : (0 : ℚ) < 2 ^ e := by positivity
      nlinarith
    have hlog : Int.log 2 (x * 2 ^ e) < e :=
      (Int.lt_zpow_iff_log_lt (b := 2) (by norm_num) hpos).1 (by exact_mod_cast hlt)
    have he : e ≤ -1074 := fine.resolve_left (by norm_num)
    simp only [Nat.log2_zero, Nat.cast_zero]
    omega
  · have hlo : (2 : ℚ) ^ (m.log2 : ℤ) ≤ x := by
      refine le_trans ?_ hfloor.1
      exact_mod_cast Nat.log2_self_le hm0
    have hhi : x < (2 : ℚ) ^ (m.log2 + 1 : ℤ) := by
      refine lt_of_lt_of_le hfloor.2 ?_
      exact_mod_cast (Nat.lt_log2_self : m < 2 ^ (m.log2 + 1))
    have h1 : m.log2 + e ≤ Int.log 2 (x * 2 ^ e) := by
      apply (Int.zpow_le_iff_le_log (b := 2) (by norm_num) hpos).1
      rw [Nat.cast_ofNat, zpow_add₀ (by norm_num)]
      gcongr
    have h2 : Int.log 2 (x * 2 ^ e) < m.log2 + 1 + e := by
      apply (Int.lt_zpow_iff_log_lt (b := 2) (by norm_num) hpos).1
      rw [Nat.cast_ofNat, zpow_add₀ (by norm_num)]
      gcongr
    have hfull : 2 ^ 52 ≤ m → 52 ≤ m.log2 := fun h => (Nat.le_log2 hm0).2 h
    omega

end QueryTutor.Double
