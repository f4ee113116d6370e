import QueryTutor.Proofs.Double.Mantissa

/-!
# Operations on doubles

Every operation on finite doubles gives the double nearest to the exact result.
-/

namespace QueryTutor.Double
open Float.Model Float.Model.UnpackedFloat

/-- Packing the double gives the number nearest to `x`. -/
def Packs (u : UnpackedFloat) (x : ℚ) : Prop :=
  UnpackedFloat.unpack .binary64 (UnpackedFloat.pack .binary64 u) ≠ .notANumber ∧
    unpackedValue (UnpackedFloat.unpack .binary64 (UnpackedFloat.pack .binary64 u)) = rounded x

/-- Rounding keeps the sign of the exact result. -/
lemma rounded_signValue (s : Sign) {x : ℚ} (hx : 0 ≤ x) :
    rounded (signValue s * x) = signValue s * min overflow (nearest x) := by
  have hpos := overflow_pos
  have hn := nearest_nonneg hx
  have h : rounded x = min overflow (nearest x) := max_eq_right (by
    have := le_min hpos.le hn
    linarith)
  cases s
  · rw [signValue_negative, neg_one_mul, neg_one_mul, rounded_neg, h]
  · rw [signValue_positive, one_mul, one_mul, h]

lemma packs_zero (s : Sign) : Packs (.zero s) 0 := by
  have h : UnpackedFloat.unpack .binary64 (UnpackedFloat.pack .binary64 (.zero s)) = .zero s :=
    unpack_pack (u := .zero s) trivial
  rw [Packs, h, rounded_zero]
  exact ⟨nofun, rfl⟩

/-- An exact positive result that has enough places, or is small enough, is rounded to the nearest
double. -/
lemma packs_roundWithAccuracy (s : Sign) {m : ℕ} {e : ℤ} {a : Accuracy} {x : ℚ} (hx : 0 < x)
    (rep : Represents (.ofMantissaAndAccuracy m a) x) (fine : 2 ^ 52 ≤ m ∨ e ≤ -1074) :
    Packs (roundWithAccuracy .binary64 s m e a) (signValue s * (x * 2 ^ e)) := by
  have hpos : 0 < x * 2 ^ e := by positivity
  have hm : (ExtendedMantissa.ofMantissaAndAccuracy m a).mantissa = m := by
    cases a with
    | exact => rfl
    | inexact o => cases o <;> rfl
  have hplace := shifted_exponent hx (by rw [rep.floor, hm]) fine
  -- The first shift leaves the number in units of its last place.
  generalize hk : (Format.binary64.targetExponent (totalExponent m e) - e).toNat = k at hplace
  have hscaled : x / 2 ^ k = x * 2 ^ e / 2 ^ lastPlace (x * 2 ^ e) := by
    rw [← hplace, zpow_add₀ (by norm_num), zpow_natCast, ← div_div,
      mul_div_cancel_right₀ _ (by positivity)]
  have hr := (rep.shiftRight k).roundedMantissa
  rw [hscaled] at hr
  generalize hem : ExtendedMantissa.ofMantissaAndAccuracy m a >>> k = em at hr
  have hfirst : shiftToTargetExponent .binary64 m e a = (em, lastPlace (x * 2 ^ e)) := by
    simp only [shiftToTargetExponent, shiftToExponent, hk, hplace, hem]
  have hlo : -1074 ≤ lastPlace (x * 2 ^ e) := le_max_right _ _
  have hmax : em.roundedMantissa ≤ 2 ^ 53 := by
    have := roundEven_le_pow hpos
    omega
  have hfull : 2 ^ 52 ≤ em.roundedMantissa ∨ lastPlace (x * 2 ^ e) = -1074 := by
    obtain heq | hlt := hlo.eq_or_lt
    · exact .inr heq.symm
    · have := pow_le_roundEven hpos hlt
      exact .inl (by omega)
  have hnear : nearest (x * 2 ^ e) = em.roundedMantissa * 2 ^ lastPlace (x * 2 ^ e) := by
    rw [nearest, ← hr]
    rfl
  rw [roundWithAccuracy, hfirst]
  dsimp only
  rw [Packs, rounded_signValue s hpos.le, hnear]
  generalize em.roundedMantissa = r at *
  generalize lastPlace (x * 2 ^ e) = p at *
  obtain hlt | rfl := hmax.lt_or_eq
  · rw [shiftToTargetExponent_of_lt hlt hlo]
    dsimp only
    split_ifs with h0
    · subst h0
      have hz := packs_zero s
      rw [Packs, rounded_zero] at hz
      simpa [overflow_pos.le] using hz
    · exact pack_finite _ hlt hlo hfull
  -- Rounding up has made the mantissa one place longer.
  · rw [shiftToTargetExponent_pow hlo]
    have hcarry : ((2 ^ 53 : ℕ) : ℚ) * 2 ^ p = (2 ^ 52 : ℕ) * 2 ^ (p + 1) := by
      rw [zpow_add₀ (by norm_num)]
      push_cast
      ring
    rw [hcarry]
    exact pack_finite _ (by norm_num) (by omega) (.inl le_rfl)

lemma represents_exact (m : ℕ) : Represents (.ofMantissaAndAccuracy m .exact) m :=
  rfl

lemma decreaseExponent_eq (m : ℕ) (e t : ℤ) :
    ((decreaseExponent m e t).1 : ℚ) * 2 ^ (decreaseExponent m e t).2 = m * 2 ^ e := by
  change ((m <<< (e - t).toNat : ℕ) : ℚ) * 2 ^ (e - ((e - t).toNat : ℤ)) = m * 2 ^ e
  rw [Nat.shiftLeft_eq, zpow_sub₀ (by norm_num), zpow_natCast]
  push_cast
  field_simp

lemma decreaseExponent_of_le {m : ℕ} {e t : ℤ} (h : t ≤ e) :
    ((decreaseExponent m e t).1 : ℚ) * 2 ^ t = m * 2 ^ e := by
  rw [← decreaseExponent_eq m e t]
  change _ = _ * (2 : ℚ) ^ (e - ((e - t).toNat : ℤ))
  congr 2
  omega

/-- A positive number is rounded to the nearest double. -/
lemma packs_round (s : Sign) {m : ℕ} (e : ℤ) (hm : 0 < m) :
    Packs (UnpackedFloat.round .binary64 s m e) (signValue s * (m * 2 ^ e)) := by
  rw [← decreaseExponent_eq m e (Format.binary64.targetExponent (totalExponent m e))]
  apply packs_roundWithAccuracy
  · change (0 : ℚ) < ((m <<< _ : ℕ) : ℚ)
    rw [Nat.shiftLeft_eq]
    positivity
  · exact represents_exact _
  · change 2 ^ 52 ≤ m <<< (e - max (m.log2 + 1 + e - (53 : ℕ)) (-1074)).toNat ∨
      e - (e - max (m.log2 + 1 + e - (53 : ℕ)) (-1074)).toNat ≤ -1074
    by_cases hlow : e - (e - max (m.log2 + 1 + e - (53 : ℕ)) (-1074)).toNat ≤ -1074
    · exact .inr hlow
    · left
      rw [Nat.shiftLeft_eq]
      calc 2 ^ 52 ≤ 2 ^ (m.log2 + (e - max (m.log2 + 1 + e - (53 : ℕ)) (-1074)).toNat) :=
            Nat.pow_le_pow_right (by norm_num) (by omega)
        _ = 2 ^ m.log2 * 2 ^ (e - max (m.log2 + 1 + e - (53 : ℕ)) (-1074)).toNat := pow_add _ _ _
        _ ≤ m * 2 ^ (e - max (m.log2 + 1 + e - (53 : ℕ)) (-1074)).toNat :=
          Nat.mul_le_mul_right _ (Nat.log2_self_le hm.ne')

/-- A signed number is rounded to the nearest double. -/
lemma packs_normalize (m : ℤ) (e : ℤ) (s : Sign) :
    Packs (UnpackedFloat.normalize .binary64 m e s) (m * 2 ^ e) := by
  obtain hlt | rfl | hgt := lt_trichotomy m 0
  · rw [UnpackedFloat.normalize, compare_lt_iff_lt.2 hlt]
    have h := packs_round .negative (m := (-m).toNat) e (by omega)
    have hcast : (((-m).toNat : ℕ) : ℚ) = -m := by
      exact_mod_cast Int.toNat_of_nonneg (by omega : 0 ≤ -m)
    rwa [hcast, signValue_negative, neg_one_mul, neg_mul, neg_neg] at h
  · rw [UnpackedFloat.normalize, compare_eq_iff_eq.2 rfl]
    simpa using packs_zero s
  · rw [UnpackedFloat.normalize, compare_gt_iff_gt.2 hgt]
    have h := packs_round .positive (m := m.toNat) e (by omega)
    have hcast : ((m.toNat : ℕ) : ℚ) = m := by exact_mod_cast Int.toNat_of_nonneg hgt.le
    rwa [hcast, signValue_positive, one_mul] at h

end QueryTutor.Double
