import QueryTutor.Proofs.Double.Operation

/-!
# Arithmetic of doubles

Sums, differences, products and quotients of finite doubles are the exact results, rounded; and how
doubles and whole numbers are turned into each other.
-/

namespace QueryTutor.Double
open Float.Model Float.Model.UnpackedFloat

/-- The double is the number nearest to `q`. -/
structure Rounds (x : Float) (q : ℚ) : Prop where
  isNumber : IsNumber x
  value_eq : value x = rounded q

lemma Packs.rounds {u : UnpackedFloat} {q : ℚ} (h : Packs u q) :
    Rounds (.ofModel (.pack u)) q :=
  ⟨h.1, h.2⟩

lemma Rounds.isFinite {x : Float} {q : ℚ} (h : Rounds x q) (hlt : |rounded q| < overflow) :
    IsFinite x :=
  h.isNumber.isFinite (by rwa [h.value_eq])

/-- A number in the range of doubles is not rounded. -/
lemma Fits.rounded_eq {m : ℕ} {e : ℤ} (h : Fits m e) : rounded (m * 2 ^ e) = m * 2 ^ e := by
  have hpos := overflow_pos
  have h0 : (0 : ℚ) ≤ m * 2 ^ e := by positivity
  rw [rounded, nearest_eq_self h.mantissa_lt h.le_exponent, min_eq_right h.lt_overflow.le,
    max_eq_right (by linarith)]

/-- Values of bounded doubles are not rounded. -/
lemma Bounded.rounded_eq {u : UnpackedFloat} (b : Bounded u) (c : Canonical u) :
    rounded (unpackedValue u) = unpackedValue u := by
  obtain ⟨s, rfl⟩ | ⟨s, m, e, h, rfl⟩ := b
  · exact rounded_zero
  · rw [unpackedValue_finite]
    cases s
    · rw [signValue_negative, neg_one_mul, rounded_neg, Fits.rounded_eq c]
    · rw [signValue_positive, one_mul, Fits.rounded_eq c]

lemma IsFinite.rounded_eq {x : Float} (h : IsFinite x) : rounded (value x) = value x :=
  Bounded.rounded_eq h (canonical x)

/-- A bounded double packs its own value. -/
lemma Bounded.packs {u : UnpackedFloat} (b : Bounded u) (c : Canonical u) :
    Packs u (unpackedValue u) := by
  rw [Packs, unpack_pack c, b.rounded_eq c]
  refine ⟨?_, rfl⟩
  rintro rfl
  obtain ⟨s, h⟩ | ⟨s, m, e, hm, h⟩ := b <;> cases h

lemma packs_ite_zero (b : Bool) (s : Sign) :
    Packs (if b then .zero s else .zero .positive) 0 := by
  cases b <;> exact packs_zero _

lemma cast_apply (s : Sign) (n : ℕ) : ((s.apply n : ℤ) : ℚ) = signValue s * n := by
  cases s <;> simp [Sign.apply]

/-- The sum of bounded doubles is rounded. -/
lemma packs_add {u v : UnpackedFloat} (cu : Canonical u) (cv : Canonical v) (bu : Bounded u)
    (bv : Bounded v) :
    Packs (UnpackedFloat.add .binary64 u v) (unpackedValue u + unpackedValue v) := by
  obtain ⟨s, rfl⟩ | ⟨s, m, e, hm, rfl⟩ := bu <;> obtain ⟨t, rfl⟩ | ⟨t, n, f, hn, rfl⟩ := bv
  · rw [unpackedValue_zero, unpackedValue_zero, add_zero]
    exact packs_ite_zero (s == t) s
  · simpa [UnpackedFloat.add] using Bounded.packs (.inr ⟨t, n, f, hn, rfl⟩) cv
  · simpa [UnpackedFloat.add] using Bounded.packs (.inr ⟨s, m, e, hm, rfl⟩) cu
  · have h := packs_normalize (s.apply (decreaseExponent m e (min e f)).1
      + t.apply (decreaseExponent n f (min e f)).1) (min e f) .positive
    rwa [Int.cast_add, cast_apply, cast_apply, add_mul, mul_assoc, mul_assoc,
      decreaseExponent_of_le (min_le_left _ _), decreaseExponent_of_le (min_le_right _ _)] at h

lemma packs_sub {u v : UnpackedFloat} (cu : Canonical u) (cv : Canonical v) (bu : Bounded u)
    (bv : Bounded v) :
    Packs (UnpackedFloat.sub .binary64 u v) (unpackedValue u - unpackedValue v) := by
  obtain ⟨s, rfl⟩ | ⟨s, m, e, hm, rfl⟩ := bu <;> obtain ⟨t, rfl⟩ | ⟨t, n, f, hn, rfl⟩ := bv
  · rw [unpackedValue_zero, unpackedValue_zero, sub_zero]
    exact packs_ite_zero (s == -t) s
  · simpa [UnpackedFloat.sub] using Bounded.packs (u := .finite (-t) n f hn)
      (.inr ⟨-t, n, f, hn, rfl⟩) cv
  · simpa [UnpackedFloat.sub] using Bounded.packs (.inr ⟨s, m, e, hm, rfl⟩) cu
  · have h := packs_normalize (s.apply (decreaseExponent m e (min e f)).1
      - t.apply (decreaseExponent n f (min e f)).1) (min e f) .positive
    rwa [Int.cast_sub, cast_apply, cast_apply, sub_mul, mul_assoc, mul_assoc,
      decreaseExponent_of_le (min_le_left _ _), decreaseExponent_of_le (min_le_right _ _)] at h

lemma signValue_mul (s t : Sign) : signValue (s * t) = signValue s * signValue t := by
  cases s <;> cases t <;> simp only [signValue_negative, signValue_positive] <;> norm_num <;> rfl

lemma signValue_div (s t : Sign) : signValue (s / t) = signValue s / signValue t := by
  cases s <;> cases t <;> simp only [signValue_negative, signValue_positive] <;> norm_num <;> rfl

/-- The product of two mantissas has enough places. -/
lemma Fits.mul_fine {m n : ℕ} {e f : ℤ} (hm : Fits m e) (hn : Fits n f) (m0 : 0 < m)
    (n0 : 0 < n) : 2 ^ 52 ≤ m * n ∨ e + f ≤ -1074 := by
  obtain h | h := hm.full_or_smallest
  · exact .inl (h.trans (Nat.le_mul_of_pos_right m n0))
  obtain h' | h' := hn.full_or_smallest
  · exact .inl (h'.trans (Nat.le_mul_of_pos_left n m0))
  · exact .inr (by omega)

lemma packs_mul {u v : UnpackedFloat} (cu : Canonical u) (cv : Canonical v) (bu : Bounded u)
    (bv : Bounded v) :
    Packs (UnpackedFloat.mul .binary64 u v) (unpackedValue u * unpackedValue v) := by
  obtain ⟨s, rfl⟩ | ⟨s, m, e, hm, rfl⟩ := bu <;> obtain ⟨t, rfl⟩ | ⟨t, n, f, hn, rfl⟩ := bv
  · simpa [UnpackedFloat.mul] using packs_zero (s * t)
  · simpa [UnpackedFloat.mul] using packs_zero (s * t)
  · simpa [UnpackedFloat.mul] using packs_zero (s * t)
  · have h := packs_roundWithAccuracy (s * t) (m := m * n) (e := e + f) (by positivity)
      (represents_exact _) (Fits.mul_fine cu cv hm hn)
    have heq : signValue (s * t) * (((m * n : ℕ) : ℚ) * 2 ^ (e + f))
        = unpackedValue (.finite s m e hm) * unpackedValue (.finite t n f hn) := by
      rw [signValue_mul, zpow_add₀ (by norm_num)]
      push_cast
      simp only [unpackedValue_finite]
      ring
    rwa [heq] at h

/-- A quotient with a remainder represents the exact quotient. -/
lemma represents_div (m : ℕ) {n : ℕ} (hn : 0 < n) :
    Represents (.ofMantissaAndAccuracy (m / n) (accuracyOfFraction (m % n) n)) (m / n : ℚ) := by
  have hn' : (0 : ℚ) < n := by exact_mod_cast hn
  have hdiv : (m : ℚ) / n = (m / n : ℕ) + (m % n : ℕ) / n := by
    field_simp
    exact_mod_cast (Nat.div_add_mod m n).symm
  have hlt : ((m % n : ℕ) : ℚ) / n < 1 := by
    rw [div_lt_one hn']
    exact_mod_cast Nat.mod_lt m hn
  rw [hdiv, accuracyOfFraction]
  split_ifs with h0
  · rw [h0]
    simp [ExtendedMantissa.ofMantissaAndAccuracy, Represents]
  · have hpos : (0 : ℚ) < (m % n : ℕ) / n :=
      div_pos (by exact_mod_cast Nat.pos_of_ne_zero h0) hn'
    -- The remainder is told apart by where its double stands to the divisor.
    obtain h | h | h := lt_trichotomy (2 * (m % n)) n
    · have hq : ((m % n : ℕ) : ℚ) / n < 1 / 2 := by
        rw [div_lt_div_iff₀ hn' (by norm_num)]
        exact_mod_cast (by omega : m % n * 2 < 1 * n)
      rw [compare_lt_iff_lt.2 h]
      exact ⟨by linarith, by linarith⟩
    · have hq : ((m % n : ℕ) : ℚ) / n = 1 / 2 := by
        rw [div_eq_div_iff hn'.ne' (by norm_num)]
        exact_mod_cast (by omega : m % n * 2 = 1 * n)
      rw [compare_eq_iff_eq.2 h, hq]
      rfl
    · have hq : 1 / 2 < ((m % n : ℕ) : ℚ) / n := by
        rw [div_lt_div_iff₀ (by norm_num) hn']
        exact_mod_cast (by omega : 1 * n < m % n * 2)
      rw [compare_gt_iff_gt.2 h]
      exact ⟨by linarith, by linarith⟩

/-- A quotient has enough places, or is small enough. -/
lemma div_fine {m n : ℕ} (e f : ℤ) (hm : 0 < m) (hn : 0 < n) :
    2 ^ 52 ≤ (divCore .binary64 m e n f).1 ∨ (divCore .binary64 m e n f).2.1 ≤ -1074 := by
  change 2 ^ 52 ≤ m <<< (e - f - min (e - f) (max ((m.log2 + 1 + e) - (n.log2 + 1 + f) - (53 : ℕ))
    (-1074))).toNat / n ∨ min (e - f) (max ((m.log2 + 1 + e) - (n.log2 + 1 + f) - (53 : ℕ))
    (-1074)) ≤ -1074
  generalize ht :
    min (e - f) (max (((m.log2 : ℤ) + 1 + e) - (n.log2 + 1 + f) - (53 : ℕ)) (-1074)) = t
  by_cases hlow : t ≤ -1074
  · exact .inr hlow
  · left
    rw [Nat.le_div_iff_mul_le hn, Nat.shiftLeft_eq]
    calc 2 ^ 52 * n ≤ 2 ^ 52 * 2 ^ (n.log2 + 1) := Nat.mul_le_mul_left _ Nat.lt_log2_self.le
      _ = 2 ^ (52 + (n.log2 + 1)) := (pow_add _ _ _).symm
      _ ≤ 2 ^ (m.log2 + (e - f - t).toNat) := Nat.pow_le_pow_right (by norm_num) (by omega)
      _ = 2 ^ m.log2 * 2 ^ (e - f - t).toNat := pow_add _ _ _
      _ ≤ m * 2 ^ (e - f - t).toNat := Nat.mul_le_mul_right _ (Nat.log2_self_le hm.ne')

lemma packs_div {u v : UnpackedFloat} (bu : Bounded u) (bv : Bounded v)
    (hv : unpackedValue v ≠ 0) :
    Packs (UnpackedFloat.div .binary64 u v) (unpackedValue u / unpackedValue v) := by
  obtain ⟨t, rfl⟩ | ⟨t, n, f, hn, rfl⟩ := bv
  · exact absurd rfl hv
  obtain ⟨s, rfl⟩ | ⟨s, m, e, hm, rfl⟩ := bu
  · simpa [UnpackedFloat.div] using packs_zero (s / t)
  · generalize hd : divCore .binary64 m e n f = d
    obtain ⟨q, p, a⟩ := d
    have fine := div_fine e f hm hn
    simp only [hd] at fine
    simp only [divCore, Prod.mk.injEq] at hd
    obtain ⟨rfl, hp, rfl⟩ := hd
    generalize hk : (e - f - min (e - f) (Format.binary64.targetExponent
      (totalExponent m e - totalExponent n f))).toNat = k at *
    have hmk : 0 < m <<< k := by
      rw [Nat.shiftLeft_eq]
      positivity
    have hn' : (0 : ℚ) < n := by exact_mod_cast hn
    have h := packs_roundWithAccuracy (s / t) (e := p)
      (div_pos (by exact_mod_cast hmk) hn') (represents_div (m <<< k) hn) fine
    have heq : signValue (s / t) * (((m <<< k : ℕ) : ℚ) / n * 2 ^ p)
        = unpackedValue (.finite s m e hm) / unpackedValue (.finite t n f hn) := by
      have hpk : p + k = e - f := by omega
      have hzpow : (2 : ℚ) ^ p * 2 ^ k = 2 ^ e / 2 ^ f := by
        rw [← zpow_natCast, ← zpow_add₀ (by norm_num), hpk, zpow_sub₀ (by norm_num)]
      rw [signValue_div, Nat.shiftLeft_eq]
      push_cast
      simp only [unpackedValue_finite]
      calc signValue s / signValue t * ((m : ℚ) * 2 ^ k / n * 2 ^ p)
          = signValue s / signValue t * (m / n * (2 ^ p * 2 ^ k)) := by ring
        _ = signValue s / signValue t * (m / n * (2 ^ e / 2 ^ f)) := by rw [hzpow]
        _ = signValue s * (m * 2 ^ e) / (signValue t * (n * 2 ^ f)) := by
          simp only [div_eq_mul_inv, mul_inv]
          ring
    rw [heq] at h
    simp only [UnpackedFloat.div, divCore]
    rw [hk, hp]
    exact h

/-- The sum of finite doubles is the exact one, rounded. -/
lemma rounds_add {x y : Float} (hx : IsFinite x) (hy : IsFinite y) :
    Rounds (x + y) (value x + value y) :=
  (packs_add (canonical x) (canonical y) hx hy).rounds

lemma rounds_sub {x y : Float} (hx : IsFinite x) (hy : IsFinite y) :
    Rounds (x - y) (value x - value y) :=
  (packs_sub (canonical x) (canonical y) hx hy).rounds

lemma rounds_mul {x y : Float} (hx : IsFinite x) (hy : IsFinite y) :
    Rounds (x * y) (value x * value y) :=
  (packs_mul (canonical x) (canonical y) hx hy).rounds

lemma rounds_div {x y : Float} (hx : IsFinite x) (hy : IsFinite y) (h0 : value y ≠ 0) :
    Rounds (x / y) (value x / value y) :=
  (packs_div hx hy h0).rounds

end QueryTutor.Double
