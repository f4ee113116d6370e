import QueryTutor.Proofs.Double.Whole

/-!
# Monotone arithmetic of doubles

Sums grow with their parts, and differences shrink with what is taken away, infinities included.
-/

namespace QueryTutor.Double
open Float.Model Float.Model.UnpackedFloat

lemma neg_overflow_le (x : Float) : -overflow ≤ value x := by
  by_cases h : IsNumber x
  · obtain b | ⟨s, hs⟩ := bounded_or_infinite h
    · exact (abs_lt.1 (Bounded.abs_lt b (canonical x))).1.le
    · have := overflow_pos
      rw [value, hs]
      cases s <;> simp only [unpackedValue_infinity, signValue_negative, signValue_positive] <;>
        linarith
  · rw [value, not_not.1 h]
    exact neg_nonpos.2 overflow_pos.le

/-- A number that is not above all doubles is finite or negative infinity. -/
lemma IsNumber.finite_or_bottom {x : Float} (h : IsNumber x) (hlt : value x < overflow) :
    IsFinite x ∨ x.toModel.unpack = .infinity .negative := by
  obtain b | ⟨s, hs⟩ := bounded_or_infinite h
  · exact .inl b
  · cases s
    · exact .inr hs
    · rw [value, hs, unpackedValue_infinity, signValue_positive, one_mul] at hlt
      exact absurd hlt (lt_irrefl _)

lemma IsNumber.finite_or_top {x : Float} (h : IsNumber x) (h0 : 0 ≤ value x) :
    IsFinite x ∨ x.toModel.unpack = .infinity .positive := by
  obtain b | ⟨s, hs⟩ := bounded_or_infinite h
  · exact .inl b
  · cases s
    · rw [value, hs, unpackedValue_infinity, signValue_negative] at h0
      linarith [overflow_pos]
    · exact .inr hs

lemma bottom_of_unpack {u : UnpackedFloat} (h : u = .infinity .negative) :
    IsNumber (.ofModel (.pack u)) ∧ value (.ofModel (.pack u)) = -overflow := by
  subst h
  refine ⟨nofun, ?_⟩
  rw [← neg_one_mul]
  rfl

/-- Taking something away leaves negative infinity, if that is where it starts or if it is infinite,
and otherwise the exact difference, rounded. -/
lemma sub_cases {x d : Float} (hx : IsNumber x) (hlt : value x < overflow) (hd : IsNumber d)
    (h0 : 0 ≤ value d) :
    (IsNumber (x - d) ∧ value (x - d) = -overflow) ∨
      (IsFinite x ∧ IsFinite d ∧ Rounds (x - d) (value x - value d)) := by
  obtain fx | hbot := hx.finite_or_bottom hlt
  · obtain fd | htop := hd.finite_or_top h0
    · exact .inr ⟨fx, fd, rounds_sub fx fd⟩
    · left
      apply bottom_of_unpack
      rw [htop]
      obtain ⟨s, hs⟩ | ⟨s, m, e, hm, hs⟩ := fx <;> rw [hs] <;> rfl
  · left
    apply bottom_of_unpack
    obtain ⟨s, hs⟩ | ⟨s, m, e, hm, hs⟩ | htop := or_assoc.1 (hd.finite_or_top h0)
    · rw [hbot, hs]
      rfl
    · rw [hbot, hs]
      rfl
    · rw [hbot, htop]
      rfl

/-- A number is not below its rounded difference with a number that is not negative. -/
lemma sub_le_self {x d : Float} (hx : IsNumber x) (hlt : value x < overflow) (hd : IsNumber d)
    (h0 : 0 ≤ value d) : IsNumber (x - d) ∧ value (x - d) ≤ value x := by
  obtain ⟨hn, hv⟩ | ⟨fx, fd, hr⟩ := sub_cases hx hlt hd h0
  · exact ⟨hn, hv ▸ neg_overflow_le x⟩
  · refine ⟨hr.isNumber, ?_⟩
    calc value (x - d) = rounded (value x - value d) := hr.value_eq
      _ ≤ rounded (value x) := rounded_mono (by linarith)
      _ = value x := fx.rounded_eq

/-- A difference shrinks when less remains to take more from. -/
lemma sub_le_sub {x y c d : Float} (hx : IsNumber x) (hy : IsNumber y) (hxy : value x ≤ value y)
    (hlt : value y < overflow) (hc : IsNumber c) (hd : IsNumber d) (h0 : 0 ≤ value d)
    (hdc : value d ≤ value c) : value (x - c) ≤ value (y - d) := by
  obtain ⟨-, hv⟩ | ⟨fx, fc, hr⟩ := sub_cases hx (hxy.trans_lt hlt) hc (h0.trans hdc)
  · exact hv ▸ neg_overflow_le _
  · have hfd : value d < overflow := hdc.trans_lt (abs_lt.1 fc.abs_lt).2
    have hfy : -overflow < value y := (abs_lt.1 fx.abs_lt).1.trans_le hxy
    have hneg : -overflow < value d := by linarith [overflow_pos]
    have hr' := rounds_sub (hy.isFinite (abs_lt.2 ⟨hfy, hlt⟩)) (hd.isFinite (abs_lt.2 ⟨hneg, hfd⟩))
    rw [hr.value_eq, hr'.value_eq]
    exact rounded_mono (by linarith)

lemma value_ofNat_mono {m n : ℕ} (h : m ≤ n) : value (Float.ofNat m) ≤ value (Float.ofNat n) := by
  rw [(rounds_ofNat m).value_eq, (rounds_ofNat n).value_eq]
  exact rounded_mono (by exact_mod_cast h)

lemma value_ofNat_nonneg (n : ℕ) : 0 ≤ value (Float.ofNat n) := by
  have h := value_ofNat_mono (Nat.zero_le n)
  rwa [value_ofNat (by norm_num), Nat.cast_zero] at h

end QueryTutor.Double
