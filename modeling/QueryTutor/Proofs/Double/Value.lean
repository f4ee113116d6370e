import QueryTutor.Proofs.Double.Rounding

/-!
# Values of doubles

What a double stands for as a rational number.  An infinity counts as an overflow, so that the order
of doubles is the order of their values.
-/

namespace QueryTutor.Double
open Float.Model Float.Model.UnpackedFloat

/-- The factor that a sign stands for. -/
def signValue : Sign → ℚ
  | .negative => -1
  | .positive => 1

@[simp]
lemma signValue_negative : signValue .negative = -1 := rfl

@[simp]
lemma signValue_positive : signValue .positive = 1 := rfl

@[simp]
lemma signValue_neg (s : Sign) : signValue (-s) = -signValue s := by
  cases s
  · exact (neg_neg 1).symm
  · rfl

@[simp]
lemma abs_signValue (s : Sign) : |signValue s| = 1 := by
  cases s <;> simp

/-- The value of an unpacked double. -/
def unpackedValue : UnpackedFloat → ℚ
  | .notANumber => 0
  | .zero _ => 0
  | .infinity s => signValue s * overflow
  | .finite s m e _ => signValue s * (m * 2 ^ e)

@[simp]
lemma unpackedValue_zero (s : Sign) : unpackedValue (.zero s) = 0 := rfl

@[simp]
lemma unpackedValue_infinity (s : Sign) :
    unpackedValue (.infinity s) = signValue s * overflow := rfl

@[simp]
lemma unpackedValue_finite (s : Sign) (m : ℕ) (e : ℤ) (h : 0 < m) :
    unpackedValue (.finite s m e h) = signValue s * (m * 2 ^ e) := rfl

/-- A mantissa and an exponent as a double holds them: either the mantissa has all its places, or
the exponent is the smallest one. -/
structure Fits (m : ℕ) (e : ℤ) : Prop where
  mantissa_lt : m < 2 ^ 53
  le_exponent : -1074 ≤ e
  exponent_le : e ≤ 971
  full_or_smallest : 2 ^ 52 ≤ m ∨ e = -1074

/-- The unpacked doubles that packing does not change. -/
def Canonical : UnpackedFloat → Prop
  | .finite _ m e _ => Fits m e
  | _ => True

lemma unpackSign_packComponents {spec : Format} (s : Sign) (e : BitVec spec.exponentBits)
    (m : BitVec spec.mantissaBitsWithoutImplicit) :
    Sign.ofBitVec (unpackSign (packComponents spec s e m)) = s := by
  have h : unpackSign (packComponents spec s e m) = s.toBitVec := by
    ext i hi
    obtain rfl : i = 0 := by omega
    simp [unpackSign, packComponents, BitVec.getLsbD_append, BitVec.getElem_append]
  rw [h]
  cases s <;> rfl

lemma toNat_leadingOne (m : BitVec 52) : (1#1 ++ m).toNat = 2 ^ 52 + m.toNat := by
  rw [BitVec.toNat_append, ← Nat.shiftLeft_add_eq_or_of_lt m.isLt]
  simp [Nat.shiftLeft_eq]

/-- What is read from a packed double is canonical. -/
lemma canonical_unpack (b : BitVec Format.binary64.numBits) :
    Canonical (UnpackedFloat.unpack .binary64 b) := by
  have hm : (unpackMantissa b).toNat < 2 ^ 52 := (unpackMantissa b).isLt
  have he : (unpackExponent b).toNat < 2 ^ 11 := (unpackExponent b).isLt
  have hbias : ((Format.binary64.exponentBias : ℕ) : ℤ) = 1023 := rfl
  unfold UnpackedFloat.unpack
  simp only [hbias]
  split_ifs with h1 h2 h3 h4
  · trivial
  · trivial
  · trivial
  · have h0 : (unpackExponent b).toNat = 0 := by rw [h3]; rfl
    refine ⟨by omega, ?_, ?_, .inr ?_⟩ <;> rw [h0] <;> norm_num
  · have h0 : (unpackExponent b).toNat ≠ 0 := fun h => h3 (BitVec.eq_of_toNat_eq h)
    have h2047 : (unpackExponent b).toNat ≠ 2047 := fun h => h1 (BitVec.eq_of_toNat_eq h)
    have hm' := toNat_leadingOne (unpackMantissa b)
    refine ⟨by omega, ?_, ?_, .inl (by omega)⟩ <;> push_cast <;> omega

/-- Packing keeps a mantissa that has all its places. -/
lemma unpack_pack_full (s : Sign) {m : ℕ} {e : ℤ} (h : 0 < m) (fits : Fits m e)
    (full : 2 ^ 52 ≤ m) :
    UnpackedFloat.unpack .binary64 (UnpackedFloat.pack .binary64 (.finite s m e h))
      = .finite s m e h := by
  obtain ⟨hlt, hlo, hhi, _⟩ := fits
  have hlog : m.log2 = 52 := by
    rw [Nat.log2_eq_iff (by omega)]
    omega
  have hbias :
      (e + Format.binary64.exponentBias + Format.binary64.mantissaBitsWithoutImplicit).toNat
        = (e + 1075).toNat := by
    change (e + (1023 : ℕ) + (52 : ℕ)).toNat = (e + 1075).toNat
    omega
  have hexp : (BitVec.ofNat 11 (e + 1075).toNat).toNat = (e + 1075).toNat := by
    rw [BitVec.toNat_ofNat]
    omega
  -- The exponent field is neither that of infinities nor that of the smallest exponent.
  have h1 : BitVec.ofNat 11 (e + 1075).toNat ≠ -1#11 := by
    intro heq
    have := congrArg BitVec.toNat heq
    rw [hexp] at this
    change (e + 1075).toNat = 2047 at this
    omega
  have h0 : BitVec.ofNat 11 (e + 1075).toNat ≠ 0#11 := by
    intro heq
    have := congrArg BitVec.toNat heq
    rw [hexp] at this
    change (e + 1075).toNat = 0 at this
    omega
  have hmant : (1#1 ++ BitVec.ofNat 52 m).toNat = m := by
    rw [toNat_leadingOne, BitVec.toNat_ofNat]
    omega
  rw [UnpackedFloat.pack]
  simp only [hlog, hbias]
  rw [if_neg (by omega), if_pos (by rfl), UnpackedFloat.unpack]
  simp only [unpackMantissa_packComponents, unpackExponent_packComponents,
    unpackSign_packComponents, if_neg h1, if_neg h0, hexp, hmant]
  congr 1
  change ((e + 1075).toNat : ℤ) - ((1023 : ℕ) + (52 : ℕ)) = e
  omega

/-- Packing keeps a mantissa at the smallest exponent. -/
lemma unpack_pack_smallest (s : Sign) {m : ℕ} (h : 0 < m) (small : m < 2 ^ 52) :
    UnpackedFloat.unpack .binary64 (UnpackedFloat.pack .binary64 (.finite s m (-1074) h))
      = .finite s m (-1074) h := by
  have hlog : m.log2 + 1 ≠ Format.binary64.mantissaBits := by
    have := (Nat.log2_lt (by omega)).2 small
    change m.log2 + 1 ≠ 53
    omega
  have hmant : (BitVec.ofNat 52 m).toNat = m := by
    rw [BitVec.toNat_ofNat]
    omega
  have hne : BitVec.ofNat 52 m ≠ 0#52 := by
    intro heq
    have := congrArg BitVec.toNat heq
    rw [hmant] at this
    change m = 0 at this
    omega
  rw [UnpackedFloat.pack]
  simp only
  rw [if_neg (by decide), if_neg hlog, UnpackedFloat.unpack]
  simp only [unpackMantissa_packComponents, unpackExponent_packComponents,
    unpackSign_packComponents, hmant]
  rw [if_neg (by decide), if_pos trivial, dif_neg hne]
  congr 1

/-- Packing keeps what is canonical. -/
lemma unpack_pack {u : UnpackedFloat} (h : Canonical u) :
    UnpackedFloat.unpack .binary64 (UnpackedFloat.pack .binary64 u) = u := by
  cases u with
  | notANumber => rfl
  | infinity s => cases s <;> rfl
  | zero s => cases s <;> rfl
  | finite s m e hm =>
    by_cases full : 2 ^ 52 ≤ m
    · exact unpack_pack_full s hm h full
    · obtain rfl : e = -1074 := h.full_or_smallest.resolve_left full
      exact unpack_pack_smallest s hm (by omega)

lemma Fits.lt_overflow {m : ℕ} {e : ℤ} (h : Fits m e) : (m : ℚ) * 2 ^ e < overflow := by
  have hm : (m : ℚ) < 2 ^ (53 : ℤ) := by exact_mod_cast h.mantissa_lt
  rw [overflow]
  calc (m : ℚ) * 2 ^ e < 2 ^ (53 : ℤ) * 2 ^ e := by gcongr
    _ = 2 ^ (53 + e) := (zpow_add₀ (by norm_num) _ _).symm
    _ ≤ 2 ^ (1024 : ℤ) := zpow_le_zpow_right₀ (by norm_num) (by linarith [h.exponent_le])

/-- Of two doubles the one with the larger exponent is larger. -/
lemma Fits.lt_of_exponent_lt {m n : ℕ} {e f : ℤ} (h : Fits m e) (h' : Fits n f) (hlt : e < f) :
    (m : ℚ) * 2 ^ e < n * 2 ^ f := by
  have hm : (m : ℚ) < 2 ^ (53 : ℤ) := by exact_mod_cast h.mantissa_lt
  have hn : (2 : ℚ) ^ (52 : ℤ) ≤ n := by
    obtain full | smallest := h'.full_or_smallest
    · exact_mod_cast full
    · have := h.le_exponent
      omega
  calc (m : ℚ) * 2 ^ e < 2 ^ (53 : ℤ) * 2 ^ e := by gcongr
    _ = 2 ^ (53 + e) := (zpow_add₀ (by norm_num) _ _).symm
    _ ≤ 2 ^ (52 + f) := zpow_le_zpow_right₀ (by norm_num) (by omega)
    _ = 2 ^ (52 : ℤ) * 2 ^ f := zpow_add₀ (by norm_num) _ _
    _ ≤ n * 2 ^ f := by gcongr

/-- Exponents and then mantissas order doubles as their values do. -/
lemma Fits.compare_eq {m n : ℕ} {e f : ℤ} (h : Fits m e) (h' : Fits n f) :
    (compare e f).then (compare m n) = compare ((m : ℚ) * 2 ^ e) (n * 2 ^ f) := by
  obtain hlt | rfl | hgt := lt_trichotomy e f
  · rw [compare_lt_iff_lt.2 hlt, compare_lt_iff_lt.2 (h.lt_of_exponent_lt h' hlt)]
    rfl
  · have hpos : (0 : ℚ) < 2 ^ e := by positivity
    rw [compare_eq_iff_eq.2 rfl, Ordering.eq_then]
    obtain hmn | rfl | hmn := lt_trichotomy m n
    · rw [compare_lt_iff_lt.2 hmn, compare_lt_iff_lt.2 (by gcongr)]
    · rw [compare_eq_iff_eq.2 rfl, compare_eq_iff_eq.2 rfl]
    · rw [compare_gt_iff_gt.2 hmn, compare_gt_iff_gt.2 (by gcongr)]
  · rw [compare_gt_iff_gt.2 hgt, compare_gt_iff_gt.2 (h'.lt_of_exponent_lt h hgt)]
    rfl

lemma compare_neg_neg (x y : ℚ) : compare (-x) (-y) = (compare x y).swap := by
  obtain h | rfl | h := lt_trichotomy x y
  · rw [compare_lt_iff_lt.2 h, compare_gt_iff_gt.2 (neg_lt_neg h)]
    rfl
  · rw [compare_eq_iff_eq.2 rfl, compare_eq_iff_eq.2 rfl]
    rfl
  · rw [compare_gt_iff_gt.2 h, compare_lt_iff_lt.2 (neg_lt_neg h)]
    rfl

/-- The unpacked double is neither infinite nor no number at all. -/
def Bounded (u : UnpackedFloat) : Prop :=
  (∃ s, u = .zero s) ∨ ∃ s m e h, u = .finite s m e h

lemma Bounded.abs_lt {u : UnpackedFloat} (b : Bounded u) (c : Canonical u) :
    |unpackedValue u| < overflow := by
  obtain ⟨s, rfl⟩ | ⟨s, m, e, h, rfl⟩ := b
  · simpa using overflow_pos
  · have hpos : (0 : ℚ) ≤ m * 2 ^ e := by positivity
    rw [unpackedValue_finite, abs_mul, abs_signValue, one_mul, abs_of_nonneg hpos]
    exact c.lt_overflow

lemma bounded_or_infinite {u : UnpackedFloat} (h : u ≠ .notANumber) :
    Bounded u ∨ ∃ s, u = .infinity s := by
  cases u with
  | notANumber => exact absurd rfl h
  | infinity s => exact .inr ⟨s, rfl⟩
  | zero s => exact .inl (.inl ⟨s, rfl⟩)
  | finite s m e hm => exact .inl (.inr ⟨s, m, e, hm, rfl⟩)

/-- Bounded doubles are ordered as their values are. -/
lemma compare_of_bounded {u v : UnpackedFloat} (hu : Canonical u) (hv : Canonical v)
    (bu : Bounded u) (bv : Bounded v) :
    u.compare v = some (compare (unpackedValue u) (unpackedValue v)) := by
  have pos : ∀ {m : ℕ} {e : ℤ}, 0 < m → (0 : ℚ) < m * 2 ^ e := fun h => by positivity
  obtain ⟨s, rfl⟩ | ⟨s, m, e, hm, rfl⟩ := bu <;> obtain ⟨t, rfl⟩ | ⟨t, n, f, hn, rfl⟩ := bv
  · simp [UnpackedFloat.compare]
  · cases t
    · rw [compare_gt_iff_gt.2 (by simpa using pos hn)]
      rfl
    · rw [compare_lt_iff_lt.2 (by simpa using pos hn)]
      rfl
  · cases s
    · rw [compare_lt_iff_lt.2 (by simpa using pos hm)]
      rfl
    · rw [compare_gt_iff_gt.2 (by simpa using pos hm)]
      rfl
  · have hcmp := hu.compare_eq hv
    have hm' := pos (e := e) hm
    have hn' := pos (e := f) hn
    cases s <;> cases t <;> simp only [UnpackedFloat.compare, unpackedValue_finite,
      signValue_negative, signValue_positive, neg_one_mul, one_mul, Option.some.injEq]
    · rw [compare_neg_neg, hcmp]
    · rw [compare_lt_iff_lt.2 (by linarith)]
    · rw [compare_gt_iff_gt.2 (by linarith)]
    · exact hcmp

lemma compare_infinity {s : Sign} {v : UnpackedFloat} (hv : Canonical v) (bv : Bounded v) :
    UnpackedFloat.compare (.infinity s) v
      = some (compare (unpackedValue (.infinity s)) (unpackedValue v)) := by
  obtain ⟨lo, hi⟩ := abs_lt.1 (bv.abs_lt hv)
  cases s
  · rw [compare_lt_iff_lt.2 (by simpa using lo)]
    obtain ⟨t, rfl⟩ | ⟨t, n, f, hn, rfl⟩ := bv <;> rfl
  · rw [compare_gt_iff_gt.2 (by simpa using hi)]
    obtain ⟨t, rfl⟩ | ⟨t, n, f, hn, rfl⟩ := bv <;> rfl

lemma compare_infinity' {s : Sign} {u : UnpackedFloat} (hu : Canonical u) (bu : Bounded u) :
    UnpackedFloat.compare u (.infinity s)
      = some (compare (unpackedValue u) (unpackedValue (.infinity s))) := by
  obtain ⟨lo, hi⟩ := abs_lt.1 (bu.abs_lt hu)
  cases s
  · rw [compare_gt_iff_gt.2 (by simpa using lo)]
    obtain ⟨t, rfl⟩ | ⟨t, n, f, hn, rfl⟩ := bu
    · rfl
    · cases t <;> rfl
  · rw [compare_lt_iff_lt.2 (by simpa using hi)]
    obtain ⟨t, rfl⟩ | ⟨t, n, f, hn, rfl⟩ := bu
    · rfl
    · cases t <;> rfl

/-- Doubles are ordered as their values are. -/
lemma compare_eq {u v : UnpackedFloat} (hu : Canonical u) (hv : Canonical v)
    (nu : u ≠ .notANumber) (nv : v ≠ .notANumber) :
    u.compare v = some (compare (unpackedValue u) (unpackedValue v)) := by
  obtain bu | ⟨s, rfl⟩ := bounded_or_infinite nu <;>
    obtain bv | ⟨t, rfl⟩ := bounded_or_infinite nv
  · exact compare_of_bounded hu hv bu bv
  · exact compare_infinity' hu bu
  · exact compare_infinity hv bv
  -- Two infinities: only their signs count.
  · have := overflow_pos
    cases s <;> cases t <;> simp only [unpackedValue_infinity, signValue_negative,
      signValue_positive, neg_one_mul, one_mul]
    · rw [compare_eq_iff_eq.2 rfl]
      rfl
    · rw [compare_lt_iff_lt.2 (by linarith)]
      rfl
    · rw [compare_gt_iff_gt.2 (by linarith)]
      rfl
    · rw [compare_eq_iff_eq.2 rfl]
      rfl

/-- The value of a double. -/
def value (x : Float) : ℚ :=
  unpackedValue x.toModel.unpack

/-- The double is a number, be it infinite. -/
def IsNumber (x : Float) : Prop :=
  x.toModel.unpack ≠ .notANumber

/-- The double is a number and not infinite. -/
def IsFinite (x : Float) : Prop :=
  Bounded x.toModel.unpack

lemma canonical (x : Float) : Canonical x.toModel.unpack :=
  canonical_unpack _

lemma IsFinite.isNumber {x : Float} (h : IsFinite x) : IsNumber x := by
  obtain ⟨s, hs⟩ | ⟨s, m, e, hm, hs⟩ := h <;> simp [IsNumber, hs]

lemma IsFinite.abs_lt {x : Float} (h : IsFinite x) : |value x| < overflow :=
  Bounded.abs_lt h (canonical x)

/-- A number is finite if its value lies in the range of doubles. -/
lemma IsNumber.isFinite {x : Float} (h : IsNumber x) (hlt : |value x| < overflow) :
    IsFinite x := by
  obtain b | ⟨s, hs⟩ := bounded_or_infinite h
  · exact b
  · rw [value, hs, unpackedValue_infinity, abs_mul, abs_signValue, one_mul,
      abs_of_pos overflow_pos] at hlt
    exact absurd hlt (lt_irrefl _)

/-- One double lies below another one exactly if both are numbers in this order. -/
lemma lt_iff {x y : Float} : Float.lt x y ↔ IsNumber x ∧ IsNumber y ∧ value x < value y := by
  have hlt : Float.lt x y = (x.toModel.unpack.compare y.toModel.unpack == some .lt) :=
    Bool.eq_iff_iff.2 decide_eq_true_iff
  rw [hlt]
  by_cases nx : x.toModel.unpack = .notANumber
  · simp [nx, IsNumber, UnpackedFloat.compare]
  by_cases ny : y.toModel.unpack = .notANumber
  · cases hx : x.toModel.unpack <;> simp [ny, IsNumber, UnpackedFloat.compare]
  rw [compare_eq (canonical x) (canonical y) nx ny]
  simp [IsNumber, nx, ny, value, compare_lt_iff_lt]

lemma le_iff {x y : Float} : Float.le x y ↔ IsNumber x ∧ IsNumber y ∧ value x ≤ value y := by
  have hle : Float.le x y = (x.toModel.unpack.compare y.toModel.unpack).any (·.isLE) :=
    Bool.eq_iff_iff.2 decide_eq_true_iff
  rw [hle]
  by_cases nx : x.toModel.unpack = .notANumber
  · simp [nx, IsNumber, UnpackedFloat.compare]
  by_cases ny : y.toModel.unpack = .notANumber
  · cases hx : x.toModel.unpack <;> simp [ny, IsNumber, UnpackedFloat.compare]
  rw [compare_eq (canonical x) (canonical y) nx ny]
  simp [IsNumber, nx, ny, value, Std.LawfulBCmp.isLE_iff_le]

end QueryTutor.Double
