import Mathlib.Tactic.Common
import QueryTutor.Pattern.Mode

/-!
# Letter case

Letters of ASCII in either case count as the same wherever case is ignored, and white space shares
its letter with nothing else.
-/

namespace QueryTutor.Text

/-- The code points of white space. -/
def blankCodes : List Nat :=
  [9, 10, 11, 12, 13, 28, 29, 30, 31, 32, 0x85, 0xa0, 0x1680, 0x2000, 0x2001, 0x2002, 0x2003,
    0x2004, 0x2005, 0x2006, 0x2007, 0x2008, 0x2009, 0x200a, 0x2028, 0x2029, 0x202f, 0x205f, 0x3000]

lemma isBlank_iff (c : Char) : isBlank c = true ↔ c.toNat ∈ blankCodes := by
  simp only [isBlank, blankCodes, Bool.or_eq_true, Bool.and_eq_true, decide_eq_true_eq, beq_iff_eq,
    List.mem_cons, List.not_mem_nil, or_false]
  omega

/-- What holds of all characters with the code points of white space holds of all white space. -/
lemma forall_blank {P : Char → Prop} (h : ∀ n ∈ blankCodes, P (Char.ofNat n)) {c : Char}
    (hc : isBlank c = true) : P c := by
  have := h c.toNat ((isBlank_iff c).1 hc)
  rwa [Char.ofNat_toNat] at this

/-- What holds of the characters with the code points of ASCII holds of all of them. -/
lemma forall_ascii {P : Char → Prop} (h : ∀ n < 128, P (Char.ofNat n)) {c : Char}
    (hc : c.toNat < 128) : P c := by
  have := h c.toNat hc
  rwa [Char.ofNat_toNat] at this

/-- The character has a small letter in ASCII, which is its own small letter and in the same
classes. -/
@[mk_iff]
structure HasSmall (c : Char) : Prop where
  ascii : c.toLower.toNat < 128
  self : c.toLower.toLower = c.toLower
  isBlank : isBlank c.toLower = isBlank c
  isWord : isWord c.toLower = isWord c
  isDigit : isDigit c.toLower = isDigit c
  lowerChar : lowerChar c.toLower = lowerChar c

instance (c : Char) : Decidable (HasSmall c) :=
  decidable_of_iff' _ (hasSmall_iff c)

/-- Characters of ASCII have a small letter. -/
lemma hasSmall {c : Char} (hc : c.toNat < 128) : HasSmall c :=
  forall_ascii (by decide) hc

/-- Outside ASCII a character is taken as it is. -/
lemma toLower_eq_self {c : Char} (hc : 128 ≤ c.toNat) : c.toLower = c := by
  unfold Char.toLower
  rw [dif_neg]
  rintro ⟨-, hle⟩
  have : c.val.toNat ≤ 'Z'.val.toNat := UInt32.le_iff_toNat_le.1 hle
  have hz : 'Z'.val.toNat = 90 := rfl
  have hn : c.toNat = c.val.toNat := rfl
  omega

/-- Characters with the same small letter in ASCII are both of ASCII or equal. -/
lemma ascii_or_eq {c d : Char} (h : c.toLower = d.toLower) :
    (c.toNat < 128 ∧ d.toNat < 128) ∨ c = d := by
  obtain hc | hc := Nat.lt_or_ge c.toNat 128
  · obtain hd | hd := Nat.lt_or_ge d.toNat 128
    · exact .inl ⟨hc, hd⟩
    · have := (hasSmall hc).ascii
      rw [h, toLower_eq_self hd] at this
      omega
  · obtain hd | hd := Nat.lt_or_ge d.toNat 128
    · have := (hasSmall hd).ascii
      rw [← h, toLower_eq_self hc] at this
      omega
    · rw [toLower_eq_self hc, toLower_eq_self hd] at h
      exact .inr h

/-- What does not change with the small letters of ASCII is the same for characters that share
one. -/
lemma congr_of_toLower {α : Type} {f : Char → α}
    (hf : ∀ c : Char, c.toNat < 128 → f c.toLower = f c) {c d : Char} (h : c.toLower = d.toLower) : f c = f d := by
  obtain ⟨hc, hd⟩ | rfl := ascii_or_eq h
  · rw [← hf c hc, ← hf d hd, h]
  · rfl

lemma toLower_toLower (c : Char) : c.toLower.toLower = c.toLower := by
  obtain hc | hc := Nat.lt_or_ge c.toNat 128
  · exact (hasSmall hc).self
  · rw [toLower_eq_self hc, toLower_eq_self hc]

lemma isBlank_congr {c d : Char} (h : c.toLower = d.toLower) : isBlank c = isBlank d :=
  congr_of_toLower (fun _ hc => (hasSmall hc).isBlank) h

lemma isBlank_toLower (c : Char) : isBlank c.toLower = isBlank c :=
  isBlank_congr (toLower_toLower c)

lemma isWord_congr {c d : Char} (h : c.toLower = d.toLower) : isWord c = isWord d :=
  congr_of_toLower (fun _ hc => (hasSmall hc).isWord) h

lemma isDigit_congr {c d : Char} (h : c.toLower = d.toLower) : isDigit c = isDigit d :=
  congr_of_toLower (fun _ hc => (hasSmall hc).isDigit) h

lemma lowerChar_congr {c d : Char} (h : c.toLower = d.toLower) : lowerChar c = lowerChar d :=
  congr_of_toLower (fun _ hc => (hasSmall hc).lowerChar) h

lemma key_congr {c d : Char} (h : c.toLower = d.toLower) : Fold.key c = Fold.key d := by
  unfold Fold.key
  rw [lowerChar_congr h]

lemma variants_congr {c d : Char} (h : c.toLower = d.toLower) :
    Fold.variants c = Fold.variants d := by
  unfold Fold.variants
  rw [key_congr h]

/-- Two characters are the same letter if they have the same key. -/
lemma same_iff (c d : Char) : Fold.same c d = true ↔ Fold.key c = Fold.key d := by
  unfold Fold.same
  rw [Bool.or_eq_true, beq_iff_eq, beq_iff_eq]
  exact ⟨fun h => h.elim (congrArg _) id, .inr⟩

/-- Nothing is a capital of the character outside ASCII, nor a sibling of it. -/
def standsAlone (b : Char) : Bool :=
  b.toNat != 0
    && (lowerRuns.all fun r => b.toNat < r.image || r.image + (r.last - r.first) < b.toNat)
    && Fold.siblings.all (·.2 != b.toNat)

/-- The character is in no word, is its own letter, and stands alone. -/
@[mk_iff]
structure Letterless (c : Char) : Prop where
  isWord : isWord c = false
  isDigit : isDigit c = false
  lowerChar : lowerChar c = c
  key : Fold.key c = c
  variants : Fold.variants c = [c.toNat]
  standsAlone : standsAlone c = true

instance (c : Char) : Decidable (Letterless c) :=
  decidable_of_iff' _ (letterless_iff c)

/-- White space has no letters. -/
lemma letterless {c : Char} (hc : isBlank c = true) : Letterless c :=
  forall_blank (by decide +kernel) hc

/-- The code of a character that has been made from a code, unless there is none. -/
lemma toNat_ofNat_or (n : Nat) : (Char.ofNat n).toNat = n ∨ (Char.ofNat n).toNat = 0 := by
  by_cases h : n.isValidChar
  · rw [Char.ofNat, dif_pos h]
    exact .inl rfl
  · rw [Char.ofNat, dif_neg h]
    exact .inr rfl

/-- A character becomes one that stands alone by the small letters of ASCII only. -/
lemma toLower_eq_of_lowerChar {b c : Char} (hb : standsAlone b = true) (h : lowerChar c = b) :
    c.toLower = b := by
  simp only [standsAlone, Bool.and_eq_true, bne_iff_ne] at hb
  obtain ⟨⟨h0, hruns⟩, -⟩ := hb
  unfold lowerChar at h
  split_ifs at h with hc
  · exact h
  · rw [toLower_eq_self (Nat.le_of_not_lt hc)]
    cases hm : mapRuns? lowerRuns c.toNat with
    | none =>
      rw [hm] at h
      exact h
    | some n =>
      rw [hm] at h
      obtain ⟨r, hr, rfl⟩ := Option.map_eq_some_iff.1 hm
      have hmem := List.mem_of_find?_eq_some hr
      have hholds := List.find?_some hr
      simp only [CaseRun.holds, Bool.and_eq_true, decide_eq_true_eq] at hholds
      have hout := List.all_eq_true.1 hruns r hmem
      simp only [Bool.or_eq_true, decide_eq_true_eq] at hout
      -- the image of a run holds no character that stands alone
      have hn : (Char.ofNat (r.map c.toNat)).toNat = b.toNat := congrArg Char.toNat h
      obtain heq | heq := toNat_ofNat_or (r.map c.toNat)
      · rw [heq, CaseRun.map] at hn
        omega
      · omega

/-- The letters equal to one that stands alone are its capitals in ASCII. -/
lemma toLower_eq_of_key {b c : Char} (hb : standsAlone b = true) (h : Fold.key c = b) :
    c.toLower = b := by
  apply toLower_eq_of_lowerChar hb
  simp only [standsAlone, Bool.and_eq_true, bne_iff_ne] at hb
  obtain ⟨⟨h0, -⟩, hsib⟩ := hb
  unfold Fold.key at h
  dsimp only at h
  split_ifs at h with hlow
  · exact h
  · cases hs : Fold.siblings.lookup (lowerChar c).toNat with
    | none =>
      rw [hs] at h
      exact h
    | some n =>
      rw [hs] at h
      have hmem : ∃ x ∈ Fold.siblings, x.2 = n := by
        obtain ⟨l, r, hl, -⟩ := List.lookup_eq_some_iff.1 hs
        exact ⟨_, hl ▸ List.mem_append_right _ List.mem_cons_self, rfl⟩
      obtain ⟨x, hx, rfl⟩ := hmem
      have hne := List.all_eq_true.1 hsib x hx
      have hn : (Char.ofNat x.2).toNat = b.toNat := congrArg Char.toNat h
      obtain heq | heq := toNat_ofNat_or x.2
      · exact absurd (heq.symm.trans hn) (bne_iff_ne.1 hne)
      · omega

lemma isBlank_of_lowerChar {b c : Char} (hb : isBlank b = true) (h : lowerChar c = b) :
    isBlank c = true := by
  rw [← isBlank_toLower, toLower_eq_of_lowerChar (letterless hb).standsAlone h]
  exact hb

lemma isBlank_of_key {b c : Char} (hb : isBlank b = true) (h : Fold.key c = b) :
    isBlank c = true := by
  rw [← isBlank_toLower, toLower_eq_of_key (letterless hb).standsAlone h]
  exact hb

/-- No letter stands before `A` among the code points. -/
lemma le_of_mem_capitals {n m : Nat} (h : n ∈ Fold.capitals m) : 65 ≤ n := by
  have hruns : ∀ r ∈ lowerRuns, 65 ≤ r.first := by decide +kernel
  simp only [Fold.capitals, List.mem_append, List.mem_filterMap] at h
  obtain h | ⟨r, hr, h⟩ := h
  · split_ifs at h with hsmall
    · simp only [Bool.and_eq_true, decide_eq_true_eq] at hsmall
      obtain rfl := List.mem_singleton.1 h
      omega
    · cases h
  · simp only [CaseRun.preimage?] at h
    split_ifs at h
    obtain rfl := Option.some.inj h
    have := hruns r hr
    omega

/-- A character without letters that stands before them is a variant of itself only. -/
lemma mem_variants_iff {c d : Char} (hd : Letterless d) (hlt : d.toNat < 65) :
    d.toNat ∈ Fold.variants c ↔ c = d := by
  constructor
  · intro h
    have hsiblings : ∀ p ∈ Fold.siblings, 65 ≤ p.1 := by decide
    have hasciis : ∀ n < 128, (Char.ofNat n).toLower.toNat < 65 →
        (Char.ofNat n).toLower = Char.ofNat n := by decide +kernel
    simp only [Fold.variants, List.mem_flatMap, List.mem_cons, List.mem_map, List.mem_filter] at h
    obtain ⟨n, hn, rfl | hcapital⟩ := h
    · obtain hn | ⟨p, ⟨hp, -⟩, hn⟩ := hn
      · -- the character has the same key, so it differs by the small letters of ASCII at most
        have hkey : Fold.key c = d := Char.toNat_inj.1 hn.symm
        have hlower : c.toLower = d := toLower_eq_of_key hd.standsAlone hkey
        obtain hc | hc := Nat.lt_or_ge c.toNat 128
        · have := hasciis c.toNat hc
          rw [Char.ofNat_toNat, hlower] at this
          exact (this hlt).symm
        · exact (toLower_eq_self hc).symm.trans hlower
      · have := hsiblings p hp
        omega
    · have := le_of_mem_capitals hcapital
      omega
  · rintro rfl
    rw [hd.variants]
    exact List.mem_singleton_self _

end QueryTutor.Text
