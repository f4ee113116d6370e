import Mathlib.Data.List.Basic
import QueryTutor.Proofs.Text.Case
import QueryTutor.Text.Phrase

/-!
# Texts without capitals

A text with the small letters of ASCII in place of its capitals.  What takes texts apart without
regard to case takes apart the text without capitals in the same way.
-/

namespace QueryTutor.Text

/-- The text with small letters in place of the capitals of ASCII. -/
def uncap (t : List Char) : List Char :=
  t.map Char.toLower

/-- Two texts differ in the case of letters of ASCII at most. -/
def SameButCase (x y : List Char) : Prop :=
  uncap x = uncap y

instance (x y : List Char) : Decidable (SameButCase x y) :=
  inferInstanceAs (Decidable (uncap x = uncap y))

/-- The property does not tell a capital of ASCII from its small letter. -/
def Blind (p : Char → Bool) : Prop :=
  ∀ c, p c.toLower = p c

variable {p : Char → Bool}

@[simp]
lemma uncap_nil : uncap [] = [] := rfl

@[simp]
lemma uncap_cons (c : Char) (t : List Char) : uncap (c :: t) = c.toLower :: uncap t := rfl

@[simp]
lemma uncap_append (s t : List Char) : uncap (s ++ t) = uncap s ++ uncap t :=
  List.map_append

@[simp]
lemma length_uncap (t : List Char) : (uncap t).length = t.length :=
  List.length_map _

lemma reverse_uncap (t : List Char) : (uncap t).reverse = uncap t.reverse :=
  List.map_reverse.symm

lemma uncap_uncap (t : List Char) : uncap (uncap t) = uncap t := by
  rw [uncap, uncap, List.map_map]
  exact List.map_congr_left fun c _ => toLower_toLower c

/-! ## Characters -/

/-- A character that is no letter of ASCII comes of itself only. -/
lemma eq_of_toLower_eq {a c : Char} (ha : a.isAlpha = false) (h : c.toLower = a) : c = a := by
  subst h
  obtain hc | hc := Nat.lt_or_ge c.toNat 128
  · revert ha
    exact forall_ascii (P := fun c => c.toLower.isAlpha = false → c = c.toLower)
      (by decide +kernel) hc
  · exact (toLower_eq_self hc).symm

lemma toLower_of_not_isAlpha {a : Char} (ha : a.isAlpha = false) : a.toLower = a := by
  unfold Char.toLower
  rw [dif_neg]
  rintro ⟨hlow, hhigh⟩
  have hupper : a.isUpper = true := decide_eq_true ⟨hlow, hhigh⟩
  change (a.isUpper || a.isLower) = false at ha
  rw [hupper, Bool.true_or] at ha
  cases ha

/-- None of the characters is a letter of ASCII. -/
lemma not_isAlpha_of_all {t : List Char} (h : t.all (!·.isAlpha) = true) :
    ∀ a ∈ t, a.isAlpha = false := by
  simpa using h

lemma uncap_of_not_isAlpha {t : List Char} (h : ∀ a ∈ t, a.isAlpha = false) : uncap t = t := by
  rw [uncap, List.map_congr_left fun a ha => toLower_of_not_isAlpha (h a ha), List.map_id']

lemma eq_of_uncap_eq {a t : List Char} (ha : ∀ c ∈ a, c.isAlpha = false) (h : uncap t = a) :
    t = a := by
  induction t generalizing a with
  | nil => exact h
  | cons c t ih =>
    subst h
    obtain ⟨hc, ht⟩ := List.forall_mem_cons.1 ha
    exact congrArg₂ List.cons (eq_of_toLower_eq hc rfl) (ih ht rfl)

lemma toLower_eq_iff {a : Char} (ha : a.isAlpha = false) (c : Char) : c.toLower = a ↔ c = a := by
  constructor
  · exact eq_of_toLower_eq ha
  · rintro rfl
    exact toLower_of_not_isAlpha ha

lemma beq_toLower {a : Char} (ha : a.isAlpha = false) (c : Char) :
    (c.toLower == a) = (c == a) := by
  rw [Bool.eq_iff_iff, beq_iff_eq, beq_iff_eq]
  exact toLower_eq_iff ha c

/-- A character that is no letter is compared in the same way without capitals. -/
lemma toLower_beq_toLower {a : Char} (ha : a.isAlpha = false) (c : Char) :
    (a.toLower == c.toLower) = (a == c) := by
  rw [toLower_of_not_isAlpha ha, Bool.eq_iff_iff, beq_iff_eq, beq_iff_eq, eq_comm,
    toLower_eq_iff ha, eq_comm]

/-- What holds of the characters of ASCII in both cases is no matter of case. -/
lemma blind_of_ascii (h : ∀ n < 128, p (Char.ofNat n).toLower = p (Char.ofNat n)) : Blind p := by
  intro c
  obtain hc | hc := Nat.lt_or_ge c.toNat 128
  · exact forall_ascii (P := fun c => p c.toLower = p c) h hc
  · rw [toLower_eq_self hc]

lemma Blind.or {q : Char → Bool} (hp : Blind p) (hq : Blind q) : Blind fun c => p c || q c :=
  fun c => congrArg₂ _ (hp c) (hq c)

lemma Blind.and {q : Char → Bool} (hp : Blind p) (hq : Blind q) : Blind fun c => p c && q c :=
  fun c => congrArg₂ _ (hp c) (hq c)

lemma Blind.not (hp : Blind p) : Blind fun c => !p c :=
  fun c => congrArg _ (hp c)

/-- Being one of a few characters that are no letters of ASCII is no matter of case. -/
lemma blind_contains {as : List Char} (has : ∀ a ∈ as, a.isAlpha = false) : Blind as.contains := by
  intro c
  induction as with
  | nil => rfl
  | cons a as ih =>
    obtain ⟨ha, has⟩ := List.forall_mem_cons.1 has
    rw [List.contains_cons, List.contains_cons, ih has, beq_toLower ha]

lemma blind_isBlank : Blind isBlank :=
  isBlank_toLower

lemma blind_isWord : Blind isWord :=
  fun c => isWord_congr (toLower_toLower c)

lemma blind_isDigit : Blind isDigit :=
  fun c => isDigit_congr (toLower_toLower c)

lemma same_toLower (c d : Char) : Fold.same c d.toLower = Fold.same c d := by
  rw [Bool.eq_iff_iff, same_iff, same_iff, key_congr (toLower_toLower d)]

/-! ## Parts of texts -/

lemma takeWhile_uncap (hp : Blind p) (t : List Char) :
    (uncap t).takeWhile p = uncap (t.takeWhile p) := by
  rw [uncap, List.takeWhile_map, show p ∘ Char.toLower = p from funext hp, uncap]

lemma dropWhile_uncap (hp : Blind p) (t : List Char) :
    (uncap t).dropWhile p = uncap (t.dropWhile p) := by
  rw [uncap, List.dropWhile_map, show p ∘ Char.toLower = p from funext hp, uncap]

lemma take_uncap (n : Nat) (t : List Char) : (uncap t).take n = uncap (t.take n) :=
  List.map_take.symm

lemma drop_uncap (n : Nat) (t : List Char) : (uncap t).drop n = uncap (t.drop n) :=
  List.map_drop.symm

lemma head?_uncap_any (hp : Blind p) (t : List Char) : (uncap t).head?.any p = t.head?.any p := by
  cases t with
  | nil => rfl
  | cons c t => exact hp c

/-- A text without capitals that begins with a character that is no letter comes of one that does. -/
lemma exists_of_uncap_eq_cons {a : Char} (ha : a.isAlpha = false) {t s : List Char}
    (h : uncap t = a :: s) : ∃ u, t = a :: u ∧ uncap u = s := by
  obtain ⟨c, u, rfl, hc, hu⟩ := List.map_eq_cons_iff.1 h
  exact ⟨u, by rw [eq_of_toLower_eq ha hc], hu⟩

/-- Where two characters that are no letters do not follow each other, they do not without capitals. -/
lemma apart_uncap {a b : Char} (ha : a.isAlpha = false) (hb : b.isAlpha = false) {c : Char}
    {t : List Char} (h : ∀ s, c = a → t = b :: s → False) :
    ∀ s, c.toLower = a → uncap t = b :: s → False := by
  intro s hc ht
  obtain ⟨u, hu, -⟩ := exists_of_uncap_eq_cons hb ht
  exact h u (eq_of_toLower_eq ha hc) hu

/-- A text without capitals begins with none. -/
lemma uncap_ne_cons {a : Char} (ha : a.toLower ≠ a) (t s : List Char) : uncap t ≠ a :: s := by
  intro h
  obtain ⟨c, u, -, hc, -⟩ := List.map_eq_cons_iff.1 h
  exact ha (hc ▸ toLower_toLower c)

lemma head?_uncap_eq_some_iff {a : Char} (ha : a.isAlpha = false) (t : List Char) :
    (uncap t).head? = some a ↔ t.head? = some a := by
  cases t with
  | nil => exact Iff.rfl
  | cons c t =>
    rw [uncap_cons, List.head?_cons, List.head?_cons, Option.some_inj, Option.some_inj,
      toLower_eq_iff ha]

lemma startsWithWord_uncap (t : List Char) : startsWithWord (uncap t) = startsWithWord t := by
  cases t with
  | nil => rfl
  | cons c t => exact blind_isWord c

section Equality

variable {eq : Char → Char → Bool}

/-- The front of a text, cut off under an equality that does not regard case. -/
lemma stripFront?_uncap {front : List Char}
    (h : ∀ a ∈ front, ∀ c : Char, eq a.toLower c.toLower = eq a c) (t : List Char) :
    stripFront? eq (uncap front) (uncap t) = (stripFront? eq front t).map uncap := by
  induction front generalizing t with
  | nil => rfl
  | cons a front ih =>
    obtain ⟨ha, hfront⟩ := List.forall_mem_cons.1 h
    cases t with
    | nil => rfl
    | cons c t =>
      rw [uncap_cons, uncap_cons, stripFront?, stripFront?, ha c, ih hfront]
      split_ifs <;> rfl

lemma splitThrough?_uncap {stop : List Char}
    (h : ∀ a ∈ stop, ∀ c : Char, eq a.toLower c.toLower = eq a c) (t : List Char) :
    splitThrough? eq (uncap stop) (uncap t)
      = (splitThrough? eq stop t).map fun (head, rest) => (uncap head, uncap rest) := by
  induction t with
  | nil => rfl
  | cons c t ih =>
    rw [uncap_cons, splitThrough?, splitThrough?, ← uncap_cons, stripFront?_uncap h, ih]
    cases stripFront? eq stop (c :: t) with
    | some rest => simp only [Option.map_some, length_uncap, take_uncap]
    | none =>
      simp only [Option.map_none, Option.map_map]
      rfl

end Equality

lemma splitBy?_uncap (phrase t : List Char) :
    Phrase.splitBy? Fold.same phrase (uncap t)
      = (Phrase.splitBy? Fold.same phrase t).map fun (covered, rest) =>
          (uncap covered, uncap rest) := by
  induction phrase generalizing t with
  | nil => rfl
  | cons a phrase ih =>
    cases t with
    | nil => rfl
    | cons c t =>
      rw [uncap_cons, Phrase.splitBy?, Phrase.splitBy?, blind_isBlank c, same_toLower,
        dropWhile_uncap blind_isBlank, takeWhile_uncap blind_isBlank, ih, ih]
      split_ifs
      · simp only [Option.map_map, Function.comp_def, uncap_append, uncap_cons]
      · rfl
      · simp only [Option.map_map, Function.comp_def, uncap_cons]
      · rfl

end QueryTutor.Text
