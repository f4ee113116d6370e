import QueryTutor.Proofs.Text.Occurrence

/-!
# Other spacing

Texts that differ in white space only, none of which comes or goes between two words, have the same
phrases in them.
-/

namespace QueryTutor.Text

/-- The character is neither white space nor part of a word, nor the same as a small letter of ASCII
in other case. -/
def isSign (c : Char) : Bool :=
  !isBlank c && !isWord c && !(Fold.key c).isLower

lemma not_word_of_isSign {c : Char} (hc : isSign c = true) :
    isBlank c = false ∧ isWord c = false ∧ (Fold.key c).isLower = false := by
  simpa [isSign, and_assoc] using hc

/-- The texts differ in white space only.  There can be more or less of it, and between two words,
at least some in both texts. -/
inductive Respaced : List Char → List Char → Prop
  | ends {x y} :
    (∀ c ∈ x, isBlank c = true) →
    (∀ c ∈ y, isBlank c = true) →
    Respaced x y
  | char {c x y} :
    isBlank c = false →
    Respaced x y →
    Respaced (c :: x) (c :: y)
  | space {bs bs' x y} :
    bs ≠ [] → bs' ≠ [] →
    (∀ b ∈ bs, isBlank b = true) →
    (∀ b ∈ bs', isBlank b = true) →
    Respaced x y →
    Respaced (bs ++ x) (bs' ++ y)
  | sign {bs bs' c ds ds' x y} :
    (∀ b ∈ bs, isBlank b = true) →
    (∀ b ∈ bs', isBlank b = true) →
    isSign c = true →
    (∀ d ∈ ds, isBlank d = true) →
    (∀ d ∈ ds', isBlank d = true) →
    Respaced x y →
    Respaced (bs ++ c :: (ds ++ x)) (bs' ++ c :: (ds' ++ y))

namespace Respaced

variable {x y : List Char}

lemma symm (h : Respaced x y) : Respaced y x := by
  induction h with
  | ends hx hy => exact .ends hy hx
  | char hc _ ih => exact .char hc ih
  | space hne hne' hbs hbs' _ ih => exact .space hne' hne hbs' hbs ih
  | sign hbs hbs' hc hds hds' _ ih => exact .sign hbs' hbs hc hds' hds ih

/-- White space in front of both texts. -/
lemma append_left {bs : List Char} (hbs : ∀ b ∈ bs, isBlank b = true) (h : Respaced x y) :
    Respaced (bs ++ x) (bs ++ y) := by
  cases bs with
  | nil => exact h
  | cons b bs => exact .space (List.cons_ne_nil b bs) (List.cons_ne_nil b bs) hbs hbs h

/-- White space behind the text. -/
lemma append_right {s : List Char} (hs : ∀ b ∈ s, isBlank b = true) (x : List Char) :
    Respaced x (x ++ s) := by
  induction x with
  | nil => exact .ends nofun hs
  | cons c x ih =>
    cases hc : isBlank c with
    | true => exact ih.append_left (List.forall_mem_singleton.2 hc)
    | false => exact .char hc ih

/-- Without the white space in front, too, the texts differ in white space only. -/
lemma trimLeft (h : Respaced x y) : Respaced (Text.trimLeft x) (Text.trimLeft y) := by
  rw [Text.trimLeft, Text.trimLeft]
  induction h with
  | ends hx hy =>
    rw [List.dropWhile_eq_nil_iff.2 hx, List.dropWhile_eq_nil_iff.2 hy]
    exact .ends (List.forall_mem_nil _) (List.forall_mem_nil _)
  | char hc h ih =>
    rw [List.dropWhile_cons_of_neg (by simp [hc]), List.dropWhile_cons_of_neg (by simp [hc])]
    exact .char hc h
  | space hne hne' hbs hbs' h ih =>
    rwa [List.dropWhile_append_of_pos hbs, List.dropWhile_append_of_pos hbs']
  | @sign bs bs' c ds ds' x y hbs hbs' hc hds hds' h ih =>
    have hblank : isBlank c = false := (not_word_of_isSign hc).1
    rw [List.dropWhile_append_of_pos hbs, List.dropWhile_append_of_pos hbs',
      List.dropWhile_cons_of_neg (by simp [hblank]), List.dropWhile_cons_of_neg (by simp [hblank])]
    exact .sign (List.forall_mem_nil _) (List.forall_mem_nil _) hc hds hds' h

/-- Runs of white space can be squeezed. -/
lemma squeeze (t : List Char) : Respaced (Text.squeeze t) t := by
  induction t with
  | nil => exact .ends nofun nofun
  | cons c t ih =>
    cases hc : isBlank c with
    | false =>
      rw [squeeze_cons hc]
      exact .char hc ih
    | true =>
      have hblank : ∀ b ∈ c :: t.takeWhile isBlank, isBlank b = true :=
        List.forall_mem_cons.2 ⟨hc, fun _ => List.mem_takeWhile_imp⟩
      have hspace : ∀ b ∈ [' '], isBlank b = true := List.forall_mem_singleton.2 (by decide)
      have h := Respaced.space (List.cons_ne_nil _ _) (List.cons_ne_nil _ _) hspace hblank
        ih.trimLeft
      rw [Text.trimLeft, Text.trimLeft, List.singleton_append, List.cons_append,
        List.takeWhile_append_dropWhile] at h
      rw [squeeze_cons_blank hc]
      exact h

/-- Where the one text begins with neither white space nor a sign, so does the other. -/
lemma exists_of_cons {d : Char} {r : List Char} (h : Respaced (d :: r) y)
    (hd : isBlank d = false) (hsign : isSign d = false) : ∃ r', y = d :: r' ∧ Respaced r r' := by
  generalize hx : d :: r = x at h
  cases h with
  | ends hblank _ =>
    exact absurd (hblank d (hx ▸ List.mem_cons_self)) (Bool.eq_false_iff.1 hd)
  | @char c x y _ h =>
    obtain ⟨rfl, rfl⟩ := List.cons.inj hx
    exact ⟨y, rfl, h⟩
  | space hne _ hbs _ _ =>
    obtain ⟨b, bs, rfl⟩ := List.exists_cons_of_ne_nil hne
    obtain ⟨rfl, -⟩ := List.cons.inj hx
    exact absurd (hbs d List.mem_cons_self) (Bool.eq_false_iff.1 hd)
  | @sign bs bs' c ds ds' x y hbs _ hc _ _ _ =>
    cases bs with
    | nil =>
      obtain ⟨rfl, -⟩ := List.cons.inj hx
      exact absurd hc (Bool.eq_false_iff.1 hsign)
    | cons b bs =>
      obtain ⟨rfl, -⟩ := List.cons.inj hx
      exact absurd (hbs d List.mem_cons_self) (Bool.eq_false_iff.1 hd)

/-- Where the one text begins with white space, so does the other, or a sign comes next, if
anything. -/
lemma startsBlank_or_sign {b : Char} {r : List Char} (h : Respaced (b :: r) y)
    (hb : isBlank b = true) :
    startsBlank y = true ∨ ∀ c ∈ (r.dropWhile isBlank).head?, isSign c = true := by
  generalize hx : b :: r = x at h
  have hdrop : r.dropWhile isBlank = x.dropWhile isBlank := by
    rw [← hx, List.dropWhile_cons_of_pos hb]
  rw [hdrop]
  cases h with
  | ends hblank _ =>
    rw [List.dropWhile_eq_nil_iff.2 hblank]
    exact .inr nofun
  | char hc _ =>
    obtain ⟨rfl, -⟩ := List.cons.inj hx
    exact absurd hb (Bool.eq_false_iff.1 hc)
  | space _ hne' _ hbs' _ =>
    obtain ⟨b', bs', rfl⟩ := List.exists_cons_of_ne_nil hne'
    exact .inl (hbs' b' List.mem_cons_self)
  | @sign bs bs' c ds ds' x y hbs _ hc _ _ _ =>
    have hblank : isBlank c = false := (not_word_of_isSign hc).1
    rw [List.dropWhile_append_of_pos hbs, List.dropWhile_cons_of_neg (by simp [hblank])]
    refine .inr ?_
    rintro _ ⟨⟩
    exact hc

/-- The texts go on with a word both or neither. -/
lemma startsWithWord_eq (h : Respaced x y) : startsWithWord x = startsWithWord y := by
  have blank : ∀ {bs : List Char}, (∀ b ∈ bs, isBlank b = true) → ∀ {z : List Char},
      bs ≠ [] ∨ startsWithWord z = false → startsWithWord (bs ++ z) = false := by
    intro bs hbs z hz
    cases bs with
    | nil => exact hz.resolve_left (absurd rfl)
    | cons b bs => exact (letterless (hbs b List.mem_cons_self)).isWord
  cases h with
  | ends hx hy =>
    rw [← List.append_nil x, ← List.append_nil y, blank hx (.inr rfl), blank hy (.inr rfl)]
  | char => rfl
  | space hne hne' hbs hbs' => rw [blank hbs (.inl hne), blank hbs' (.inl hne')]
  | @sign bs bs' c ds ds' x y hbs hbs' hc =>
    have hword : ∀ z, startsWithWord (c :: z) = false := fun _ => (not_word_of_isSign hc).2.1
    rw [blank hbs (.inr (hword _)), blank hbs' (.inr (hword _))]

end Respaced

namespace Phrase

variable {k x y rest : List Char} {before before' : Option Char}

/-- The phrase has small letters of ASCII and spaces only, and begins and ends with a letter. -/
structure IsPhrase (k : List Char) : Prop where
  plain : isPlain k = true
  starts : startsBlank k = false
  ne_nil : k ≠ []
  ends : k.getLast? ≠ some ' '

/-- The phrase stands somewhere in the text, which begins behind the character `before`. -/
def occursAfter (k : List Char) (before : Option Char) (t : List Char) : Bool :=
  (findFrom (wholeAt? k) before t).isSome

lemma occurs_eq (k t : List Char) : occurs k t = occursAfter k none t := by
  rw [occurs, find?, Option.isSome_map, occursAfter]

lemma occursAfter_cons (c : Char) (t : List Char) :
    occursAfter k before (c :: t)
      = ((wholeAt? k before (c :: t)).isSome || occursAfter k (some c) t) := by
  rw [occursAfter, findFrom]
  cases wholeAt? k before (c :: t) <;> rfl

lemma wholeAt?_congr (h : continuesWord before = continuesWord before') (t : List Char) :
    wholeAt? k before t = wholeAt? k before' t := by
  rw [wholeAt?, wholeAt?, h]

lemma occursAfter_congr (h : continuesWord before = continuesWord before') (t : List Char) :
    occursAfter k before t = occursAfter k before' t := by
  cases t with
  | nil => rw [occursAfter, occursAfter, findFrom, findFrom, wholeAt?_congr h]
  | cons c t => rw [occursAfter_cons, occursAfter_cons, wholeAt?_congr h]

namespace IsPhrase

lemma exists_cons (hk : IsPhrase k) : ∃ l k', k = l :: k' ∧ l.isLower = true := by
  obtain ⟨l, k, rfl⟩ := List.exists_cons_of_ne_nil hk.ne_nil
  obtain rfl | hl := (isPlain_cons.1 hk.plain).1
  · cases hk.starts
  · exact ⟨l, k, rfl, hl⟩

lemma occursAfter_nil (hk : IsPhrase k) : occursAfter k before [] = false := by
  obtain ⟨l, k, rfl, hl⟩ := hk.exists_cons
  rw [occursAfter, findFrom, wholeAt?]
  split_ifs <;> rfl

/-- A phrase begins with a letter. -/
lemma wholeAt?_eq_none (hk : IsPhrase k) {c : Char}
    (hc : isBlank c = true ∨ (Fold.key c).isLower = false) (t : List Char) :
    wholeAt? k before (c :: t) = none := by
  obtain ⟨l, k, rfl, hl⟩ := hk.exists_cons
  rw [Option.eq_none_iff_forall_ne_some]
  intro rest hrest
  obtain ⟨-, hstrip, -⟩ := wholeAt?_eq_some.1 hrest
  obtain ⟨d, r, heq, hd, hkey, -⟩ := (strip?_letter_eq_some hl).1 hstrip
  obtain ⟨rfl, -⟩ := List.cons.inj heq
  obtain hc | hc := hc
  · exact absurd hc (Bool.eq_false_iff.1 hd)
  · rw [hkey, hl] at hc
    cases hc

/-- What stands before a phrase and is no part of a word makes no difference. -/
lemma occursAfter_cons_of_not_word (hk : IsPhrase k) {c : Char}
    (hc : isBlank c = true ∨ isSign c = true) (t : List Char) :
    occursAfter k before (c :: t) = occursAfter k none t := by
  have hspec : (isBlank c = true ∨ (Fold.key c).isLower = false) ∧
      continuesWord (some c) = false := by
    obtain hc | hc := hc
    · exact ⟨.inl hc, (letterless hc).isWord⟩
    · obtain ⟨-, hword, hlower⟩ := not_word_of_isSign hc
      exact ⟨.inr hlower, hword⟩
  rw [occursAfter_cons, hk.wholeAt?_eq_none hspec.1, Option.isSome_none, Bool.false_or]
  exact occursAfter_congr hspec.2 t

lemma occursAfter_append_blank (hk : IsPhrase k) {bs : List Char}
    (hbs : ∀ b ∈ bs, isBlank b = true) (hbefore : bs = [] → continuesWord before = false)
    (t : List Char) : occursAfter k before (bs ++ t) = occursAfter k none t := by
  induction bs generalizing before with
  | nil => exact occursAfter_congr (hbefore rfl) t
  | cons b bs ih =>
    obtain ⟨hb, hbs⟩ := List.forall_mem_cons.1 hbs
    rw [List.cons_append, hk.occursAfter_cons_of_not_word (.inl hb)]
    exact ih hbs fun _ => rfl

lemma occursAfter_of_blank (hk : IsPhrase k) {t : List Char} (ht : ∀ c ∈ t, isBlank c = true) :
    occursAfter k before t = false := by
  cases t with
  | nil => exact hk.occursAfter_nil
  | cons c t =>
    rw [← List.append_nil (c :: t), hk.occursAfter_append_blank ht nofun]
    exact hk.occursAfter_nil

lemma occursAfter_sign (hk : IsPhrase k) {bs ds : List Char} {c : Char}
    (hbs : ∀ b ∈ bs, isBlank b = true) (hc : isSign c = true) (hds : ∀ d ∈ ds, isBlank d = true)
    (t : List Char) : occursAfter k before (bs ++ c :: (ds ++ t)) = occursAfter k none t := by
  have behind : ∀ before, occursAfter k before (c :: (ds ++ t)) = occursAfter k none t := by
    intro before
    rw [hk.occursAfter_cons_of_not_word (.inr hc)]
    exact hk.occursAfter_append_blank hds (fun _ => rfl) t
  cases bs with
  | nil => exact behind before
  | cons b bs => rw [hk.occursAfter_append_blank hbs nofun, behind]

lemma occurs_trimLeft (hk : IsPhrase k) (t : List Char) : occurs k (trimLeft t) = occurs k t := by
  have hblank : ∀ b ∈ t.takeWhile isBlank, isBlank b = true := fun _ => List.mem_takeWhile_imp
  have h : occursAfter k none (t.takeWhile isBlank ++ trimLeft t)
      = occursAfter k none (trimLeft t) := hk.occursAfter_append_blank hblank (fun _ => rfl) _
  rw [occurs_eq, occurs_eq, ← h, trimLeft, List.takeWhile_append_dropWhile]

end IsPhrase

/-- A phrase that a text begins with stands in front of the text with other spacing, too. -/
lemma exists_strip?_respaced (hk : isPlain k = true) (hend : k.getLast? ≠ some ' ')
    (h : Respaced x y) (hstrip : strip? k x = some rest) :
    ∃ rest', strip? k y = some rest' ∧ Respaced rest rest' := by
  induction k generalizing x y with
  | nil =>
    cases hstrip
    exact ⟨y, rfl, h⟩
  | cons l k ih =>
    obtain ⟨hl, hk'⟩ := isPlain_cons.1 hk
    have hend' := getLast?_ne_of_cons hend
    obtain rfl | hl := hl
    · obtain ⟨b, r, rfl, hb, hrest⟩ := strip?_space_eq_some.1 hstrip
      -- a word stands next, so the white space in front of it is not all taken away
      have hy : startsBlank y = true := by
        refine (h.startsBlank_or_sign hb).resolve_right fun hnext => ?_
        have hne : k ≠ [] := by
          rintro rfl
          exact hend rfl
        cases hdrop : r.dropWhile isBlank with
        | nil =>
          obtain ⟨e, k, rfl⟩ := List.exists_cons_of_ne_nil hne
          rw [hdrop] at hrest
          cases hrest
        | cons c t =>
          obtain ⟨hblank, -, hlower⟩ := not_word_of_isSign (hnext c (by rw [hdrop]; rfl))
          rw [hdrop, strip?_eq_none_of_not_letter hk' hne hblank hlower] at hrest
          cases hrest
      obtain ⟨b', r', rfl, hb'⟩ := exists_of_startsBlank hy
      have h' := h.trimLeft
      rw [trimLeft, trimLeft, List.dropWhile_cons_of_pos hb, List.dropWhile_cons_of_pos hb'] at h'
      obtain ⟨rest', hstrip', hrest'⟩ := ih hk' hend' h' hrest
      exact ⟨rest', strip?_space_eq_some.2 ⟨b', r', rfl, hb', hstrip'⟩, hrest'⟩
    · obtain ⟨d, r, rfl, hd, hkey, hrest⟩ := (strip?_letter_eq_some hl).1 hstrip
      have hsign : isSign d = false := by rw [isSign, hkey, hl, Bool.not_true, Bool.and_false]
      obtain ⟨r', rfl, hr'⟩ := h.exists_of_cons hd hsign
      obtain ⟨rest', hstrip', hrest'⟩ := ih hk' hend' hr' hrest
      exact ⟨rest', (strip?_letter_eq_some hl).2 ⟨d, r', rfl, hd, hkey, hstrip'⟩, hrest'⟩

namespace IsPhrase

lemma isSome_wholeAt?_respaced (hk : IsPhrase k) (h : Respaced x y)
    (hx : (wholeAt? k before x).isSome = true) : (wholeAt? k before y).isSome = true := by
  obtain ⟨rest, hrest⟩ := Option.isSome_iff_exists.1 hx
  obtain ⟨hbefore, hstrip, hword⟩ := wholeAt?_eq_some.1 hrest
  obtain ⟨rest', hstrip', hrest'⟩ := exists_strip?_respaced hk.plain hk.ends h hstrip
  rw [wholeAt?_eq_some.2 ⟨hbefore, hstrip', hrest'.startsWithWord_eq ▸ hword⟩]
  rfl

lemma occursAfter_respaced (hk : IsPhrase k) (h : Respaced x y)
    (hx : occursAfter k before x = true) : occursAfter k before y = true := by
  induction h generalizing before with
  | ends hblank _ =>
    rw [hk.occursAfter_of_blank hblank] at hx
    cases hx
  | @char c x y hc h ih =>
    rw [occursAfter_cons, Bool.or_eq_true] at hx ⊢
    exact hx.imp (hk.isSome_wholeAt?_respaced (.char hc h)) ih
  | space hne hne' hbs hbs' h ih =>
    rw [hk.occursAfter_append_blank hbs fun hnil => absurd hnil hne] at hx
    rw [hk.occursAfter_append_blank hbs' fun hnil => absurd hnil hne']
    exact ih hx
  | sign hbs hbs' hc hds hds' h ih =>
    rw [hk.occursAfter_sign hbs hc hds] at hx
    rw [hk.occursAfter_sign hbs' hc hds']
    exact ih hx

/-- A phrase stands in both texts or in neither, if they differ in white space only. -/
lemma occurs_respaced (hk : IsPhrase k) (h : Respaced x y) : occurs k x = occurs k y := by
  rw [Bool.eq_iff_iff, occurs_eq, occurs_eq]
  exact ⟨hk.occursAfter_respaced h, hk.occursAfter_respaced h.symm⟩

end IsPhrase

end Phrase

end QueryTutor.Text
