import QueryTutor.Proofs.Query.Canonical
import QueryTutor.Proofs.Text.Respaced
import QueryTutor.Proofs.Text.SmallWord

/-!
# Phrases in canonical forms

A phrase that stands in the canonical form of a text stands in the text itself, with one exception:
in small letters, a capital I with a dot ends in a character that belongs to no word, so that a
phrase can begin behind it.
-/

namespace QueryTutor.Query
open Text Phrase

variable {k t : List Char}

/-! ## Spacing -/

/-- The spacing of an operator is other white space around it. -/
lemma respaced_spaced (o : Operator) {x y bs ds : List Char} (hbs : ∀ b ∈ bs, isBlank b = true)
    (hds : ∀ d ∈ ds, isBlank d = true) (h : Respaced x y) :
    Respaced (o.spaced ++ x) (bs ++ (o.text ++ (ds ++ y))) := by
  have hspace : ∀ b ∈ [' '], isBlank b = true := List.forall_mem_singleton.2 (by decide)
  have single : ∀ {as : List Char} {c : Char}, (∀ a ∈ as, isBlank a = true) → isSign c = true →
      Respaced (as ++ c :: ([' '] ++ x)) (bs ++ c :: (ds ++ y)) := fun has hc =>
    .sign has hbs hc hspace hds h
  have double : ∀ {c d : Char}, isSign c = true → isSign d = true →
      Respaced ([' '] ++ c :: ([] ++ ([] ++ d :: ([' '] ++ x))))
        (bs ++ c :: ([] ++ ([] ++ d :: (ds ++ y)))) := fun hc hd =>
    .sign hspace hbs hc nofun nofun (.sign nofun nofun hd hspace hds h)
  cases o with
  | comma => exact single (List.forall_mem_nil _) (by decide)
  | equal => exact single hspace (by decide)
  | atMost => exact double (by decide) (by decide)
  | atLeast => exact double (by decide) (by decide)
  | notEqual => exact double (by decide) (by decide)
  | differs => exact double (by decide) (by decide)

/-- Spacing the operators changes white space only: behind held white space, and behind an operator,
where white space is left out. -/
structure KeepsWords (t : List Char) : Prop where
  held : ∀ bs, HeldBlank (some bs) → Respaced (spaceAfter (some bs) t) (bs.reverse ++ t)
  behind : ∃ ds y, t = ds ++ y ∧ (∀ d ∈ ds, isBlank d = true) ∧ Respaced (spaceAfter none t) y

lemma keepsWords (t : List Char) : KeepsWords t := by
  induction t using text_induction with
  | nil =>
    refine ⟨fun bs hbs => ?_, [], [], rfl, nofun, .ends nofun nofun⟩
    rw [List.append_nil]
    exact .ends hbs.reverse hbs.reverse
  | operator o t ih =>
    obtain ⟨ds, y, rfl, hds, hy⟩ := ih.behind
    refine ⟨fun bs hbs => ?_, [], _, rfl, nofun, ?_⟩
    · rw [spaceAfter_operator]
      exact respaced_spaced o hbs.reverse hds hy
    · rw [spaceAfter_operator]
      exact respaced_spaced o (List.forall_mem_nil _) hds hy
  | other c t hnone ih =>
    cases hc : isBlank c with
    | true =>
      obtain ⟨ds, y, rfl, hds, hy⟩ := ih.behind
      refine ⟨fun bs hbs => ?_, c :: ds, y, rfl, List.forall_mem_cons.2 ⟨hc, hds⟩, ?_⟩
      · have h := ih.held (c :: bs) (hbs.map_cons hc)
        rw [List.reverse_cons, List.append_assoc] at h
        rw [spaceAfter_cons hnone, if_pos hc]
        exact h
      · rw [spaceAfter_cons hnone, if_pos hc]
        exact hy
    | false =>
      have hchar : Respaced (c :: spaceAfter (some []) t) (c :: t) :=
        .char hc (ih.held [] heldBlank_nil)
      refine ⟨fun bs hbs => ?_, [], c :: t, rfl, nofun, ?_⟩
      · rw [spaceAfter_cons hnone, if_neg (Bool.eq_false_iff.1 hc)]
        exact hchar.append_left hbs.reverse
      · rw [spaceAfter_cons hnone, if_neg (Bool.eq_false_iff.1 hc)]
        exact hchar

lemma respaced_spaceOperators (t : List Char) : Respaced (spaceOperators t) t :=
  (keepsWords t).held [] heldBlank_nil

lemma occurs_tight (hk : IsPhrase k) (t : List Char) : occurs k (tight t) = occurs k t := by
  obtain ⟨s, hs, heq⟩ := exists_dropTrailing_append isBlank (squeeze t)
  have hend : Respaced (tightEnd t) (squeeze t) := by
    conv_rhs => rw [heq]
    exact .append_right hs _
  rw [tight_eq, hk.occurs_trimLeft, hk.occurs_respaced hend, hk.occurs_respaced (.squeeze t)]

/-! ## Small letters -/

/-- The phrase stands right behind a capital I with a dot, and no word goes on behind it. -/
def BehindDotted (k t : List Char) : Prop :=
  ∃ u v, t = u ++ '\u0130' :: v ∧ (wholeAt? k none v).isSome = true

lemma dropWhile_lowerAfter (before t : List Char) :
    ∃ before', (lowerAfter before t).dropWhile isBlank
      = lowerAfter before' (t.dropWhile isBlank) := by
  induction t generalizing before with
  | nil => exact ⟨[], rfl⟩
  | cons c t ih =>
    cases hc : isBlank c with
    | true =>
      have hsmall := isSmall_of_isBlank hc
      rw [lowerAfter, if_neg hsmall.ne_dotted, if_neg hsmall.ne_sigma, hsmall.lowerChar,
        List.dropWhile_cons_of_pos hc, List.dropWhile_cons_of_pos hc]
      exact ih _
    | false =>
      refine ⟨before, ?_⟩
      rw [List.dropWhile_cons_of_neg (by simp [hc]), lowerAfter]
      split_ifs
      · exact List.dropWhile_cons_of_neg (by decide)
      · exact List.dropWhile_cons_of_neg (by decide)
      · exact List.dropWhile_cons_of_neg (by decide)
      · exact List.dropWhile_cons_of_neg (by rw [isBlank_lowerChar, hc]; decide)

/-- A text in small letters begins with the small letter of a character, or with what a capital I
with a dot becomes, or with a small sigma. -/
lemma lowerAfter_eq_cons {before r : List Char} {d : Char} (h : lowerAfter before t = d :: r) :
    ∃ c t', t = c :: t' ∧
      ((c = '\u0130' ∧ d = 'i' ∧ r = '\u0307' :: lowerAfter (c :: before) t') ∨
        (c = '\u03a3' ∧ (d = '\u03c2' ∨ d = '\u03c3') ∧ r = lowerAfter (c :: before) t') ∨
        (d = lowerChar c ∧ r = lowerAfter (c :: before) t')) := by
  cases t with
  | nil => cases h
  | cons c t =>
    refine ⟨c, t, rfl, ?_⟩
    rw [lowerAfter] at h
    split_ifs at h with hdotted hsigma
    · obtain ⟨rfl, rfl⟩ := List.cons.inj h
      exact .inl ⟨hdotted, rfl, rfl⟩
    · obtain ⟨rfl, rfl⟩ := List.cons.inj h
      exact .inr (.inl ⟨hsigma, .inl rfl, rfl⟩)
    · obtain ⟨rfl, rfl⟩ := List.cons.inj h
      exact .inr (.inl ⟨hsigma, .inr rfl, rfl⟩)
    · obtain ⟨rfl, rfl⟩ := List.cons.inj h
      exact .inr (.inr ⟨rfl, rfl⟩)

/-- A phrase that a text in small letters begins with stands in front of the text itself, if it does
not end with an `i`. -/
lemma strip?_lowerAfter {before rest : List Char} (hk : isPlain k = true)
    (hend : k.getLast? ≠ some ' ') (hi : k.getLast? ≠ some 'i')
    (h : strip? k (lowerAfter before t) = some rest) :
    ∃ before' rest', rest = lowerAfter before' rest' ∧ strip? k t = some rest' := by
  induction k generalizing before t with
  | nil =>
    cases h
    exact ⟨before, t, rfl, rfl⟩
  | cons l k ih =>
    obtain ⟨hl, hk'⟩ := isPlain_cons.1 hk
    have hend' := getLast?_ne_of_cons hend
    have hi' : k.getLast? ≠ some 'i' := by
      cases k with
      | nil => nofun
      | cons e k => rwa [List.getLast?_cons_cons] at hi
    obtain rfl | hl := hl
    · obtain ⟨b, r, hbr, hb, hrest⟩ := strip?_space_eq_some.1 h
      obtain ⟨c, t, rfl, ⟨-, rfl, -⟩ | ⟨-, rfl | rfl, -⟩ | ⟨rfl, rfl⟩⟩ := lowerAfter_eq_cons hbr
      · exact absurd hb (by decide)
      · exact absurd hb (by decide)
      · exact absurd hb (by decide)
      · obtain ⟨before', hdrop⟩ := dropWhile_lowerAfter (c :: before) t
        rw [hdrop] at hrest
        obtain ⟨before', rest', heq, hstrip⟩ := ih hk' hend' hi' hrest
        rw [isBlank_lowerChar] at hb
        exact ⟨before', rest', heq, strip?_space_eq_some.2 ⟨c, t, rfl, hb, hstrip⟩⟩
    · obtain ⟨d, r, hdr, hd, hkey, hrest⟩ := (strip?_letter_eq_some hl).1 h
      obtain ⟨c, t, rfl, ⟨-, rfl, rfl⟩ | ⟨-, hsigma, -⟩ | ⟨rfl, rfl⟩⟩ := lowerAfter_eq_cons hdr
      · -- the phrase does not end here, and would go on with the dot
        have hne : k ≠ [] := by
          rintro rfl
          exact absurd (by rw [← hkey]; decide) hi
        rw [strip?_eq_none_of_not_letter hk' hne (by decide) (by decide)] at hrest
        cases hrest
      · obtain rfl | rfl := hsigma
        · exact absurd hl (by rw [← hkey]; decide)
        · exact absurd hl (by rw [← hkey]; decide)
      · obtain ⟨before', rest', heq, hstrip⟩ := ih hk' hend' hi' hrest
        rw [isBlank_lowerChar] at hd
        rw [key_lowerChar] at hkey
        exact ⟨before', rest', heq, (strip?_letter_eq_some hl).2 ⟨c, t, rfl, hd, hkey, hstrip⟩⟩

/-- Where a text goes on with a word, so does the text in small letters. -/
lemma startsWithWord_of_lowerAfter {before : List Char}
    (h : startsWithWord (lowerAfter before t) = false) : startsWithWord t = false := by
  cases t with
  | nil => rfl
  | cons c t =>
    rw [Bool.eq_false_iff]
    intro hc
    rw [lowerAfter] at h
    split_ifs at h <;> rw [startsWithWord] at h
    · exact absurd h (by decide)
    · exact absurd h (by decide)
    · exact absurd h (by decide)
    · exact Bool.eq_false_iff.1 h (isWord_lowerChar hc)

/-- A phrase that stands in front of a text in small letters stands in front of the text. -/
lemma isSome_wholeAt?_lowerAfter {before : List Char} {b b' : Option Char} (hk : IsPhrase k)
    (hi : k.getLast? ≠ some 'i') (hb : continuesWord b = false → continuesWord b' = false)
    (h : (wholeAt? k b (lowerAfter before t)).isSome = true) :
    (wholeAt? k b' t).isSome = true := by
  obtain ⟨rest, hrest⟩ := Option.isSome_iff_exists.1 h
  obtain ⟨hbefore, hstrip, hword⟩ := wholeAt?_eq_some.1 hrest
  obtain ⟨before', rest', rfl, hstrip'⟩ := strip?_lowerAfter hk.plain hk.ends hi hstrip
  rw [wholeAt?_eq_some.2 ⟨hb hbefore, hstrip', startsWithWord_of_lowerAfter hword⟩]
  rfl

lemma BehindDotted.cons (h : BehindDotted k t) (c : Char) : BehindDotted k (c :: t) := by
  obtain ⟨u, v, rfl, hv⟩ := h
  exact ⟨c :: u, v, rfl, hv⟩

/-- A phrase that stands in a text stands in front of it, or stands in it behind any character. -/
lemma isSome_wholeAt?_or_occursAfter {b : Option Char} (h : occursAfter k b t = true)
    (b' : Option Char) : (wholeAt? k b t).isSome = true ∨ occursAfter k b' t = true := by
  cases t with
  | nil =>
    rw [occursAfter, findFrom, Option.isSome_map] at h
    exact .inl h
  | cons c t =>
    rw [occursAfter_cons, Bool.or_eq_true] at h
    rw [occursAfter_cons, Bool.or_eq_true]
    exact h.imp_right .inr

/-- A phrase that stands in a text in small letters stands in the text, or behind a capital I with a
dot. -/
lemma occursAfter_lowerAfter {before : List Char} {b b' : Option Char} (hk : IsPhrase k)
    (hi : k.getLast? ≠ some 'i') (hb : continuesWord b = false → continuesWord b' = false)
    (h : occursAfter k b (lowerAfter before t) = true) :
    occursAfter k b' t = true ∨ BehindDotted k t := by
  induction t generalizing before b b' with
  | nil =>
    rw [lowerAfter, hk.occursAfter_nil] at h
    cases h
  | cons c t ih =>
    have here : (wholeAt? k b (lowerAfter before (c :: t))).isSome = true →
        occursAfter k b' (c :: t) = true := fun hfront => by
      rw [occursAfter_cons, isSome_wholeAt?_lowerAfter hk hi hb hfront, Bool.true_or]
    have later : ∀ {d}, (isWord c = true → continuesWord d = true) →
        occursAfter k d (lowerAfter (c :: before) t) = true →
        occursAfter k b' (c :: t) = true ∨ BehindDotted k (c :: t) := fun hd h => by
      have hword : continuesWord _ = false → continuesWord (some c) = false := fun hd' =>
        Bool.eq_false_iff.2 fun hc => Bool.eq_false_iff.1 hd' (hd hc)
      rw [occursAfter_cons, Bool.or_eq_true]
      exact (ih hword h).imp .inr (·.cons c)
    rw [lowerAfter] at h here
    split_ifs at h here with hdotted hsigma hfinal
    · subst hdotted
      rw [occursAfter_cons, Bool.or_eq_true] at h
      obtain h | h := h
      · exact .inl (here h)
      -- the dot belongs to no word, so that the phrase may begin right behind it
      rw [occursAfter_cons, hk.wholeAt?_eq_none (.inr (by decide)), Option.isSome_none,
        Bool.false_or] at h
      obtain hnext | h := isSome_wholeAt?_or_occursAfter h (some '\u0130')
      · exact .inr ⟨[], t, rfl, isSome_wholeAt?_lowerAfter hk hi (fun _ => rfl) hnext⟩
      · exact later id h
    all_goals
      rw [occursAfter_cons, Bool.or_eq_true] at h
    · exact h.elim (fun h => .inl (here h)) (later fun _ => by decide)
    · exact h.elim (fun h => .inl (here h)) (later fun _ => by decide)
    · exact h.elim (fun h => .inl (here h)) (later isWord_lowerChar)

lemma occurs_lower (hk : IsPhrase k) (hi : k.getLast? ≠ some 'i')
    (h : occurs k (lower t) = true) : occurs k t = true ∨ BehindDotted k t := by
  rw [occurs_eq] at h ⊢
  exact occursAfter_lowerAfter hk hi id h

/-! ## Canonical forms -/

lemma not_isWord_of_isTrailer {c : Char} (h : isTrailer c = true) : isWord c = false := by
  rw [isTrailer, Bool.or_eq_true, beq_iff_eq] at h
  obtain h | rfl := h
  · exact (letterless h).isWord
  · rfl

/-- White space and semicolons at the end of a text are part of no phrase. -/
lemma occurs_of_dropTrailing (hk : IsPhrase k) (h : occurs k (dropTrailing isTrailer t) = true) :
    occurs k t = true := by
  obtain ⟨s, hs, heq⟩ := exists_dropTrailing_append isTrailer t
  rw [heq]
  refine occurs_append hk.ends ?_ h
  cases s with
  | nil => rfl
  | cons c s => exact not_isWord_of_isTrailer (hs c List.mem_cons_self)

/-- A phrase that stands in the canonical form of a text stands in the text, or behind a capital I
with a dot. -/
lemma occurs_canonical (hk : IsPhrase k) (hi : k.getLast? ≠ some 'i')
    (h : occurs k (canonical t) = true) : occurs k t = true ∨ BehindDotted k t := by
  rw [canonical_eq_tight, occurs_tight hk, hk.occurs_respaced (respaced_spaceOperators _)] at h
  exact occurs_lower hk hi (occurs_of_dropTrailing hk h)

end QueryTutor.Query
