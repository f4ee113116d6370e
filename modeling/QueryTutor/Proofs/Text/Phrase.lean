import Mathlib.Data.List.Infix
import Mathlib.Data.List.TakeWhile
import QueryTutor.Proofs.Text.Layout
import QueryTutor.Text.Phrase

/-!
# Phrases in texts that go on

A phrase that stands in a text still stands there when white space and anything else follows.  A
phrase that stands at a place only because the text goes on has its first words at the end of the
text, and nothing else of the text is behind that place.
-/

namespace QueryTutor.Text.Phrase

variable {eq : Char → Char → Bool} {p k t v rest s : List Char}

/-! ## Texts that go on with white space -/

lemma exists_of_startsBlank (hs : startsBlank s = true) : ∃ b r, s = b :: r ∧ isBlank b = true := by
  cases s with
  | nil => cases hs
  | cons b r => exact ⟨b, r, rfl, by simpa [startsBlank] using hs⟩

lemma startsWithWord_of_startsBlank (hs : startsBlank s = true) : startsWithWord s = false := by
  obtain ⟨b, r, rfl, hb⟩ := exists_of_startsBlank hs
  exact (letterless hb).isWord

lemma startsWithWord_append (hs : startsWithWord s = false) (t : List Char) :
    startsWithWord (t ++ s) = startsWithWord t := by
  cases t with
  | cons c t => rfl
  | nil => exact hs

lemma startsWithWord_of_prefix (hv : v <+: rest) (h : startsWithWord rest = false) :
    startsWithWord v = false := by
  obtain ⟨s, rfl⟩ := hv
  cases v with
  | nil => rfl
  | cons c v => exact h

lemma dropWhile_append_of_ne_nil {α : Type} {q : α → Bool} {l : List α} (h : l.dropWhile q ≠ [])
    (later : List α) : (l ++ later).dropWhile q = l.dropWhile q ++ later := by
  rw [List.dropWhile_append, if_neg (by simpa using h)]

/-! ## Phrases that stay -/

lemma getLast?_ne_of_cons {c : Char} (h : (c :: p).getLast? ≠ some ' ') : p.getLast? ≠ some ' ' := by
  cases p with
  | nil => nofun
  | cons d p => rwa [List.getLast?_cons_cons] at h

/-- What stands behind a phrase goes on with the text, unless the phrase ends in a space and the
text with it. -/
lemma stripBy?_append (h : stripBy? eq p t = some rest) (hend : rest ≠ [] ∨ p.getLast? ≠ some ' ')
    (s : List Char) : stripBy? eq p (t ++ s) = some (rest ++ s) := by
  induction p generalizing t with
  | nil =>
    cases h
    rfl
  | cons c p ih =>
    cases t with
    | nil => cases h
    | cons d t =>
      have hend' : rest ≠ [] ∨ p.getLast? ≠ some ' ' := hend.imp_right getLast?_ne_of_cons
      rw [stripBy?] at h
      rw [List.cons_append, stripBy?]
      split_ifs at h ⊢ with hc hd hcd
      · have hne : t.dropWhile isBlank ≠ [] := by
          intro hnil
          rw [hnil] at h
          cases p with
          | cons e p => cases h
          | nil =>
            cases h
            exact hend.elim (absurd rfl) (absurd (by rw [hc]; rfl))
        rw [dropWhile_append_of_ne_nil hne]
        exact ih h hend'
      · exact ih h hend'

lemma wholeAt?_eq_some {before : Option Char} : wholeAt? p before t = some rest ↔
    continuesWord before = false ∧ strip? p t = some rest ∧ startsWithWord rest = false := by
  rw [wholeAt?]
  split_ifs with h
  · exact ⟨nofun, fun hw => absurd h (Bool.eq_false_iff.1 hw.1)⟩
  · rw [Option.filter_eq_some_iff, Bool.not_eq_true']
    exact (and_iff_right (Bool.eq_false_iff.2 h)).symm

/-- A phrase that stands as whole words stands there when the text goes on with no word. -/
lemma wholeAt?_append {before : Option Char} (hp : p.getLast? ≠ some ' ')
    (hs : startsWithWord s = false) (h : wholeAt? p before t = some rest) :
    wholeAt? p before (t ++ s) = some (rest ++ s) := by
  obtain ⟨hbefore, hstrip, hword⟩ := wholeAt?_eq_some.1 h
  refine wholeAt?_eq_some.2 ⟨hbefore, stripBy?_append hstrip (.inr hp) s, ?_⟩
  rw [startsWithWord_append hs]
  exact hword

/-! ## Phrases that the text goes on to make -/

/-- The phrase has only small letters of ASCII and spaces. -/
def isPlain (p : List Char) : Bool :=
  p.all fun c => c == ' ' || c.isLower

/-- A small letter of ASCII stands for itself and is no white space. -/
lemma spec_of_isLower {c : Char} (h : c.isLower = true) :
    Fold.key c = c ∧ isBlank c = false := by
  obtain ⟨-, hhigh⟩ := Bool.and_eq_true_iff.1 h
  have hc : c.toNat ≤ 122 := UInt32.le_iff_toNat_le.1 (of_decide_eq_true hhigh)
  exact forall_ascii (P := fun c => c.isLower = true → Fold.key c = c ∧ isBlank c = false)
    (by decide) (by omega) h

lemma isPlain_cons {c : Char} : isPlain (c :: p) = true ↔
    (c = ' ' ∨ c.isLower = true) ∧ isPlain p = true := by
  rw [isPlain, List.all_cons, Bool.and_eq_true, Bool.or_eq_true, beq_iff_eq, isPlain]

lemma not_same_of_isBlank {c b : Char} (hc : c.isLower = true) (hb : isBlank b = true) :
    Fold.same c b = false := by
  rw [Bool.eq_false_iff, Ne, same_iff, (spec_of_isLower hc).1, (letterless hb).key]
  rintro rfl
  rw [(spec_of_isLower hc).2] at hb
  cases hb

/-- A space in a phrase stands for white space, all of which is taken. -/
lemma strip?_space_eq_some : strip? (' ' :: p) t = some rest ↔
    ∃ b r, t = b :: r ∧ isBlank b = true ∧ strip? p (r.dropWhile isBlank) = some rest := by
  cases t with
  | nil => exact ⟨nofun, fun ⟨_, _, h, _⟩ => nomatch h⟩
  | cons b r =>
    rw [strip?, stripBy?, if_pos rfl]
    split_ifs with hb
    · exact ⟨fun h => ⟨b, r, rfl, hb, h⟩, fun ⟨_, _, h, _, hrest⟩ => by cases h; exact hrest⟩
    · exact ⟨nofun, fun ⟨_, _, h, hb', _⟩ => by cases h; exact absurd hb' hb⟩

/-- A letter in a phrase stands for itself in whatever case, and for no white space. -/
lemma strip?_letter_eq_some {c : Char} (hc : c.isLower = true) : strip? (c :: p) t = some rest ↔
    ∃ d r, t = d :: r ∧ isBlank d = false ∧ Fold.key d = c ∧ strip? p r = some rest := by
  have hne : c ≠ ' ' := by
    rintro rfl
    cases hc
  cases t with
  | nil => exact ⟨nofun, fun ⟨_, _, h, _⟩ => nomatch h⟩
  | cons d r =>
    rw [strip?, stripBy?, if_neg hne]
    split_ifs with hsame
    · have hblank : isBlank d = false := by
        by_contra hd
        rw [not_same_of_isBlank hc (by simpa using hd)] at hsame
        cases hsame
      have hkey : Fold.key d = c := ((same_iff c d).1 hsame).symm.trans (spec_of_isLower hc).1
      exact ⟨fun h => ⟨d, r, rfl, hblank, hkey, h⟩, fun ⟨_, _, h, _, _, hrest⟩ => by
        cases h; exact hrest⟩
    · refine ⟨nofun, fun ⟨_, _, h, _, hkey, _⟩ => absurd ?_ hsame⟩
      cases h
      exact (same_iff c d).2 ((spec_of_isLower hc).1.trans hkey.symm)

/-- A word of small letters covers its letters, in whatever case. -/
lemma strip?_word_eq_some (hp : ∀ c ∈ p, c.isLower = true) :
    strip? p t = some rest ↔ ∃ w, t = w ++ rest ∧ w.map Fold.key = p := by
  induction p generalizing t with
  | nil =>
    rw [strip?, stripBy?]
    simp [eq_comm]
  | cons c p ih =>
    obtain ⟨hc, hp⟩ := List.forall_mem_cons.1 hp
    rw [strip?_letter_eq_some hc]
    constructor
    · rintro ⟨d, r, rfl, -, hd, hr⟩
      obtain ⟨w, rfl, hw⟩ := (ih hp).1 hr
      exact ⟨d :: w, rfl, by rw [List.map_cons, hd, hw]⟩
    · rintro ⟨w, rfl, hw⟩
      obtain ⟨d, w, rfl, hd, hw⟩ := List.map_eq_cons_iff.1 hw
      have hblank : isBlank d = false := by
        by_contra hblank
        have hkey := (letterless (by simpa using hblank)).key
        rw [hd] at hkey
        rw [← hkey, (spec_of_isLower hc).2] at hblank
        exact hblank rfl
      exact ⟨d, w ++ rest, rfl, hblank, hd, (ih hp).2 ⟨w, rfl, hw⟩⟩

/-- No phrase begins with a character that is neither white space nor a letter of phrases. -/
lemma strip?_eq_none_of_not_letter {d : Char} {r : List Char} (hp : isPlain p = true)
    (hne : p ≠ []) (hblank : isBlank d = false) (hd : (Fold.key d).isLower = false) :
    strip? p (d :: r) = none := by
  obtain ⟨c, p, rfl⟩ := List.exists_cons_of_ne_nil hne
  rw [Option.eq_none_iff_forall_ne_some]
  intro rest h
  obtain rfl | hc := (isPlain_cons.1 hp).1
  · obtain ⟨b, r, heq, hb, -⟩ := strip?_space_eq_some.1 h
    obtain ⟨rfl, -⟩ := List.cons.inj heq
    exact absurd hb (Bool.eq_false_iff.1 hblank)
  · obtain ⟨b, r, heq, -, rfl, -⟩ := (strip?_letter_eq_some hc).1 h
    obtain ⟨rfl, -⟩ := List.cons.inj heq
    exact absurd hc (Bool.eq_false_iff.1 hd)

/-- Of two phrases that a text begins with, one is the beginning of the other. -/
lemma comparable_of_strip? {rest' : List Char} (hp : isPlain p = true) (hk : isPlain k = true)
    (h : strip? p t = some rest) (h' : strip? k t = some rest') : p <+: k ∨ k <+: p := by
  induction p generalizing k t with
  | nil => exact .inl List.nil_prefix
  | cons c p ih =>
    cases k with
    | nil => exact .inr List.nil_prefix
    | cons e k =>
      obtain ⟨hc, hp'⟩ := isPlain_cons.1 hp
      obtain ⟨he, hk'⟩ := isPlain_cons.1 hk
      rw [List.prefix_cons_iff, List.prefix_cons_iff]
      obtain rfl | hc := hc <;> obtain rfl | he := he
      · obtain ⟨b, r, rfl, -, hrest⟩ := strip?_space_eq_some.1 h
        obtain ⟨_, _, heq, -, hrest'⟩ := strip?_space_eq_some.1 h'
        cases heq
        exact (ih hp' hk' hrest hrest').imp (fun h => .inr ⟨_, rfl, h⟩) fun h => .inr ⟨_, rfl, h⟩
      · obtain ⟨b, r, rfl, hb, -⟩ := strip?_space_eq_some.1 h
        obtain ⟨_, _, heq, hb', -⟩ := (strip?_letter_eq_some he).1 h'
        cases heq
        exact absurd (hb.symm.trans hb') nofun
      · obtain ⟨b, r, rfl, hb, -⟩ := strip?_space_eq_some.1 h'
        obtain ⟨_, _, heq, hb', -⟩ := (strip?_letter_eq_some hc).1 h
        cases heq
        exact absurd (hb.symm.trans hb') nofun
      · obtain ⟨d, r, rfl, -, rfl, hrest⟩ := (strip?_letter_eq_some hc).1 h
        obtain ⟨_, _, heq, -, rfl, hrest'⟩ := (strip?_letter_eq_some he).1 h'
        cases heq
        exact (ih hp' hk' hrest hrest').imp (fun h => .inr ⟨_, rfl, h⟩) fun h => .inr ⟨_, rfl, h⟩

/-- A phrase made of two is taken off one after the other. -/
lemma stripBy?_append_phrase (p k t : List Char) :
    stripBy? eq (p ++ k) t = (stripBy? eq p t).bind (stripBy? eq k) := by
  induction p generalizing t with
  | nil => rfl
  | cons c p ih =>
    cases t with
    | nil => rfl
    | cons d t =>
      rw [List.cons_append, stripBy?, stripBy?]
      split_ifs <;> first | exact ih _ | rfl

/-- The text is the beginning of a phrase up to a space in it, and white space. -/
structure Opens (p t : List Char) : Prop where
  exists_led : ∃ led rest v, p = led ++ ' ' :: rest ∧ strip? led t = some v ∧
    ∀ c ∈ v, isBlank c = true

lemma Opens.space (h : Opens p (t.dropWhile isBlank)) {b : Char} (hb : isBlank b = true) :
    Opens (' ' :: p) (b :: t) := by
  obtain ⟨led, rest, v, rfl, hv, hblank⟩ := h
  exact ⟨' ' :: led, rest, v, rfl, strip?_space_eq_some.2 ⟨b, t, rfl, hb, hv⟩, hblank⟩

lemma Opens.letter (h : Opens p t) {c d : Char} (hc : c.isLower = true) (hd : isBlank d = false)
    (hkey : Fold.key d = c) : Opens (c :: p) (d :: t) := by
  obtain ⟨led, rest, v, rfl, hv, hblank⟩ := h
  exact ⟨c :: led, rest, v, rfl, (strip?_letter_eq_some hc).2 ⟨d, t, rfl, hd, hkey, hv⟩, hblank⟩

/-- A phrase that a text begins with when it goes on with white space stands in the text itself, or
the text opens it. -/
lemma strip?_append_cases {rest' : List Char} (hp : isPlain p = true) (hs : startsBlank s = true)
    (h : strip? p (t ++ s) = some rest') :
    (∃ rest, strip? p t = some rest ∧ rest' = rest ++ s) ∨ Opens p t := by
  induction p generalizing t with
  | nil => exact .inl ⟨t, rfl, (Option.some.inj h).symm⟩
  | cons c p ih =>
    obtain ⟨hc, hp'⟩ := isPlain_cons.1 hp
    obtain rfl | hc := hc
    · by_cases hblank : ∀ d ∈ t, isBlank d = true
      · exact .inr ⟨[], p, t, rfl, rfl, hblank⟩
      · cases t with
        | nil => exact absurd (List.forall_mem_nil _) hblank
        | cons d t =>
          rw [List.cons_append] at h
          obtain ⟨b, r, hbr, hb, hrest⟩ := strip?_space_eq_some.1 h
          obtain ⟨rfl, rfl⟩ := List.cons.inj hbr
          have hne : t.dropWhile isBlank ≠ [] := fun hnil => hblank
            (List.forall_mem_cons.2 ⟨hb, List.dropWhile_eq_nil_iff.1 hnil⟩)
          rw [dropWhile_append_of_ne_nil hne] at hrest
          obtain ⟨rest, hstrip, heq⟩ | hopens := ih hp' hrest
          · exact .inl ⟨rest, strip?_space_eq_some.2 ⟨d, t, rfl, hb, hstrip⟩, heq⟩
          · exact .inr (hopens.space hb)
    · cases t with
      | nil =>
        obtain ⟨b, u, rfl, hb⟩ := exists_of_startsBlank hs
        obtain ⟨d, r, hdr, hd, -, -⟩ := (strip?_letter_eq_some hc).1 h
        obtain ⟨rfl, -⟩ := List.cons.inj hdr
        exact absurd (hb.symm.trans hd) nofun
      | cons e t =>
        rw [List.cons_append] at h
        obtain ⟨d, r, hdr, hd, hkey, hrest⟩ := (strip?_letter_eq_some hc).1 h
        obtain ⟨rfl, rfl⟩ := List.cons.inj hdr
        obtain ⟨rest, hstrip, heq⟩ | hopens := ih hp' hrest
        · exact .inl ⟨rest, (strip?_letter_eq_some hc).2 ⟨e, t, rfl, hd, hkey, hstrip⟩, heq⟩
        · exact .inr (hopens.letter hc hd hkey)

lemma suffix_dropWhile {u : List Char} (hu : u <:+ t) (hstart : startsBlank u = false) :
    u = [] ∨ u <:+ t.dropWhile isBlank := by
  induction t with
  | nil => exact .inl (List.suffix_nil.1 hu)
  | cons c t ih =>
    cases hc : isBlank c with
    | false =>
      rw [List.dropWhile_cons_of_neg (by simp [hc])]
      exact .inr hu
    | true =>
      rw [List.dropWhile_cons_of_pos hc]
      obtain rfl | hu := List.suffix_cons_iff.1 hu
      · rw [startsBlank, List.head?_cons, Option.any_some, hc] at hstart
        cases hstart
      · exact ih hu

/-- Where a text that is a phrase and white space goes on with a word, the rest of the phrase
stands. -/
lemma exists_suffix_of_strip? (hp : isPlain p = true) (h : strip? p t = some v)
    (hv : ∀ c ∈ v, isBlank c = true) {u : List Char} (hu : u <:+ t) (hstart : startsBlank u = false)
    (hne : u ≠ []) : ∃ x, x <:+ p ∧ strip? x u = some v := by
  induction p generalizing t with
  | nil =>
    cases h
    cases u with
    | nil => exact absurd rfl hne
    | cons c u =>
      have hblank := hv c (hu.subset List.mem_cons_self)
      rw [startsBlank, List.head?_cons, Option.any_some, hblank] at hstart
      cases hstart
  | cons c p ih =>
    obtain ⟨hc, hp'⟩ := isPlain_cons.1 hp
    obtain rfl | hc := hc
    · obtain ⟨b, r, rfl, hb, hrest⟩ := strip?_space_eq_some.1 h
      have hlater := (suffix_dropWhile hu hstart).resolve_left hne
      rw [List.dropWhile_cons_of_pos hb] at hlater
      obtain ⟨x, hx, hstrip⟩ := ih hp' hrest hlater
      exact ⟨x, hx.trans (List.suffix_cons _ _), hstrip⟩
    · obtain ⟨d, r, rfl, -, -, hrest⟩ := (strip?_letter_eq_some hc).1 h
      obtain rfl | hu := List.suffix_cons_iff.1 hu
      · exact ⟨c :: p, List.suffix_rfl, h⟩
      · obtain ⟨x, hx, hstrip⟩ := ih hp' hrest hu
        exact ⟨x, hx.trans (List.suffix_cons _ _), hstrip⟩

/-- No phrase can be taken off white space, but one that is a space. -/
lemma strip?_blank (hp : isPlain p = true) (hne : p ≠ []) (ht : ∀ c ∈ t, isBlank c = true)
    (h : strip? p t = some rest) : rest = [] ∧ p = [' '] := by
  obtain ⟨c, p, rfl⟩ := List.exists_cons_of_ne_nil hne
  obtain ⟨hc, -⟩ := isPlain_cons.1 hp
  obtain rfl | hc := hc
  · obtain ⟨b, r, rfl, -, hrest⟩ := strip?_space_eq_some.1 h
    obtain ⟨-, hr⟩ := List.forall_mem_cons.1 ht
    rw [List.dropWhile_eq_nil_iff.2 hr] at hrest
    cases p with
    | nil => exact ⟨(Option.some.inj hrest).symm, rfl⟩
    | cons d p => cases hrest
  · obtain ⟨d, r, rfl, hd, -, -⟩ := (strip?_letter_eq_some hc).1 h
    exact absurd ((ht d List.mem_cons_self).symm.trans hd) nofun

/-- Behind no place of a text that opens a phrase stands another one that the phrase does not have
before a space; it may at most be there but for its last space. -/
lemma Opens.strip?_eq_some (h : Opens p t) (hp : isPlain p = true) (hk : isPlain k = true)
    (hstart : startsBlank k = false) (hne : k ≠ [])
    (hinside : ∀ led rest, p = led ++ ' ' :: rest → ¬ k <:+: led) {u : List Char} (hu : u <:+ t)
    (hstrip : strip? k u = some rest) : rest = [] ∧ k.getLast? = some ' ' := by
  obtain ⟨led, behind, v, rfl, hv, hblank⟩ := h
  have hled : isPlain led = true := by
    rw [isPlain, List.all_append, Bool.and_eq_true] at hp
    exact hp.1
  -- the phrase begins with a letter, so that the place is no white space
  have hu' : startsBlank u = false ∧ u ≠ [] := by
    obtain ⟨c, k, rfl⟩ := List.exists_cons_of_ne_nil hne
    obtain ⟨hc, -⟩ := isPlain_cons.1 hk
    obtain rfl | hc := hc
    · cases hstart
    · obtain ⟨d, r, rfl, hd, -, -⟩ := (strip?_letter_eq_some hc).1 hstrip
      exact ⟨hd, nofun⟩
  obtain ⟨x, hx, hxu⟩ := exists_suffix_of_strip? hled hv hblank hu hu'.1 hu'.2
  have hxplain : isPlain x = true := by
    rw [isPlain, List.all_eq_true] at hled ⊢
    exact fun c hc => hled c (hx.subset hc)
  obtain hfront | ⟨y, rfl⟩ := comparable_of_strip? hk hxplain hstrip hxu
  · exact absurd (hfront.isInfix.trans hx.isInfix) (hinside _ _ rfl)
  · rw [strip?, stripBy?_append_phrase] at hstrip
    rw [strip?] at hxu
    rw [hxu, Option.bind_some] at hstrip
    have hyplain : isPlain y = true := by
      rw [isPlain, List.all_append, Bool.and_eq_true] at hk
      exact hk.2
    have hy : y ≠ [] := by
      rintro rfl
      rw [List.append_nil] at hinside
      exact hinside _ _ rfl hx.isInfix
    obtain ⟨hrest, rfl⟩ := strip?_blank hyplain hy hblank hstrip
    exact ⟨hrest, List.getLast?_concat⟩

/-! ## Several phrases -/

/-- The phrases are plain and begin with a letter, none is the beginning of another one, and none
stands in another one before a space. -/
structure Distinct (ps : List (List Char)) : Prop where
  plain : ∀ p ∈ ps, isPlain p = true
  starts : ∀ p ∈ ps, startsBlank p = false ∧ p ≠ []
  unique : ∀ p ∈ ps, ∀ k ∈ ps, p <+: k → p = k
  inside : ∀ p ∈ ps, ∀ k ∈ ps, ∀ led rest, p = led ++ ' ' :: rest → ¬ k <:+: led

/-- The phrase `k` stands in `p` before a space. -/
def standsInside (k p : List Char) : Bool :=
  p.tails.any fun x => k.isPrefixOf x && (x.drop k.length).contains ' '

/-- The phrases are distinct, worked out. -/
def areDistinct (ps : List (List Char)) : Bool :=
  ps.all fun p => isPlain p && !startsBlank p && !p.isEmpty
    && ps.all fun k => (!p.isPrefixOf k || p == k) && !standsInside k p

lemma distinct_of_areDistinct {ps : List (List Char)} (h : areDistinct ps = true) : Distinct ps := by
  simp only [areDistinct, List.all_eq_true, Bool.and_eq_true, Bool.or_eq_true, Bool.not_eq_true',
    beq_iff_eq, List.isEmpty_eq_false_iff] at h
  refine ⟨fun p hp => (h p hp).1.1.1, fun p hp => ⟨(h p hp).1.1.2, (h p hp).1.2⟩, ?_, ?_⟩
  · intro p hp k hk hfront
    refine ((h p hp).2 k hk).1.resolve_left fun hnot => ?_
    rw [List.isPrefixOf_iff_prefix.2 hfront] at hnot
    cases hnot
  · rintro p hp k hk led rest rfl ⟨x, y, rfl⟩
    have hinside : standsInside k (x ++ k ++ y ++ ' ' :: rest) = true := by
      rw [standsInside, List.any_eq_true]
      refine ⟨k ++ (y ++ ' ' :: rest), (List.mem_tails _ _).2 ⟨x, by simp⟩, ?_⟩
      simp
    rw [((h _ hp).2 k hk).2] at hinside
    cases hinside

/-- A text begins with one of distinct phrases at most. -/
lemma Distinct.eq_of_strip? {ps : List (List Char)} (h : Distinct ps) (hp : p ∈ ps) (hk : k ∈ ps)
    {rest' : List Char} (hstrip : strip? p t = some rest) (hstrip' : strip? k t = some rest') :
    p = k :=
  (comparable_of_strip? (h.plain p hp) (h.plain k hk) hstrip hstrip').elim (h.unique p hp k hk)
    fun hfront => (h.unique k hk p hp hfront).symm

/-- Where a text opens one of distinct phrases, none of them stands, but for a last space. -/
lemma Distinct.strip?_of_opens {ps : List (List Char)} (h : Distinct ps) (hp : p ∈ ps) (hk : k ∈ ps)
    (hopens : Opens p t) {u : List Char} (hu : u <:+ t) (hstrip : strip? k u = some rest) :
    rest = [] ∧ k.getLast? = some ' ' :=
  hopens.strip?_eq_some (h.plain p hp) (h.plain k hk) (h.starts k hk).1 (h.starts k hk).2
    (h.inside p hp k hk) hu hstrip

/-- The first of several finds stays the first, if every find stays and nothing but it is found. -/
lemma findSome?_of_unique {α β : Type} {ks : List α} {f g : α → Option β} {k : β → β}
    (hstay : ∀ a ∈ ks, ∀ b, f a = some b → g a = some (k b))
    (hunique : ∀ a ∈ ks, ∀ a' ∈ ks, (f a).isSome = true → (g a').isSome = true → a' = a) {b : β}
    (h : ks.findSome? f = some b) : ks.findSome? g = some (k b) := by
  induction ks with
  | nil => cases h
  | cons a ks ih =>
    rw [List.findSome?_cons] at h ⊢
    cases ha : f a with
    | some b' =>
      rw [ha] at h
      obtain rfl := Option.some.inj h
      rw [hstay a List.mem_cons_self _ ha]
    | none =>
      rw [ha] at h
      have hrest := ih (fun a ha => hstay a (List.mem_cons_of_mem _ ha))
        (fun a ha a' ha' => hunique a (List.mem_cons_of_mem _ ha) a' (List.mem_cons_of_mem _ ha')) h
      obtain ⟨a', ha', hfound⟩ := List.exists_of_findSome?_eq_some h
      cases hg : g a with
      | none => exact hrest
      | some b' =>
        have heq := hunique a' (List.mem_cons_of_mem _ ha') a List.mem_cons_self
          (by rw [hfound]; rfl) (by rw [hg]; rfl)
        rw [heq, hfound] at ha
        cases ha

end QueryTutor.Text.Phrase
