import QueryTutor.Proofs.Text.Phrase
import QueryTutor.Proofs.Text.Spacing

/-!
# Where phrases stand

A phrase that is found in a text has a place there.  The piece that it covers is the phrase in other
letter case and spacing, whatever comes behind.
-/

namespace QueryTutor.Text.Phrase

variable {p k t v w rest : List Char} {before : Option Char}

/-! ## Places -/

/-- The character before a place is the last one of what stands before it. -/
lemma getLast?_cons_or (c : Char) (u : List Char) (before : Option Char) :
    (c :: u).getLast?.or before = u.getLast?.or (some c) := by
  rw [List.getLast?_cons, Option.some_or]
  cases u.getLast? <;> rfl

/-- What is found first stands at its place. -/
lemma findFrom_eq_some {α : Type} {f : Option Char → List Char → Option α} {found : List Char}
    {a : α} (h : findFrom f before t = some (found, a)) :
    ∃ u, t = u ++ found ∧ f (u.getLast?.or before) found = some a := by
  induction t generalizing before with
  | nil =>
    rw [findFrom, Option.map_eq_some_iff] at h
    obtain ⟨a', ha, heq⟩ := h
    cases heq
    exact ⟨[], rfl, ha⟩
  | cons c t ih =>
    rw [findFrom] at h
    split at h
    case h_1 a' ha =>
      cases h
      exact ⟨[], rfl, ha⟩
    case h_2 =>
      obtain ⟨u, rfl, hu⟩ := ih h
      exact ⟨c :: u, rfl, by rw [getLast?_cons_or, hu]⟩

lemma findFrom_of_at? {α : Type} {f : Option Char → List Char → Option α} {a : α}
    (h : f before t = some a) : findFrom f before t = some (t, a) := by
  cases t <;> rw [findFrom, h]
  rfl

/-- Something is found exactly if it stands at some place. -/
lemma isSome_findFrom_iff {α : Type} {f : Option Char → List Char → Option α} :
    (findFrom f before t).isSome = true ↔
      ∃ u v, t = u ++ v ∧ (f (u.getLast?.or before) v).isSome = true := by
  constructor
  · intro h
    obtain ⟨⟨found, a⟩, ha⟩ := Option.isSome_iff_exists.1 h
    obtain ⟨u, hu, hfound⟩ := findFrom_eq_some ha
    exact ⟨u, found, hu, by rw [hfound]; rfl⟩
  · rintro ⟨u, v, rfl, h⟩
    induction u generalizing before with
    | nil =>
      obtain ⟨a, ha⟩ := Option.isSome_iff_exists.1 h
      rw [List.getLast?_nil, Option.none_or] at ha
      cases v <;> rw [List.nil_append, findFrom, ha] <;> rfl
    | cons c u ih =>
      rw [List.cons_append, findFrom]
      split
      · rfl
      · rw [getLast?_cons_or] at h
        exact ih h

lemma occurs_iff : occurs p t = true ↔
    ∃ u v, t = u ++ v ∧ (wholeAt? p u.getLast? v).isSome = true := by
  rw [occurs, find?, Option.isSome_map, isSome_findFrom_iff]
  simp only [Option.or_none]

/-- What is found at some place is found when the text goes on, if each place keeps what is found
there. -/
lemma isSome_findFrom_append {α : Type} {f : Option Char → List Char → Option α} {s : List Char}
    (h : ∀ before t, (f before t).isSome = true → (f before (t ++ s)).isSome = true)
    (hfound : (findFrom f before t).isSome = true) :
    (findFrom f before (t ++ s)).isSome = true := by
  obtain ⟨u, v, rfl, hv⟩ := isSome_findFrom_iff.1 hfound
  exact isSome_findFrom_iff.2 ⟨u, v ++ s, List.append_assoc u v s, h _ v hv⟩

/-- A phrase that stands somewhere still does when the text goes on with no word. -/
lemma occurs_append {s : List Char} (hp : p.getLast? ≠ some ' ') (hs : startsWithWord s = false)
    (h : occurs p t = true) : occurs p (t ++ s) = true := by
  rw [occurs, find?, Option.isSome_map] at h ⊢
  refine isSome_findFrom_append (fun before u hu => ?_) h
  obtain ⟨rest, hrest⟩ := Option.isSome_iff_exists.1 hu
  rw [wholeAt?_append hp hs hrest]
  rfl

/-! ## The piece that a phrase covers -/

lemma suffix_of_strip? (h : strip? p t = some rest) : rest <:+ t := by
  rw [strip?] at h
  induction p generalizing t with
  | nil =>
    cases h
    exact List.suffix_rfl
  | cons c p ih =>
    cases t with
    | nil => cases h
    | cons d t =>
      rw [stripBy?] at h
      split_ifs at h
      · exact ((ih h).trans (List.dropWhile_suffix _)).trans (List.suffix_cons d t)
      · exact (ih h).trans (List.suffix_cons d t)

/-- Behind the phrase stands what follows the piece that it covers. -/
lemma exists_cover (hp : isPlain p = true) (hend : p.getLast? ≠ some ' ')
    (h : strip? p t = some rest) : ∃ w, t = w ++ rest ∧ strip? p w = some [] := by
  induction p generalizing t with
  | nil =>
    cases h
    exact ⟨[], rfl, rfl⟩
  | cons c p ih =>
    obtain ⟨hc, hp⟩ := isPlain_cons.1 hp
    have hend' := getLast?_ne_of_cons hend
    obtain rfl | hc := hc
    · obtain ⟨b, r, rfl, hb, hrest⟩ := strip?_space_eq_some.1 h
      obtain ⟨w, hw, hcover⟩ := ih hp hend' hrest
      refine ⟨b :: (r.takeWhile isBlank ++ w), ?_, strip?_space_eq_some.2 ⟨b, _, rfl, hb, ?_⟩⟩
      · rw [List.cons_append, List.append_assoc, ← hw, List.takeWhile_append_dropWhile]
      · -- the rest of the phrase begins with a letter, so no more white space is taken
        have hstart : w.dropWhile isBlank = w := by
          cases w with
          | nil => rfl
          | cons d w =>
            have hd := List.head?_dropWhile_not isBlank r
            rw [hw, List.cons_append, List.head?_cons] at hd
            exact List.dropWhile_cons_of_neg (by simpa using hd)
        have hblank : ∀ d ∈ r.takeWhile isBlank, isBlank d = true :=
          fun _ => List.mem_takeWhile_imp
        rw [List.dropWhile_append_of_pos hblank, hstart]
        exact hcover
    · obtain ⟨d, r, rfl, hd, hkey, hrest⟩ := (strip?_letter_eq_some hc).1 h
      obtain ⟨w, rfl, hcover⟩ := ih hp hend' hrest
      exact ⟨d :: w, rfl, (strip?_letter_eq_some hc).2 ⟨d, w, rfl, hd, hkey, hcover⟩⟩

/-- The letters of what a phrase covers are those of the phrase, in some case. -/
lemma map_key_solid (hp : isPlain p = true) (h : strip? p w = some []) :
    (solid w).map Fold.key = solid p := by
  induction p generalizing w with
  | nil =>
    cases h
    rfl
  | cons c p ih =>
    obtain ⟨hc, hp'⟩ := isPlain_cons.1 hp
    obtain rfl | hc := hc
    · obtain ⟨b, r, rfl, hb, hrest⟩ := strip?_space_eq_some.1 h
      have hdrop : solid (r.dropWhile isBlank) = solid r := solid_trimLeft r
      rw [solid_cons_blank hb, solid_cons_blank (by decide), ← ih hp' hrest, hdrop]
    · obtain ⟨d, r, rfl, hd, rfl, hrest⟩ := (strip?_letter_eq_some hc).1 h
      rw [solid_cons hd, List.map_cons, ih hp' hrest, solid_cons (spec_of_isLower hc).2]

/-- A phrase covers nothing but its letters and white space. -/
lemma isBlank_or_isLower_key (hp : isPlain p = true) (h : strip? p w = some []) {c : Char}
    (hc : c ∈ w) : isBlank c = true ∨ (Fold.key c).isLower = true := by
  by_cases hblank : isBlank c = true
  · exact .inl hblank
  · have hmem : Fold.key c ∈ solid p := by
      rw [← map_key_solid hp h]
      exact List.mem_map_of_mem (List.mem_filter.2 ⟨hc, by simpa using hblank⟩)
    obtain ⟨hin, hsolid⟩ := List.mem_filter.1 hmem
    have hplain := List.all_eq_true.1 hp _ hin
    rw [Bool.or_eq_true, beq_iff_eq] at hplain
    refine .inr (hplain.resolve_left fun hspace => ?_)
    rw [hspace] at hsolid
    exact absurd hsolid (by decide)

/-- What a phrase covers begins with a letter if the phrase does. -/
lemma startsBlank_cover (hp : isPlain p = true) (hstart : startsBlank p = false) (hne : p ≠ [])
    (h : strip? p w = some []) : startsBlank w = false ∧ w ≠ [] := by
  obtain ⟨c, p, rfl⟩ := List.exists_cons_of_ne_nil hne
  obtain ⟨rfl | hc, -⟩ := isPlain_cons.1 hp
  · cases hstart
  · obtain ⟨d, r, rfl, hd, -, -⟩ := (strip?_letter_eq_some hc).1 h
    exact ⟨hd, nofun⟩

/-- What a phrase covers ends with a letter if the phrase does. -/
lemma isBlank_getLast?_cover (hp : isPlain p = true) (hend : p.getLast? ≠ some ' ')
    (h : strip? p w = some []) : ∀ c ∈ w.getLast?, isBlank c = false := by
  rcases List.eq_nil_or_concat p with rfl | ⟨p, e, rfl⟩
  · cases h
    exact nofun
  · rw [List.concat_eq_append] at h hp hend
    rw [strip?, stripBy?_append_phrase, Option.bind_eq_some_iff] at h
    obtain ⟨t, ht, hlast⟩ := h
    rw [isPlain, List.all_append, Bool.and_eq_true] at hp
    obtain ⟨he | he, -⟩ := isPlain_cons.1 hp.2
    · exact absurd (by rw [he, List.getLast?_concat]) hend
    · obtain ⟨d, r, rfl, hd, -, hr⟩ := (strip?_letter_eq_some he).1 hlast
      obtain rfl : r = [] := Option.some.inj hr
      obtain ⟨u, rfl⟩ := suffix_of_strip? ht
      rw [List.getLast?_concat]
      rintro c ⟨⟩
      exact hd

/-! ## Whole words -/

/-- The piece that a phrase covers is the whole phrase wherever no word goes on. -/
lemma wholeAt?_cover (hend : p.getLast? ≠ some ' ') (h : strip? p w = some [])
    (hbefore : continuesWord before = false) (hv : startsWithWord v = false) :
    wholeAt? p before (w ++ v) = some v :=
  wholeAt?_eq_some.2 ⟨hbefore, stripBy?_append h (.inr hend) v, hv⟩

/-- Where a phrase stands that ends with the words of another one, that one stands. -/
lemma exists_wholeAt?_of_suffix {led : List Char} (hled : led = [] ∨ led.getLast? = some ' ')
    (h : wholeAt? (led ++ k) before t = some rest) :
    ∃ u v, t = u ++ v ∧ wholeAt? k (u.getLast?.or before) v = some rest := by
  obtain rfl | hled := hled
  · exact ⟨[], t, rfl, h⟩
  · obtain ⟨led, rfl⟩ := List.getLast?_eq_some_iff.1 hled
    obtain ⟨-, hstrip, hrest⟩ := wholeAt?_eq_some.1 h
    simp only [strip?, stripBy?_append_phrase, Option.bind_eq_some_iff] at hstrip
    obtain ⟨v, ⟨t', ht', hspace⟩, hk⟩ := hstrip
    obtain ⟨b, r, rfl, hb, hv⟩ := strip?_space_eq_some.1 hspace
    obtain rfl : r.dropWhile isBlank = v := Option.some.inj hv
    obtain ⟨u, rfl⟩ := suffix_of_strip? ht'
    refine ⟨u ++ b :: r.takeWhile isBlank, r.dropWhile isBlank, ?_, ?_⟩
    · rw [List.append_assoc, List.cons_append, List.takeWhile_append_dropWhile]
    · refine wholeAt?_eq_some.2 ⟨?_, hk, hrest⟩
      -- white space stands before the other phrase
      obtain ⟨c, hc⟩ : ∃ c, (u ++ b :: r.takeWhile isBlank).getLast? = some c :=
        Option.isSome_iff_exists.1 (by simp)
      have hblank : isBlank c = true := by
        rw [List.getLast?_append_of_ne_nil _ (List.cons_ne_nil _ _)] at hc
        obtain rfl | hmem := List.mem_cons.1 (List.mem_of_getLast? hc)
        · exact hb
        · exact List.mem_takeWhile_imp hmem
      rw [hc]
      exact (letterless hblank).isWord

end QueryTutor.Text.Phrase
