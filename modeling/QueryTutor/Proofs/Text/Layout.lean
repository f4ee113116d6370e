import QueryTutor.Proofs.Text.Case

/-!
# Layout

What is left of a text when letter case of ASCII and the kind and length of white space do not
count, and how it is taken apart.
-/

namespace QueryTutor.Text

/-- Two texts differ in the case of letters of ASCII, and in the white space where both have some,
and in nothing else. -/
inductive SameButLayout : List Char → List Char → Prop where
  | nil : SameButLayout [] []
  | letter {c d x y} :
    c.toLower = d.toLower →
    SameButLayout x y →
    SameButLayout (c :: x) (d :: y)
  | space {u v x y} :
    u ≠ [] →
    v ≠ [] →
    (∀ c ∈ u, isBlank c = true) →
    (∀ c ∈ v, isBlank c = true) →
    SameButLayout x y →
    SameButLayout (u ++ x) (v ++ y)

/-- The text in small letters of ASCII, with one space for each run of white space. -/
def wording (x : List Char) : List Char :=
  (squeeze x).map Char.toLower

/-- The text begins with white space. -/
def startsBlank (x : List Char) : Bool :=
  x.head?.any isBlank

lemma wording_nil : wording [] = [] := rfl

lemma wording_cons {c : Char} (hc : isBlank c = false) (x : List Char) :
    wording (c :: x) = c.toLower :: wording x := by
  have h : squeeze (c :: x) = c :: squeeze x := by
    cases x <;> simp [squeeze, hc]
  rw [wording, h, List.map_cons, wording]

lemma trimLeft_cons {c : Char} (hc : isBlank c = true) (x : List Char) :
    trimLeft (c :: x) = trimLeft x := by
  rw [trimLeft, trimLeft, List.dropWhile_cons_of_pos hc]

lemma trimLeft_of_not_startsBlank {x : List Char} (h : startsBlank x = false) :
    trimLeft x = x := by
  cases x with
  | nil => rfl
  | cons c x => rw [trimLeft, List.dropWhile_cons_of_neg (by simpa [startsBlank] using h)]

lemma startsBlank_trimLeft (x : List Char) : startsBlank (trimLeft x) = false := by
  induction x with
  | nil => rfl
  | cons c x ih =>
    cases hc : isBlank c with
    | true => rw [trimLeft_cons hc, ih]
    | false =>
      have h : startsBlank (c :: x) = false := by simpa [startsBlank] using hc
      rw [trimLeft_of_not_startsBlank h, h]

lemma wording_cons_blank {c : Char} (hc : isBlank c = true) (x : List Char) :
    wording (c :: x) = ' ' :: wording (trimLeft x) := by
  induction x generalizing c with
  | nil =>
    rw [wording, squeeze, hc]
    rfl
  | cons d x ih =>
    cases hd : isBlank d with
    | true =>
      have h : wording (c :: d :: x) = wording (d :: x) := by
        rw [wording, squeeze, hc]
        simp only [if_true, hd, wording]
      rw [h, ih hd, trimLeft_cons hd]
    | false =>
      rw [trimLeft_of_not_startsBlank (by simpa [startsBlank] using hd), wording, squeeze, hc]
      simp only [if_true, hd]
      rfl

lemma wording_of_startsBlank {x : List Char} (h : startsBlank x = true) :
    wording x = ' ' :: wording (trimLeft x) := by
  cases x with
  | nil => cases h
  | cons c x =>
    have hc : isBlank c = true := by simpa [startsBlank] using h
    rw [wording_cons_blank hc, trimLeft_cons hc]

lemma wording_eq_nil {x : List Char} : wording x = [] ↔ x = [] := by
  cases x with
  | nil => exact ⟨fun _ => rfl, fun _ => rfl⟩
  | cons c x =>
    refine ⟨fun h => ?_, nofun⟩
    cases hc : isBlank c with
    | true =>
      rw [wording_cons_blank hc] at h
      cases h
    | false =>
      rw [wording_cons hc] at h
      cases h

lemma startsBlank_congr {x y : List Char} (h : wording x = wording y) :
    startsBlank x = startsBlank y := by
  have head : ∀ z : List Char, startsBlank z = (wording z).head?.any isBlank := by
    intro z
    cases z with
    | nil => rfl
    | cons c z =>
      cases hc : isBlank c with
      | true =>
        rw [wording_cons_blank hc, startsBlank, List.head?_cons, Option.any_some, hc]
        rfl
      | false =>
        rw [wording_cons hc, startsBlank, List.head?_cons, Option.any_some, List.head?_cons,
          Option.any_some, isBlank_toLower]
  rw [head, head, h]

lemma wording_trimLeft_congr {x y : List Char} (h : wording x = wording y) :
    wording (trimLeft x) = wording (trimLeft y) := by
  have hs := startsBlank_congr h
  cases hx : startsBlank x with
  | true =>
    have hy := hs.symm.trans hx
    rw [wording_of_startsBlank hx, wording_of_startsBlank hy] at h
    exact (List.cons.inj h).2
  | false =>
    have hy := hs.symm.trans hx
    rwa [trimLeft_of_not_startsBlank hx, trimLeft_of_not_startsBlank hy]

/-- A text with the wording of one that begins with another character than white space begins with
the same letter. -/
lemma exists_of_wording_cons {c : Char} {x y : List Char} (hc : isBlank c = false)
    (h : wording (c :: x) = wording y) :
    ∃ d z, y = d :: z ∧ c.toLower = d.toLower ∧ wording x = wording z := by
  cases y with
  | nil =>
    rw [wording_nil, wording_eq_nil] at h
    cases h
  | cons d z =>
    have hd : isBlank d = false := by
      have := startsBlank_congr h
      simpa [startsBlank, hc] using this.symm
    rw [wording_cons hc, wording_cons hd] at h
    obtain ⟨hcd, hxz⟩ := List.cons.inj h
    exact ⟨d, z, rfl, hcd, hxz⟩

lemma trimLeft_append {u : List Char} (hu : ∀ c ∈ u, isBlank c = true) (x : List Char) :
    trimLeft (u ++ x) = trimLeft x := by
  induction u with
  | nil => rfl
  | cons c u ih =>
    obtain ⟨hc, hu⟩ := List.forall_mem_cons.1 hu
    rw [List.cons_append, trimLeft_cons hc, ih hu]

lemma wording_append_blank {u : List Char} (hne : u ≠ []) (hu : ∀ c ∈ u, isBlank c = true)
    (x : List Char) : wording (u ++ x) = ' ' :: wording (trimLeft x) := by
  obtain ⟨c, u, rfl⟩ := List.exists_cons_of_ne_nil hne
  obtain ⟨hc, hu⟩ := List.forall_mem_cons.1 hu
  rw [List.cons_append, wording_cons_blank hc, trimLeft_append hu]

lemma wording_append {u : List Char} (hu : ∀ c ∈ u, isBlank c = false) (x : List Char) :
    wording (u ++ x) = u.map Char.toLower ++ wording x := by
  induction u with
  | nil => rfl
  | cons c u ih =>
    obtain ⟨hc, hu⟩ := List.forall_mem_cons.1 hu
    rw [List.cons_append, wording_cons hc, ih hu, List.map_cons, List.cons_append]

/-- Texts that differ in layout only have the same wording. -/
lemma SameButLayout.wording_eq {x y : List Char} (h : SameButLayout x y) :
    wording x = wording y := by
  induction h with
  | nil => rfl
  | @letter c d x y hcd _ ih =>
    have hb : isBlank c = isBlank d := isBlank_congr hcd
    cases hc : isBlank c with
    | true => rw [wording_cons_blank hc, wording_cons_blank (hb ▸ hc), wording_trimLeft_congr ih]
    | false => rw [wording_cons hc, wording_cons (hb ▸ hc), hcd, ih]
  | space hu hv hbu hbv _ ih =>
    rw [wording_append_blank hu hbu, wording_append_blank hv hbv, wording_trimLeft_congr ih]

/-- The white space that a text begins with, and the rest. -/
lemma exists_blank_append_trimLeft {x : List Char} (h : startsBlank x = true) :
    ∃ u, u ≠ [] ∧ (∀ c ∈ u, isBlank c = true) ∧ x = u ++ trimLeft x := by
  refine ⟨x.takeWhile isBlank, ?_, List.all_eq_true.1 List.all_takeWhile,
    List.takeWhile_append_dropWhile.symm⟩
  cases x with
  | nil => cases h
  | cons c x =>
    rw [List.takeWhile_cons_of_pos (by simpa [startsBlank] using h)]
    exact List.cons_ne_nil _ _

/-- Texts with the same wording differ in layout only. -/
lemma SameButLayout.of_wording_eq {x y : List Char} (h : wording x = wording y) :
    SameButLayout x y := by
  -- by the length of the text, since white space goes as a whole
  induction hn : x.length using Nat.strongRecOn generalizing x y with
  | ind n ih =>
    subst hn
    cases hx : startsBlank x with
    | true =>
      obtain ⟨u, hu, hbu, hxu⟩ := exists_blank_append_trimLeft hx
      obtain ⟨v, hv, hbv, hyv⟩ := exists_blank_append_trimLeft ((startsBlank_congr h).symm.trans hx)
      have hlt : (trimLeft x).length < x.length := by
        have hlen := congrArg List.length hxu
        have hpos := List.length_pos_iff.2 hu
        rw [List.length_append] at hlen
        omega
      rw [hxu, hyv]
      exact .space hu hv hbu hbv (ih _ hlt (wording_trimLeft_congr h) rfl)
    | false =>
      cases x with
      | nil =>
        rw [wording_eq_nil.1 h.symm]
        exact .nil
      | cons c x =>
        obtain ⟨d, z, rfl, hcd, hxz⟩ := exists_of_wording_cons (by simpa [startsBlank] using hx) h
        exact .letter hcd (ih _ (Nat.lt_succ_self _) hxz rfl)

lemma sameButLayout_iff {x y : List Char} : SameButLayout x y ↔ wording x = wording y :=
  ⟨SameButLayout.wording_eq, SameButLayout.of_wording_eq⟩

instance (x y : List Char) : Decidable (SameButLayout x y) :=
  decidable_of_iff _ sameButLayout_iff.symm

end QueryTutor.Text
