import QueryTutor.Proofs.Detection
import QueryTutor.Proofs.Pattern.Invariance

/-!
# The standard catalog

The patterns of the standard mistakes can be read, and are found whatever the layout of a query.
-/

namespace QueryTutor.Catalog
open Mistake.Standard

/-- The characters can be read as a pattern that ignores the layout. -/
def readable (l : List Char) : Bool :=
  match Pattern.parse l with
  | .ok p => p.ignoresLayout
  | .error _ => false

/-- The texts are the characters of the sources. -/
def Spelled (sources : List String) (texts : List (List Char)) : Prop :=
  sources.map String.toList = texts

lemma Spelled.cons {s : String} {l : List Char} {sources : List String} {texts : List (List Char)}
    (hs : s.toList = l) (h : Spelled sources texts) : Spelled (s :: sources) (l :: texts) := by
  rw [Spelled, List.map_cons, hs, h]

lemma toList_append_ofList {s : String} {l r : List Char} (hs : s.toList = l) :
    (s ++ String.ofList r).toList = l ++ r := by
  rw [String.toList_append, hs, String.toList_ofList]

/-- The characters of all patterns of the standard mistakes. -/
def standardTexts :
    { texts : List (List Char) // Spelled (standard.mistakes.flatMap (·.patterns)) texts } :=
  -- Sources are literals or made of a few: their characters are found by unification, since working
  -- them out from the text takes far longer.
  have whole : ∀ {l}, (String.ofList l).toList = l := String.toList_ofList
  have two : ∀ {l m}, (String.ofList l ++ String.ofList m).toList = l ++ m :=
    toList_append_ofList whole
  have four : ∀ {l m n r}, (String.ofList l ++ String.ofList m ++ String.ofList n
      ++ String.ofList r).toList = l ++ m ++ n ++ r :=
    toList_append_ofList (toList_append_ofList two)
  ⟨_, .cons whole <| .cons whole <| .cons whole <| .cons whole <| .cons whole <| .cons whole <|
    .cons whole <| .cons whole <| .cons whole <| .cons whole <| .cons whole <| .cons whole <|
    .cons whole <| .cons whole <| .cons whole <| .cons whole <| .cons four <| .cons whole <|
    .cons whole <| .cons whole <| .cons whole <| .cons four <| .cons whole <| .cons whole <|
    .cons two <| .cons whole <| .cons whole <| .cons whole <| .cons whole <| .cons whole <|
    .cons whole <| rfl⟩

/-- What holds of the characters of all patterns holds of each pattern of each mistake. -/
lemma forall_standard {P : List Char → Prop} (h : ∀ l ∈ standardTexts.1, P l) :
    ∀ d ∈ standard.mistakes, ∀ source ∈ d.patterns, P source.toList := by
  intro d hd source hsource
  rw [← standardTexts.2] at h
  exact h _ (List.mem_map_of_mem (List.mem_flatMap.2 ⟨d, hd, hsource⟩))

/-- All patterns of the standard mistakes can be read, and ignore the layout. -/
lemma standard_readable :
    ∀ d ∈ standard.mistakes, ∀ source ∈ d.patterns, readable source.toList = true :=
  forall_standard (P := fun l => readable l = true) (by decide +kernel)

/-- The characters can be read as a pattern that a text does not meet. -/
def misses (x l : List Char) : Bool :=
  match Pattern.parse l with
  | .ok p => !p.occurs detectionMode x
  | .error _ => false

lemma anyOccursIn_of_misses {x : List Char} {sources : List String}
    (h : ∀ source ∈ sources, misses x source.toList = true) :
    Pattern.anyOccursIn detectionMode x sources = .ok false := by
  induction sources with
  | nil => rfl
  | cons source sources ih =>
    obtain ⟨hs, hrest⟩ := List.forall_mem_cons.1 h
    rw [misses] at hs
    cases hp : Pattern.parse source.toList with
    | error e =>
      rw [hp] at hs
      cases hs
    | ok p =>
      rw [hp] at hs
      have hnot : p.occurs detectionMode x = false := by simpa using hs
      rw [Pattern.anyOccursIn, Pattern.occursIn, hp]
      simpa [Except.map, hnot, bind, Except.bind] using ih hrest

/-- Nothing is detected by mistakes none of whose patterns is met. -/
lemma detectAmong_of_misses {x : List Char} {ds : List Mistake}
    (h : ∀ d ∈ ds, ∀ source ∈ d.patterns, misses x source.toList = true) :
    detectAmong x ds = .ok [] := by
  induction ds with
  | nil => rfl
  | cons d ds ih =>
    obtain ⟨hd, hds⟩ := List.forall_mem_cons.1 h
    rw [detectAmong, anyOccursIn_of_misses hd, ih hds]
    rfl

/-- Nothing is detected in a text that meets none of the patterns. -/
lemma detect_of_misses {x : List Char} (h : ∀ l ∈ standardTexts.1, misses x l = true)
    (heuristics : Bool) (enabled : List String) : standard.detect x heuristics enabled = .ok [] := by
  have hmet := forall_standard (P := fun l => misses x l = true) h
  rw [detect]
  exact detectAmong_of_misses fun d hd => hmet d (List.mem_of_mem_filter hd)

lemma firstBadPattern?_of_readable {sources : List String}
    (h : ∀ source ∈ sources, readable source.toList = true) : firstBadPattern? sources = none := by
  refine Detection.firstBadPattern?_eq_none_iff.2 fun source hsource => ?_
  have hs := h source hsource
  cases hp : Pattern.parse source.toList with
  | ok p => rfl
  | error e =>
    rw [readable, hp] at hs
    cases hs

/-- The standard mistakes make the standard catalog. -/
lemma ofList?_standard : ofList? standard.mistakes = .ok standard := by
  have hfault : firstFault? [] standard.mistakes = none := by
    refine Detection.firstFault?_eq_none_iff.2 ⟨by decide, fun _ _ => nofun, ?_⟩
    intro d hd
    have hne : ∀ x ∈ standard.mistakes, x.patterns ≠ [] := by decide
    exact ⟨hne d hd, firstBadPattern?_of_readable (standard_readable d hd)⟩
  rw [ofList?, hfault]

/-- Any text can be searched for the standard mistakes, and those that are sought are detected
exactly if one of their patterns is met. -/
lemma exists_detect_standard (q : List Char) (heuristics : Bool) (enabled : List String) :
    ∃ ms, standard.detect q heuristics enabled = .ok ms ∧
      ∀ d ∈ standard.mistakes, isSought heuristics enabled d = true →
        (d ∈ ms ↔ Pattern.anyOccursIn detectionMode q d.patterns = .ok true) := by
  obtain ⟨ms, hms⟩ :=
    Detection.exists_of_isOk (Detection.isOk_detect ofList?_standard q heuristics enabled)
  exact ⟨ms, hms, fun d hd hsought => Detection.mem_detect_iff hd hsought hms⟩

/-- Whether one of several readable patterns occurs does not depend on the layout. -/
lemma anyOccursIn_layout {x y : List Char} (h : Text.SameButLayout x y) {sources : List String}
    (hs : ∀ source ∈ sources, readable source.toList = true) :
    ∃ b, Pattern.anyOccursIn detectionMode x sources = .ok b ∧
      Pattern.anyOccursIn detectionMode y sources = .ok b := by
  induction sources with
  | nil => exact ⟨false, rfl, rfl⟩
  | cons source sources ih =>
    obtain ⟨hsource, hrest⟩ := List.forall_mem_cons.1 hs
    obtain ⟨b, hx, hy⟩ := ih hrest
    rw [readable] at hsource
    cases hp : Pattern.parse source.toList with
    | error e =>
      rw [hp] at hsource
      cases hsource
    | ok p =>
      rw [hp] at hsource
      have step : ∀ z, Pattern.anyOccursIn detectionMode z (source :: sources)
          = if p.occurs detectionMode z then .ok true
            else Pattern.anyOccursIn detectionMode z sources := by
        intro z
        rw [Pattern.anyOccursIn, Pattern.occursIn, hp]
        rfl
      rw [step, step, Pattern.occurs_congr hsource h]
      split_ifs
      · exact ⟨true, rfl, rfl⟩
      · exact ⟨b, hx, hy⟩

/-- Detection with the standard catalog does not depend on layout or letter case: of two queries
that differ in nothing else it finds the same mistakes. -/
theorem detect_layout {x y : List Char} (h : Text.SameButLayout x y) (heuristics : Bool)
    (enabled : List String) :
    ∃ ms, standard.detect x heuristics enabled = .ok ms ∧
      standard.detect y heuristics enabled = .ok ms := by
  have among : ∀ ds : List Mistake, (∀ d ∈ ds, d ∈ standard.mistakes) →
      ∃ ms, detectAmong x ds = .ok ms ∧ detectAmong y ds = .ok ms := by
    intro ds
    induction ds with
    | nil => exact fun _ => ⟨[], rfl, rfl⟩
    | cons d ds ih =>
      intro hds
      obtain ⟨hd, hds⟩ := List.forall_mem_cons.1 hds
      obtain ⟨b, hx, hy⟩ := anyOccursIn_layout h (standard_readable d hd)
      obtain ⟨ms, hmx, hmy⟩ := ih hds
      refine ⟨if b then d :: ms else ms, ?_, ?_⟩
      · rw [detectAmong, hx, hmx]
        rfl
      · rw [detectAmong, hy, hmy]
        rfl
  exact among _ fun d hd => (List.mem_filter.1 hd).1

/-- A deletion over two lines has the mistakes of the same deletion on one line. -/
theorem detect_deletion_over_lines :
    Text.SameButLayout "DELETE FROM orders".toList "delete\n\tfrom Orders".toList ∧
      ∃ ms, standard.detect "DELETE FROM orders".toList true [] = .ok ms ∧
        standard.detect "delete\n\tfrom Orders".toList true [] = .ok ms := by
  have h : Text.SameButLayout "DELETE FROM orders".toList "delete\n\tfrom Orders".toList := by
    decide +kernel
  exact ⟨h, detect_layout h true []⟩

end QueryTutor.Catalog
