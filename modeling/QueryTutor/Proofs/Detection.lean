import Mathlib.Data.List.Perm.Subperm
import Mathlib.Tactic.Common
import QueryTutor.Check.Forbidden

/-!
# Detection

Which mistakes and forbidden patterns are found, and how this depends on where they are looked for.
-/

namespace QueryTutor.Detection

variable {α ε : Type}

/-- The items on which a test succeeds, unless there is one on which it cannot be carried out. -/
def sieve (test : α → Except ε Bool) : List α → Except ε (List α)
  | [] => .ok []
  | a :: as => do
    let met ← test a
    let rest ← sieve test as
    return if met then a :: rest else rest

/-- The test has been carried out and succeeds. -/
def succeeds : Except ε Bool → Bool
  | .ok b => b
  | .error _ => false

lemma exists_of_isOk {x : Except ε α} (h : x.isOk = true) : ∃ a, x = .ok a := by
  cases x with
  | ok a => exact ⟨a, rfl⟩
  | error e => cases h

/-- A sieve holds back nothing but the items on which the test fails. -/
lemma sieve_eq_ok_iff {test : α → Except ε Bool} {as rs : List α} :
    sieve test as = .ok rs ↔
      (∀ a ∈ as, (test a).isOk = true) ∧ rs = as.filter (fun a => succeeds (test a)) := by
  induction as generalizing rs with
  | nil => exact ⟨fun h => ⟨by simp, (Except.ok.inj h).symm⟩, fun h => h.2 ▸ rfl⟩
  | cons a as ih =>
    rw [List.forall_mem_cons, List.filter_cons, sieve]
    cases ht : test a with
    | error e => simp [bind, Except.bind, Except.isOk, Except.toBool]
    | ok b =>
      cases hs : sieve test as with
      | error e =>
        -- an error further on means that some test there cannot be carried out
        have hne : ¬ ∀ x ∈ as, (test x).isOk = true := fun h => by
          rw [ih.2 ⟨h, rfl⟩] at hs
          cases hs
        simp [bind, Except.bind, hne]
      | ok rest =>
        obtain ⟨hall, rfl⟩ := ih.1 hs
        simp only [bind, Except.bind, pure, Except.pure, Except.ok.injEq, succeeds]
        constructor
        · rintro rfl
          exact ⟨⟨rfl, hall⟩, rfl⟩
        · rintro ⟨-, rfl⟩
          rfl

/-- A sieve that goes through on more items goes through on fewer, and holds back no more of them.
-/
lemma sieve_sublist {test : α → Except ε Bool} {as bs rs : List α} (h : as.Sublist bs)
    (hb : sieve test bs = .ok rs) : ∃ rs', sieve test as = .ok rs' ∧ rs'.Sublist rs := by
  obtain ⟨hall, rfl⟩ := sieve_eq_ok_iff.1 hb
  exact ⟨_, sieve_eq_ok_iff.2 ⟨fun a ha => hall a (h.subset ha), rfl⟩, h.filter _⟩

/-- The same without regard to the order of the items. -/
lemma sieve_subperm {test : α → Except ε Bool} {as bs rs : List α} (h : as.Subperm bs)
    (hb : sieve test bs = .ok rs) : ∃ rs', sieve test as = .ok rs' ∧ rs'.length ≤ rs.length := by
  obtain ⟨hall, rfl⟩ := sieve_eq_ok_iff.1 hb
  exact ⟨_, sieve_eq_ok_iff.2 ⟨fun a ha => hall a (h.subset ha), rfl⟩, (h.filter _).length_le⟩

/-- Tests that come to the same on all items hold back the same. -/
lemma sieve_congr {test test' : α → Except ε Bool} {as : List α} (h : ∀ a ∈ as, test a = test' a) :
    sieve test as = sieve test' as := by
  induction as with
  | nil => rfl
  | cons a as ih =>
    obtain ⟨ha, has⟩ := List.forall_mem_cons.1 h
    rw [sieve, sieve, ha, ih has]

/-- A sieve goes through exactly if all tests can be carried out. -/
lemma isOk_sieve {test : α → Except ε Bool} {as : List α} :
    (sieve test as).isOk = true ↔ ∀ a ∈ as, (test a).isOk = true := by
  cases h : sieve test as with
  | ok rs => exact iff_of_true rfl (sieve_eq_ok_iff.1 h).1
  | error e =>
    refine iff_of_false Bool.false_ne_true fun hall => ?_
    rw [sieve_eq_ok_iff.2 ⟨hall, rfl⟩] at h
    cases h

lemma detectAmong_eq (q : List Char) (ds : List Mistake) :
    Catalog.detectAmong q ds
      = sieve (fun d => Pattern.anyOccursIn detectionMode q d.patterns) ds := by
  induction ds with
  | nil => rfl
  | cons d ds ih => rw [Catalog.detectAmong, sieve, ih]

lemma metAmong_eq (q : List Char) (sources : List String) :
    Check.metAmong q sources
      = sieve (fun source => Pattern.occursIn source detectionMode q) sources := by
  induction sources with
  | nil => rfl
  | cons source sources ih => rw [Check.metAmong, sieve, ih]

/-- What is detected stands in the catalog, in this order. -/
lemma detect_sublist {c : Catalog} {q : List Char} {heuristics : Bool} {enabled : List String}
    {ms : List Mistake} (h : c.detect q heuristics enabled = .ok ms) : ms.Sublist c.mistakes := by
  rw [Catalog.detect, detectAmong_eq] at h
  obtain ⟨-, rfl⟩ := sieve_eq_ok_iff.1 h
  exact List.filter_sublist.trans List.filter_sublist

/-- A mistake that is sought is detected exactly if one of its patterns is met. -/
lemma mem_detect_iff {c : Catalog} {d : Mistake} {q : List Char} {heuristics : Bool}
    {enabled : List String} {ms : List Mistake} (hd : d ∈ c.mistakes)
    (hsought : Catalog.isSought heuristics enabled d = true)
    (h : c.detect q heuristics enabled = .ok ms) :
    d ∈ ms ↔ Pattern.anyOccursIn detectionMode q d.patterns = .ok true := by
  rw [Catalog.detect, detectAmong_eq] at h
  obtain ⟨-, rfl⟩ := sieve_eq_ok_iff.1 h
  rw [List.mem_filter, List.mem_filter, and_iff_right ⟨hd, hsought⟩]
  cases Pattern.anyOccursIn detectionMode q d.patterns with
  | ok b => exact ⟨congrArg Except.ok, Except.ok.inj⟩
  | error e => exact ⟨nofun, nofun⟩

/-- The mistake is sought on the second terms if it is on the first. -/
lemma isSought_mono {heuristics heuristics' : Bool} {enabled enabled' : List String}
    (hh : heuristics = true → heuristics' = true) (he : enabled ⊆ enabled') (d : Mistake)
    (h : Catalog.isSought heuristics enabled d = true) :
    Catalog.isSought heuristics' enabled' d = true := by
  simp only [Catalog.isSought, Bool.or_eq_true, Bool.not_eq_eq_eq_not, Bool.not_true,
    List.contains_iff_mem] at h ⊢
  obtain (h | h) | h := h
  · exact .inl (.inl h)
  · exact .inl (.inr (hh h))
  · exact .inr (he h)

/-- A larger catalog, searched for more, finds more. -/
lemma detect_mono {c c' : Catalog} {q : List Char} {heuristics heuristics' : Bool}
    {enabled enabled' : List String} {ms : List Mistake} (hc : c.mistakes.Sublist c'.mistakes)
    (hh : heuristics = true → heuristics' = true) (he : enabled ⊆ enabled')
    (h : c'.detect q heuristics' enabled' = .ok ms) :
    ∃ ms', c.detect q heuristics enabled = .ok ms' ∧ ms'.Sublist ms := by
  rw [Catalog.detect, detectAmong_eq] at h ⊢
  apply sieve_sublist _ h
  exact (List.monotone_filter_right c.mistakes (isSought_mono hh he)).trans (hc.filter _)

/-- A mistake is put behind others if its name is new and all of its patterns can be read. -/
lemma faultOf_eq_none_iff {known : List String} {d : Mistake} :
    Catalog.faultOf known d = none ↔
      d.id ∉ known ∧ d.patterns ≠ [] ∧ Catalog.firstBadPattern? d.patterns = none := by
  rw [Catalog.faultOf]
  split_ifs with hk hp
  · exact ⟨nofun, fun h => absurd (List.contains_iff_mem.1 hk) h.1⟩
  · exact ⟨nofun, fun h => absurd (List.isEmpty_iff.1 hp) h.2.1⟩
  · rw [Option.map_eq_none_iff]
    rw [List.contains_iff_mem] at hk
    rw [List.isEmpty_iff] at hp
    exact ⟨fun h => ⟨hk, hp, h⟩, fun h => h.2.2⟩

lemma isOk_occursIn (source : String) (m : Pattern.Mode) (q : List Char) :
    (Pattern.occursIn source m q).isOk = (Pattern.parse source.toList).isOk := by
  rw [Pattern.occursIn]
  cases Pattern.parse source.toList <;> rfl

lemma firstBadPattern?_eq_none_iff {sources : List String} :
    Catalog.firstBadPattern? sources = none ↔
      ∀ source ∈ sources, (Pattern.parse source.toList).isOk = true := by
  induction sources with
  | nil => exact iff_of_true rfl (List.forall_mem_nil _)
  | cons source sources ih =>
    rw [Catalog.firstBadPattern?, List.forall_mem_cons, ← ih]
    cases Pattern.parse source.toList with
    | ok p => exact (and_iff_right rfl).symm
    | error e => exact ⟨nofun, fun h => absurd h.1 Bool.false_ne_true⟩

/-- Patterns that can be read are searched for in every text. -/
lemma isOk_anyOccursIn {sources : List String} (h : Catalog.firstBadPattern? sources = none)
    (m : Pattern.Mode) (q : List Char) : (Pattern.anyOccursIn m q sources).isOk = true := by
  rw [firstBadPattern?_eq_none_iff] at h
  induction sources with
  | nil => rfl
  | cons source sources ih =>
    obtain ⟨hsource, hrest⟩ := List.forall_mem_cons.1 h
    rw [← isOk_occursIn source m q] at hsource
    rw [Pattern.anyOccursIn]
    cases hmet : Pattern.occursIn source m q with
    | error e =>
      rw [hmet] at hsource
      cases hsource
    | ok met =>
      cases met with
      | true => rfl
      | false => exact ih hrest

/-- The patterns that are met are found exactly if all patterns can be read. -/
lemma isOk_metAmong {sources : List String} (q : List Char) :
    (Check.metAmong q sources).isOk = true ↔ Catalog.firstBadPattern? sources = none := by
  rw [metAmong_eq, isOk_sieve, firstBadPattern?_eq_none_iff]
  simp only [isOk_occursIn]

/-- Mistakes make a catalog if their names differ, from each other and from those known, and all of
their patterns can be read. -/
lemma firstFault?_eq_none_iff {ds : List Mistake} {known : List String} :
    Catalog.firstFault? known ds = none ↔
      (ds.map (·.id)).Nodup ∧ (∀ d ∈ ds, d.id ∉ known) ∧
        ∀ d ∈ ds, d.patterns ≠ [] ∧ Catalog.firstBadPattern? d.patterns = none := by
  induction ds generalizing known with
  | nil => exact ⟨fun _ => ⟨.nil, by simp, by simp⟩, fun _ => rfl⟩
  | cons d ds ih =>
    rw [Catalog.firstFault?, Option.or_eq_none_iff, faultOf_eq_none_iff, ih, List.map_cons,
      List.nodup_cons, List.forall_mem_cons, List.forall_mem_cons]
    -- a name is new behind `d` if it differs from that of `d` and is not known
    have hnew : (∀ x ∈ ds, x.id ∉ d.id :: known) ↔
        d.id ∉ ds.map (·.id) ∧ ∀ x ∈ ds, x.id ∉ known := by
      constructor
      · intro h
        refine ⟨fun hmem => ?_, fun x hx hk => h x hx (List.mem_cons_of_mem _ hk)⟩
        obtain ⟨x, hx, hid⟩ := List.mem_map.1 hmem
        exact h x hx (hid ▸ List.mem_cons_self)
      · rintro ⟨hd, hk⟩ x hx hmem
        obtain heq | hmem := List.mem_cons.1 hmem
        · exact hd (heq ▸ List.mem_map_of_mem hx)
        · exact hk x hx hmem
    rw [hnew]
    tauto

/-- A catalog that has been made of mistakes holds them, under different names. -/
lemma ofList?_eq_ok {ds : List Mistake} {c : Catalog} (h : Catalog.ofList? ds = .ok c) :
    c.mistakes = ds ∧ c.ids.Nodup := by
  rw [Catalog.ofList?] at h
  split at h
  · cases h
  · rename_i hfault
    cases h
    exact ⟨rfl, (firstFault?_eq_none_iff.1 hfault).1⟩

/-- A catalog that has been made of mistakes can be searched for in every text. -/
lemma isOk_detect {ds : List Mistake} {c : Catalog} (h : Catalog.ofList? ds = .ok c) (q : List Char)
    (heuristics : Bool) (enabled : List String) : (c.detect q heuristics enabled).isOk = true := by
  rw [Catalog.ofList?] at h
  split at h
  · cases h
  · rename_i hfault
    cases h
    obtain ⟨-, -, hreadable⟩ := firstFault?_eq_none_iff.1 hfault
    rw [Catalog.detect, detectAmong_eq, isOk_sieve]
    exact fun d hd => isOk_anyOccursIn (hreadable d (List.mem_of_mem_filter hd)).2 _ _

end QueryTutor.Detection
