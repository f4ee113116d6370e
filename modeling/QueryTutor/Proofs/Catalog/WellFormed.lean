import Mathlib.Data.List.Nodup
import QueryTutor.Proofs.Catalog.Standard

/-!
# Well-formed catalogs

Mistakes make a catalog exactly if they are well formed, and are otherwise refused for the first of
them that breaks a rule.  All that can be asked of a catalog agrees with the mistakes it is made of.
-/

namespace QueryTutor.Catalog

variable {ds : List Mistake} {c : Catalog}

/-- The pattern can be read. -/
def IsReadable (source : String) : Prop :=
  ∃ p, Pattern.parse source.toList = .ok p

/-- The mistakes keep the rules of a catalog. -/
structure WellFormed (ds : List Mistake) : Prop where
  distinct : (ds.map (·.id)).Nodup
  nonempty : ∀ d ∈ ds, d.patterns ≠ []
  readable : ∀ d ∈ ds, ∀ source ∈ d.patterns, IsReadable source

/-- The mistake breaks a rule behind others with the names `known`, and `e` tells of the first rule
that it breaks: its name is taken, it has no patterns, or a pattern of it cannot be read. -/
inductive Breaks (known : List String) (d : Mistake) : Error → Prop
  | duplicate (taken : d.id ∈ known) : Breaks known d (.duplicate d.id)
  | noPatterns (new : d.id ∉ known) (none : d.patterns = []) : Breaks known d (.noPatterns d.id)
  | badPattern {good rest : List String} {source : String} {cause : Pattern.Error}
      (new : d.id ∉ known) (patterns : d.patterns = good ++ source :: rest)
      (readable : ∀ s ∈ good, IsReadable s)
      (bad : Pattern.parse source.toList = .error cause) :
      Breaks known d (.badPattern d.id source cause)

/-- The error tells of the first mistake that breaks a rule behind those before it. -/
def TellsFirst (ds : List Mistake) (e : Error) : Prop :=
  ∃ before d after, ds = before ++ d :: after ∧ WellFormed before ∧ Breaks (before.map (·.id)) d e

/-- The lists are a partition of the whole: each keeps its order, and together they hold each item
as often as it does. -/
def Partition (whole : List Mistake) (parts : List (List Mistake)) : Prop :=
  (∀ part ∈ parts, part.Sublist whole) ∧ parts.flatten.Perm whole

/-- All that can be asked of the catalog agrees with the mistakes. -/
structure Shows (c : Catalog) (ds : List Mistake) : Prop where
  mistakes : c.mistakes = ds
  ids : c.ids = ds.map (·.id)
  size : c.size = ds.length
  get?_eq_some_iff : ∀ id d, c.get? id = some d ↔ d ∈ ds ∧ d.id = id
  get?_eq_none_iff : ∀ id, c.get? id = none ↔ id ∉ c.ids
  contains_iff : ∀ id, c.contains id = true ↔ ∃ d, c.get? id = some d
  /-- A table that takes in one mistake after another, the later in place of the earlier. -/
  table : ∀ id, (Std.HashMap.ofList (ds.map fun d => (d.id, d)))[id]? = c.get? id
  byCategory : Partition ds (Category.all.map c.byCategory)
  mem_byCategory_iff : ∀ k d, d ∈ c.byCategory k ↔ d ∈ ds ∧ d.category = k
  bySeverity : Partition ds (Severity.all.map c.bySeverity)
  mem_bySeverity_iff : ∀ s d, d ∈ c.bySeverity s ↔ d ∈ ds ∧ d.severity = s

/-! ## What a catalog is made of -/

lemma isReadable_iff {source : String} :
    IsReadable source ↔ (Pattern.parse source.toList).isOk = true := by
  rw [IsReadable]
  cases Pattern.parse source.toList with
  | ok p => exact iff_of_true ⟨p, rfl⟩ rfl
  | error e => exact iff_of_false (fun ⟨p, hp⟩ => nomatch hp) Bool.false_ne_true

lemma firstFault?_eq_none_iff_wellFormed : firstFault? [] ds = none ↔ WellFormed ds := by
  rw [Detection.firstFault?_eq_none_iff]
  simp only [Detection.firstBadPattern?_eq_none_iff, ← isReadable_iff]
  constructor
  · rintro ⟨hids, -, hds⟩
    exact ⟨hids, fun d hd => (hds d hd).1, fun d hd => (hds d hd).2⟩
  · rintro ⟨hids, hne, hread⟩
    exact ⟨hids, fun _ _ => List.not_mem_nil, fun d hd => ⟨hne d hd, hread d hd⟩⟩

/-- Mistakes make a catalog, namely that of them all, exactly if they keep its rules. -/
lemma ofList?_eq_ok_iff : ofList? ds = .ok c ↔ WellFormed ds ∧ c = ⟨ds⟩ := by
  rw [ofList?, ← firstFault?_eq_none_iff_wellFormed]
  cases firstFault? [] ds with
  | none =>
    constructor
    · rintro ⟨rfl⟩
      exact ⟨rfl, rfl⟩
    · rintro ⟨-, rfl⟩
      rfl
  | some e =>
    constructor
    · rintro ⟨⟩
    · rintro ⟨⟨⟩, -⟩

/-! ## The first mistake that breaks a rule -/

/-- The first of the patterns that cannot be read is told with all before it readable. -/
lemma firstBadPattern?_eq_some_iff {sources : List String} {source : String}
    {cause : Pattern.Error} :
    firstBadPattern? sources = some (source, cause) ↔
      ∃ good rest, sources = good ++ source :: rest ∧ (∀ s ∈ good, IsReadable s) ∧
        Pattern.parse source.toList = .error cause := by
  induction sources with
  | nil => simp [firstBadPattern?]
  | cons s sources ih =>
    rw [firstBadPattern?]
    cases hs : Pattern.parse s.toList with
    | ok p =>
      simp only [ih]
      constructor
      · rintro ⟨good, rest, rfl, hgood, hbad⟩
        exact ⟨s :: good, rest, rfl, List.forall_mem_cons.2 ⟨⟨p, hs⟩, hgood⟩, hbad⟩
      · rintro ⟨good, rest, heq, hgood, hbad⟩
        obtain ⟨rfl, h⟩ | ⟨g, rfl, h⟩ := List.cons_eq_append_iff.1 heq
        · cases h
          rw [hs] at hbad
          cases hbad
        · exact ⟨g, rest, h, (List.forall_mem_cons.1 hgood).2, hbad⟩
    | error e =>
      simp only [Option.some.injEq, Prod.mk.injEq]
      constructor
      · rintro ⟨rfl, rfl⟩
        exact ⟨[], sources, rfl, List.forall_mem_nil _, hs⟩
      · rintro ⟨good, rest, heq, hgood, hbad⟩
        obtain ⟨rfl, h⟩ | ⟨g, rfl, h⟩ := List.cons_eq_append_iff.1 heq
        · cases h
          rw [hs] at hbad
          exact ⟨rfl, Except.error.inj hbad⟩
        · obtain ⟨p, hp⟩ := (List.forall_mem_cons.1 hgood).1
          rw [hs] at hp
          cases hp

lemma faultOf_eq_some_iff {known : List String} {d : Mistake} {e : Error} :
    faultOf known d = some e ↔ Breaks known d e := by
  rw [faultOf]
  split_ifs with hk hp
  · rw [List.contains_iff_mem] at hk
    constructor
    · rintro ⟨rfl⟩
      exact .duplicate hk
    · rintro (_ | ⟨new, _⟩ | ⟨new, _, _, _⟩)
      · rfl
      · exact absurd hk new
      · exact absurd hk new
  · rw [List.contains_iff_mem] at hk
    rw [List.isEmpty_iff] at hp
    constructor
    · rintro ⟨rfl⟩
      exact .noPatterns hk hp
    · rintro (taken | _ | ⟨_, patterns, _, _⟩)
      · exact absurd taken hk
      · rfl
      · rw [hp] at patterns
        exact absurd patterns (List.append_ne_nil_of_right_ne_nil _ (List.cons_ne_nil _ _)).symm
  · rw [List.contains_iff_mem] at hk
    rw [List.isEmpty_iff] at hp
    rw [Option.map_eq_some_iff]
    constructor
    · rintro ⟨⟨source, cause⟩, hbad, rfl⟩
      obtain ⟨good, rest, patterns, readable, bad⟩ := firstBadPattern?_eq_some_iff.1 hbad
      exact .badPattern hk patterns readable bad
    · rintro (taken | ⟨_, none⟩ | ⟨_, patterns, readable, bad⟩)
      · exact absurd taken hk
      · exact absurd none hp
      · exact ⟨_, firstBadPattern?_eq_some_iff.2 ⟨_, _, patterns, readable, bad⟩, rfl⟩

/-- The first fault of mistakes behind others is that of a mistake with no fault before it. -/
lemma firstFault?_eq_some_iff {known : List String} {e : Error} :
    firstFault? known ds = some e ↔
      ∃ before d after, ds = before ++ d :: after ∧ firstFault? known before = none ∧
        faultOf ((before.map (·.id)).reverse ++ known) d = some e := by
  induction ds generalizing known with
  | nil => simp [firstFault?]
  | cons d ds ih =>
    rw [firstFault?, Option.or_eq_some_iff, ih]
    constructor
    · rintro (h | ⟨hd, before, x, after, rfl, hbefore, hx⟩)
      · exact ⟨[], d, ds, rfl, rfl, h⟩
      · refine ⟨d :: before, x, after, rfl, ?_, ?_⟩
        · rw [firstFault?, hd, hbefore]
          rfl
        · rwa [List.map_cons, List.reverse_cons, List.append_assoc]
    · rintro ⟨before, x, after, heq, hbefore, hx⟩
      obtain ⟨rfl, h⟩ | ⟨b, rfl, h⟩ := List.cons_eq_append_iff.1 heq
      · cases h
        exact .inl hx
      · rw [firstFault?, Option.or_eq_none_iff] at hbefore
        rw [List.map_cons, List.reverse_cons, List.append_assoc] at hx
        exact .inr ⟨hbefore.1, b, x, after, h, hbefore.2, hx⟩

/-- Which names are known matters, not in which order. -/
lemma Breaks.of_mem_iff {known known' : List String} (h : ∀ id, id ∈ known ↔ id ∈ known')
    {d : Mistake} {e : Error} (hd : Breaks known d e) : Breaks known' d e := by
  cases hd with
  | duplicate taken => exact .duplicate ((h _).1 taken)
  | noPatterns new none => exact .noPatterns (fun hid => new ((h _).2 hid)) none
  | badPattern new patterns readable bad =>
    exact .badPattern (fun hid => new ((h _).2 hid)) patterns readable bad

lemma ofList?_eq_error_iff {e : Error} : ofList? ds = .error e ↔ TellsFirst ds e := by
  have hfault : ofList? ds = .error e ↔ firstFault? [] ds = some e := by
    rw [ofList?]
    cases firstFault? [] ds with
    | none =>
      constructor <;> rintro ⟨⟩
    | some e' => rw [Except.error.injEq, Option.some.injEq]
  rw [hfault, firstFault?_eq_some_iff, TellsFirst]
  simp only [faultOf_eq_some_iff, firstFault?_eq_none_iff_wellFormed, List.append_nil]
  have hmem : ∀ (before : List Mistake) id,
      id ∈ (before.map (·.id)).reverse ↔ id ∈ before.map (·.id) := fun _ _ => List.mem_reverse
  constructor
  · rintro ⟨before, d, after, heq, hbefore, hd⟩
    exact ⟨before, d, after, heq, hbefore, hd.of_mem_iff (hmem before)⟩
  · rintro ⟨before, d, after, heq, hbefore, hd⟩
    exact ⟨before, d, after, heq, hbefore, hd.of_mem_iff fun id => (hmem before id).symm⟩

/-! ## Views -/

/-- Of mistakes with different names, the one of a name is found. -/
lemma find?_id_eq_some_iff (hids : (ds.map (·.id)).Nodup) {id : String} {d : Mistake} :
    ds.find? (·.id == id) = some d ↔ d ∈ ds ∧ d.id = id := by
  constructor
  · intro h
    have hid := List.find?_some h
    exact ⟨List.mem_of_find?_eq_some h, beq_iff_eq.1 hid⟩
  · rintro ⟨hd, rfl⟩
    cases h : ds.find? (·.id == d.id) with
    | none => exact absurd (BEq.refl d.id) (List.find?_eq_none.1 h d hd)
    | some x =>
      have hid := List.find?_some h
      rw [List.inj_on_of_nodup_map hids (List.mem_of_find?_eq_some h) hd (beq_iff_eq.1 hid)]

lemma find?_id_eq_none_iff {id : String} :
    ds.find? (·.id == id) = none ↔ id ∉ ds.map (·.id) := by
  simp only [List.find?_eq_none, beq_iff_eq, List.mem_map, not_exists, not_and]

lemma getElem?_table (hids : (ds.map (·.id)).Nodup) (id : String) :
    (Std.HashMap.ofList (ds.map fun d => (d.id, d)))[id]? = ds.find? (·.id == id) := by
  cases hfind : ds.find? (·.id == id) with
  | some d =>
    obtain ⟨hd, rfl⟩ := (find?_id_eq_some_iff hids).1 hfind
    refine Std.HashMap.getElem?_ofList_of_mem (BEq.refl _) ?_ (List.mem_map_of_mem hd)
    rw [List.pairwise_map]
    refine (List.pairwise_map.1 hids).imp fun hne => ?_
    exact beq_eq_false_iff_ne.2 hne
  | none =>
    refine Std.HashMap.getElem?_ofList_of_contains_eq_false ?_
    rw [← Bool.not_eq_true, List.contains_iff_mem, List.map_map]
    exact find?_id_eq_none_iff.1 hfind

/-- The items of each key, one key after another, are all items. -/
lemma flatMap_filter_perm {κ : Type} [BEq κ] [LawfulBEq κ] (key : Mistake → κ) {keys : List κ}
    (hkeys : keys.Nodup) {ds : List Mistake} (hall : ∀ d ∈ ds, key d ∈ keys) :
    (keys.flatMap fun k => ds.filter (key · == k)).Perm ds := by
  induction keys generalizing ds with
  | nil =>
    rw [List.eq_nil_iff_forall_not_mem.2 fun d hd => nomatch hall d hd]
    exact .nil
  | cons k keys ih =>
    obtain ⟨hk, hkeys⟩ := List.nodup_cons.1 hkeys
    -- the items of the other keys are the same among those that are not of the first key
    have hothers : (keys.flatMap fun k' => ds.filter (key · == k'))
        = keys.flatMap fun k' => (ds.filter fun d => !(key d == k)).filter (key · == k') := by
      refine List.flatMap_congr fun k' hk' => ?_
      rw [List.filter_filter]
      refine List.filter_congr fun d _ => ?_
      have hne : k' ≠ k := fun h => hk (h ▸ hk')
      by_cases hd : key d = k' <;> simp [hd, hne]
    rw [List.flatMap_cons, hothers]
    refine .trans (.append_left _ (ih hkeys fun d hd => ?_)) (List.filter_append_perm _ ds)
    obtain ⟨hd, hdk⟩ := List.mem_filter.1 hd
    exact (List.mem_cons.1 (hall d hd)).resolve_left (by simpa using hdk)

lemma partition_filter {κ : Type} [BEq κ] [LawfulBEq κ] (key : Mistake → κ) {keys : List κ}
    (hkeys : keys.Nodup) (hall : ∀ d ∈ ds, key d ∈ keys) :
    Partition ds (keys.map fun k => ds.filter (key · == k)) := by
  refine ⟨List.forall_mem_map.2 fun k _ => List.filter_sublist, ?_⟩
  rw [← List.flatMap_def]
  exact flatMap_filter_perm key hkeys hall

lemma WellFormed.shows (h : WellFormed ds) : Shows ⟨ds⟩ ds where
  mistakes := rfl
  ids := rfl
  size := rfl
  get?_eq_some_iff _ _ := find?_id_eq_some_iff h.distinct
  get?_eq_none_iff _ := find?_id_eq_none_iff
  contains_iff _ := Option.isSome_iff_exists
  table := getElem?_table h.distinct
  byCategory := partition_filter Mistake.category (by decide) fun d _ => by
    cases d.category <;> decide
  mem_byCategory_iff k d := by rw [Catalog.byCategory, List.mem_filter, beq_iff_eq]
  bySeverity := partition_filter Mistake.severity (by decide) fun d _ => by
    cases d.severity <;> decide
  mem_bySeverity_iff s d := by rw [Catalog.bySeverity, List.mem_filter, beq_iff_eq]

/-- Mistakes make a catalog exactly if their names differ, each has patterns, and all patterns can be
read; otherwise the first mistake that breaks a rule is told, with the first rule it breaks.  All
views of a catalog show the mistakes it is made of. -/
theorem ofList?_wellFormed (ds : List Mistake) :
    ((ofList? ds).isOk = true ↔ WellFormed ds) ∧
      (∀ e, ofList? ds = .error e ↔ TellsFirst ds e) ∧
        ∀ c, ofList? ds = .ok c → Shows c ds := by
  refine ⟨?_, fun e => ofList?_eq_error_iff, fun c hc => ?_⟩
  · constructor
    · intro hok
      obtain ⟨c, hc⟩ := Detection.exists_of_isOk hok
      exact (ofList?_eq_ok_iff.1 hc).1
    · intro h
      rw [ofList?_eq_ok_iff.2 ⟨h, rfl⟩]
      rfl
  · obtain ⟨h, rfl⟩ := ofList?_eq_ok_iff.1 hc
    exact h.shows

/-- The standard catalog shows the standard mistakes, and takes in none of them a second time. -/
theorem shows_standard :
    Shows standard standard.mistakes ∧
      ofList? (standard.mistakes ++ [Mistake.Standard.selectStar])
        = .error (.duplicate "select-star") := by
  have hwhole := ofList?_wellFormed standard.mistakes
  have hmore := ofList?_wellFormed (standard.mistakes ++ [Mistake.Standard.selectStar])
  have hok : ofList? standard.mistakes = .ok standard := ofList?_standard
  have hkept : WellFormed standard.mistakes := hwhole.1.1 (by rw [hok]; rfl)
  refine ⟨hwhole.2.2 standard hok, (hmore.2.1 _).2 ?_⟩
  exact ⟨standard.mistakes, Mistake.Standard.selectStar, [], rfl, hkept,
    .duplicate (by decide +kernel)⟩

end QueryTutor.Catalog
