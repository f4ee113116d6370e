import Mathlib.Data.List.Forall2
import Mathlib.Data.List.Pairwise
import QueryTutor.Reading.Basic

/-!
# Reading objects

What is read of an object is decided by the values of its known fields: the outer name of a field
goes before the plain one, and nothing else of the object matters.
-/

namespace QueryTutor.Reading

variable {α β : Type}

/-! ## Parts that are read -/

lemma map_eq_ok_iff {f : α → β} {x : Reading α} {b : β} :
    f <$> x = .ok b ↔ ∃ a, x = .ok a ∧ f a = b := by
  cases x with
  | ok a =>
    constructor
    · rintro ⟨⟩
      exact ⟨a, rfl, rfl⟩
    · rintro ⟨_, ⟨⟩, rfl⟩
      rfl
  | error r =>
    constructor
    · rintro ⟨⟩
    · rintro ⟨_, ⟨⟩, _⟩

/-- Parts are read together exactly if each of them is. -/
lemma seq_eq_ok_iff {f : Reading (α → β)} {x : Reading α} {b : β} :
    f <*> x = .ok b ↔ ∃ g a, f = .ok g ∧ x = .ok a ∧ g a = b := by
  cases f with
  | ok g =>
    cases x with
    | ok a =>
      constructor
      · rintro ⟨⟩
        exact ⟨g, a, rfl, rfl, rfl⟩
      · rintro ⟨_, _, ⟨⟩, ⟨⟩, rfl⟩
        rfl
    | error r =>
      constructor
      · rintro ⟨⟩
      · rintro ⟨_, _, _, ⟨⟩, _⟩
  | error r =>
    constructor
    · cases x <;> rintro ⟨⟩
    · rintro ⟨_, _, ⟨⟩, _⟩

lemma under_eq_ok_iff {name : String} {x : Reading α} {a : α} :
    under name x = .ok a ↔ x = .ok a := by
  obtain (ps | e) | b := x
  · constructor <;> rintro ⟨⟩
  · exact Iff.rfl
  · exact Iff.rfl

lemma check_eq_ok_iff {x : Reading α} {f : α → Option Refusal} {a : α} :
    check x f = .ok a ↔ x = .ok a ∧ f a = none := by
  cases x with
  | error r =>
    constructor
    · rintro ⟨⟩
    · rintro ⟨⟨⟩, _⟩
  | ok b =>
    rw [check]
    cases hb : f b with
    | none =>
      constructor
      · rintro ⟨⟩
        exact ⟨rfl, hb⟩
      · rintro ⟨⟨⟩, _⟩
        rfl
    | some r =>
      constructor
      · rintro ⟨⟩
      · rintro ⟨⟨⟩, hnone⟩
        rw [hb] at hnone
        cases hnone

/-! ## Fields by name -/

/-- The keys share no name. -/
def Apart (k k' : Key) : Prop :=
  k.outer ≠ k'.outer ∧ k.outer ≠ k'.plain ∧ k.plain ≠ k'.outer ∧ k.plain ≠ k'.plain

instance : DecidableRel Apart := fun k k' =>
  inferInstanceAs (Decidable (k.outer ≠ k'.outer ∧ k.outer ≠ k'.plain ∧ k.plain ≠ k'.outer ∧
    k.plain ≠ k'.plain))

/-- A choice of one name for each key, depending on the way to the object that has it. -/
structure Naming where
  name : List String → Key → String
  name_eq : ∀ path k, name path k = k.outer ∨ name path k = k.plain

/-- The choice of names as it is seen from an object further in. -/
def Naming.within (n : Naming) (steps : List String) : Naming where
  name path := n.name (steps ++ path)
  name_eq path := n.name_eq (steps ++ path)

/-- The entries under the chosen names. -/
def Naming.fields (n : Naming) (entries : List (Key × Value)) : List (String × Value) :=
  entries.map fun (k, v) => (n.name [] k, v)

/-- The object with the entries under the chosen names. -/
def Naming.object (n : Naming) (entries : List (Key × Value)) : Value :=
  .object (n.fields entries)

/-- The list of what is written for each item, which is told its place. -/
def Naming.list (n : Naming) (write : Naming → α → Value) (items : List α) : Value :=
  .list (items.mapIdx fun i a => write (n.within [toString i]) a)

lemma Apart.symm {k k' : Key} (h : Apart k k') : Apart k' k :=
  ⟨h.1.symm, h.2.2.1.symm, h.2.1.symm, h.2.2.2.symm⟩

/-- Keys that share no name have different names in every choice. -/
lemma Apart.name_ne {k k' : Key} (h : Apart k k') {name : String}
    (hk : name = k.outer ∨ name = k.plain) : name ≠ k'.outer ∧ name ≠ k'.plain := by
  obtain ⟨houter, houter', hplain, hplain'⟩ := h
  obtain rfl | rfl := hk
  · exact ⟨houter, houter'⟩
  · exact ⟨hplain, hplain'⟩

section Naming

variable (n : Naming) {entries : List (Key × Value)} {k : Key} {v : Value}

/-- What is found under a name of a key is the entry of the key. -/
lemma eq_of_field?_eq_some (hkeys : (entries.map (·.1)).Pairwise Apart) (h : (k, v) ∈ entries)
    {name : String} (hname : name = k.outer ∨ name = k.plain) {w : Value}
    (hw : Value.field? (n.fields entries) name = some w) : name = n.name [] k ∧ w = v := by
  obtain ⟨⟨x, _⟩, hfind, rfl⟩ := Option.map_eq_some_iff.1 hw
  have hx : x = name := by simpa using List.find?_some hfind
  have hmem := List.mem_reverse.1 (List.mem_of_find?_eq_some hfind)
  obtain ⟨⟨k', v'⟩, hentry, heq⟩ := List.mem_map.1 hmem
  obtain ⟨rfl, rfl⟩ := Prod.mk.inj heq
  by_cases hsame : (k', v') = (k, v)
  · cases hsame
    exact ⟨hx.symm, rfl⟩
  · have hsymm : Std.Symm fun a b : Key × Value => Apart a.1 b.1 := ⟨fun _ _ h => h.symm⟩
    have hapart : Apart k' k :=
      (List.pairwise_map.1 hkeys).forall hentry h hsame
    obtain ⟨houter, hplain⟩ := hapart.name_ne (n.name_eq [] k')
    rw [hx] at houter hplain
    exact absurd hname (not_or.2 ⟨houter, hplain⟩)

lemma field?_fields (hkeys : (entries.map (·.1)).Pairwise Apart) (h : (k, v) ∈ entries) :
    Value.field? (n.fields entries) (n.name [] k) = some v := by
  cases hfield : Value.field? (n.fields entries) (n.name [] k) with
  | some w => rw [(eq_of_field?_eq_some n hkeys h (n.name_eq [] k) hfield).2]
  | none =>
    have hfind := List.find?_eq_none.1 (Option.map_eq_none_iff.1 hfield) (n.name [] k, v)
      (List.mem_reverse.2 (List.mem_map_of_mem h))
    exact absurd (BEq.refl (n.name [] k)) hfind

/-- A field with a chosen name is found under this name. -/
lemma find?_fields (hkeys : (entries.map (·.1)).Pairwise Apart) (h : (k, v) ∈ entries) :
    find? (n.fields entries) k = some (n.name [] k, v) := by
  have hchosen := field?_fields n hkeys h
  rw [find?]
  cases houter : Value.field? (n.fields entries) k.outer with
  | some w =>
    obtain ⟨hname, rfl⟩ := eq_of_field?_eq_some n hkeys h (.inl rfl) houter
    rw [hname]
  | none =>
    obtain hname | hname := n.name_eq [] k
    · rw [hname, houter] at hchosen
      cases hchosen
    · rw [hname] at hchosen ⊢
      rw [hchosen]

lemma required_fields (hkeys : (entries.map (·.1)).Pairwise Apart) (i : Nat)
    (h : entries[i]? = some (k, v)) {f : Value → Reading α} {a : α} (hread : f v = .ok a) :
    required (n.fields entries) k f = .ok a := by
  rw [required, find?_fields n hkeys (List.mem_of_getElem? h)]
  exact under_eq_ok_iff.2 hread

lemma withDefault_fields (hkeys : (entries.map (·.1)).Pairwise Apart) (i : Nat)
    (h : entries[i]? = some (k, v)) {f : Value → Reading α} {d a : α}
    (hread : f v = .ok a) : withDefault (n.fields entries) k d f = .ok a := by
  rw [withDefault, find?_fields n hkeys (List.mem_of_getElem? h)]
  exact under_eq_ok_iff.2 hread

end Naming

/-! ## What is written is read back -/

/-- All that is written is read back, and none of it is null. -/
structure Restores (write : α → Value) (read : Value → Reading α) : Prop where
  read_eq : ∀ a, read (write a) = .ok a
  ne_null : ∀ a, write a ≠ .null

lemma restores_string : Restores .string string :=
  ⟨fun _ => rfl, fun _ => nofun⟩

lemma restores_bool : Restores .bool bool :=
  ⟨fun _ => rfl, fun _ => nofun⟩

lemma restores_real : Restores .real real :=
  ⟨fun _ => rfl, fun _ => nofun⟩

lemma itemsFrom_mapIdx {read : Value → Reading α} {write : Nat → α → Value}
    (h : ∀ i a, read (write i a) = .ok a) (n : Nat) (items : List α) :
    itemsFrom read n (items.mapIdx write) = .ok items := by
  induction items generalizing n write with
  | nil => rfl
  | cons a items ih =>
    rw [List.mapIdx_cons, itemsFrom, h 0 a, ih fun i => h (i + 1)]
    rfl

lemma Restores.list {write : Naming → α → Value} {read : Value → Reading α}
    (h : ∀ n, Restores (write n) read) (n : Naming) :
    Restores (n.list write) (Reading.list read) where
  read_eq items := itemsFrom_mapIdx (fun i => (h (n.within [toString i])).read_eq) 0 items
  ne_null _ := nofun

lemma Restores.strings : Restores .strings (Reading.list string) where
  read_eq ss := by
    have hmap : ss.map Value.string = ss.mapIdx fun _ => Value.string := by
      apply List.ext_getElem <;> simp
    rw [Value.strings, hmap]
    exact itemsFrom_mapIdx (fun _ => restores_string.read_eq) 0 ss
  ne_null _ := nofun

lemma nullable_of_ne_null {read : Value → Reading α} {v : Value} (hv : v ≠ .null) :
    nullable read v = some <$> read v := by
  cases v with
  | null => exact absurd rfl hv
  | _ => rfl

lemma Restores.nullable {write : α → Value} {read : Value → Reading α} (h : Restores write read)
    (x : Option α) : Reading.nullable read (.ofOption write x) = .ok x := by
  cases x with
  | none => rfl
  | some a =>
    rw [Value.ofOption, nullable_of_ne_null (h.ne_null a), h.read_eq]
    rfl

/-! ## Values that read alike -/

/-- Two objects agree on the key, up to `R`: on what is under its outer name, and where there is
nothing under that, on what is under its plain name. -/
def AgreeOn (R : Value → Value → Prop) (fields fields' : List (String × Value)) (k : Key) : Prop :=
  Option.Rel R (Value.field? fields k.outer) (Value.field? fields' k.outer) ∧
    (Value.field? fields k.outer = none →
      Option.Rel R (Value.field? fields k.plain) (Value.field? fields' k.plain))

/-- Two lists agree item by item, up to `R`. -/
inductive ListAlike (R : Value → Value → Prop) : Value → Value → Prop
  | refl (v : Value) : ListAlike R v v
  | list {vs vs' : List Value} (items : List.Forall₂ R vs vs') : ListAlike R (.list vs) (.list vs')

/-- Values related by `R` are read alike, and are null together. -/
structure Respects (R : Value → Value → Prop) (read : Value → Reading α) : Prop where
  read_eq : ∀ {v v'}, R v v' → read v = read v'
  null_iff : ∀ {v v'}, R v v' → (v = .null ↔ v' = .null)

section Respects

variable {R : Value → Value → Prop} {read : Value → Reading α}
  {fields fields' : List (String × Value)} {k : Key}

lemma respects_eq (read : Value → Reading α) : Respects Eq read where
  read_eq h := h ▸ rfl
  null_iff h := h ▸ Iff.rfl

lemma itemsFrom_congr (h : Respects R read) {vs vs' : List Value} (hitems : List.Forall₂ R vs vs')
    (n : Nat) : itemsFrom read n vs = itemsFrom read n vs' := by
  induction hitems generalizing n with
  | nil => rfl
  | cons hv _ ih => rw [itemsFrom, itemsFrom, h.read_eq hv, ih]

lemma Respects.list (h : Respects R read) : Respects (ListAlike R) (Reading.list read) where
  read_eq {v v'} hv := by
    cases hv with
    | refl => rfl
    | list items => exact itemsFrom_congr h items 0
  null_iff {v v'} hv := by
    cases hv with
    | refl => rfl
    | list items => constructor <;> rintro ⟨⟩

lemma Respects.nullable (h : Respects R read) : Respects R (Reading.nullable read) where
  read_eq {v v'} hv := by
    by_cases hnull : v = .null
    · rw [hnull, (h.null_iff hv).1 hnull]
    · rw [nullable_of_ne_null hnull, nullable_of_ne_null fun h' => hnull ((h.null_iff hv).2 h'),
        h.read_eq hv]
  null_iff := h.null_iff

/-- What is found under a key that two objects agree on is found under the same name. -/
lemma AgreeOn.find? (h : AgreeOn R fields fields' k) :
    Option.Rel (fun x y => x.1 = y.1 ∧ R x.2 y.2) (find? fields k) (find? fields' k) := by
  obtain ⟨houter, hplain⟩ := h
  rw [Reading.find?, Reading.find?]
  generalize Value.field? fields k.outer = x, Value.field? fields' k.outer = x' at houter hplain
  cases houter with
  | some hv => exact .some ⟨rfl, hv⟩
  | none =>
    have hplain := hplain rfl
    generalize Value.field? fields k.plain = y, Value.field? fields' k.plain = y' at hplain
    cases hplain with
    | some hv => exact .some ⟨rfl, hv⟩
    | none => exact .none

lemma AgreeOn.required (h : AgreeOn R fields fields' k) (hread : Respects R read) :
    required fields k read = required fields' k read := by
  have hfind := h.find?
  rw [Reading.required, Reading.required]
  generalize Reading.find? fields k = x, Reading.find? fields' k = x' at hfind
  cases hfind with
  | none => rfl
  | some hv =>
    obtain ⟨hname, hv⟩ := hv
    simp only [hname, hread.read_eq hv]

lemma AgreeOn.withDefault (h : AgreeOn R fields fields' k) (hread : Respects R read)
    (default : α) : withDefault fields k default read = withDefault fields' k default read := by
  have hfind := h.find?
  rw [Reading.withDefault, Reading.withDefault]
  generalize Reading.find? fields k = x, Reading.find? fields' k = x' at hfind
  cases hfind with
  | none => rfl
  | some hv =>
    obtain ⟨hname, hv⟩ := hv
    simp only [hname, hread.read_eq hv]

lemma AgreeOn.optionally (h : AgreeOn R fields fields' k) (hread : Respects R read) :
    optionally fields k read = optionally fields' k read :=
  h.withDefault hread.nullable none

end Respects

end QueryTutor.Reading
