import QueryTutor.Proofs.Reading

/-!
# Readings that may be stopped

What is wrong with a value is listed as problems, unless something stops the reading.  No text,
number, list or object does so by itself.
-/

namespace QueryTutor.Reading

variable {α β : Type} {e : Pattern.Error} {stop stop' : Option Pattern.Error}

/-! ## Readings that may be stopped -/

/-- The reading is stopped by `stop`, if by anything; what is turned down otherwise has a problem. -/
def Ends (stop : Option Pattern.Error) : Reading α → Prop
  | .ok _ => stop = none
  | .error (.problems ps) => stop = none ∧ ps ≠ []
  | .error (.stopped e) => stop = some e

lemma ends_problem {cause : Problem.Cause} : Ends none (problem cause : Reading α) :=
  ⟨rfl, List.cons_ne_nil _ _⟩

lemma Ends.map {x : Reading α} (h : Ends stop x) (f : α → β) : Ends stop (f <$> x) := by
  obtain (ps | e) | a := x <;> exact h

/-- Of two parts the first that stops the reading counts. -/
lemma Ends.seq {f : Reading (α → β)} {x : Reading α} (hf : Ends stop f) (hx : Ends stop' x) :
    Ends (stop.or stop') (f <*> x) := by
  obtain (ps | e) | g := f
  · obtain ⟨rfl, hps⟩ := hf
    obtain (qs | e') | a := x
    · exact ⟨hx.1, List.append_ne_nil_of_left_ne_nil hps _⟩
    · exact hx
    · exact ⟨hx, hps⟩
  · obtain rfl := hf
    obtain (qs | e') | a := x <;> rfl
  · obtain rfl := hf
    obtain (qs | e') | a := x <;> exact hx

lemma Ends.under {x : Reading α} (h : Ends stop x) (name : String) :
    Ends stop (under name x) := by
  obtain (ps | e) | a := x
  · exact ⟨h.1, mt List.map_eq_nil_iff.1 h.2⟩
  · exact h
  · exact h

/-- A check that refuses for reasons of the domain stops nothing. -/
lemma Ends.check {x : Reading α} (h : Ends none x) {f : α → Option Refusal}
    (hf : ∀ a r, x = .ok a → f a = some r → ∃ reason, r = refusal reason) :
    Ends none (x.check f) := by
  cases x with
  | error r => exact h
  | ok a =>
    rw [Reading.check]
    cases hr : f a with
    | none => rfl
    | some r =>
      obtain ⟨reason, rfl⟩ := hf a r rfl hr
      exact (ends_problem : Ends none (problem (.refused reason) : Reading α))

lemma Ends.eq_stopped {x : Reading α} (h : Ends (some e) x) :
    x = .error (.stopped e) := by
  obtain (ps | e') | a := x
  · cases h.1
  · rw [Option.some.inj h]
  · cases h

/-- A value of no matter what shape is read without being stopped. -/
def NeverStops (read : Value → Reading α) : Prop :=
  ∀ v, Ends none (read v)

section NeverStops

variable {read : Value → Reading α}

lemma neverStops_string : NeverStops string := by
  intro v
  cases v with
  | string s => rfl
  | _ => exact ends_problem

lemma ends_ite {c : Prop} [Decidable c] {x y : Reading α} (hx : Ends stop x) (hy : Ends stop y) :
    Ends stop (if c then x else y) := by
  split
  · exact hx
  · exact hy

lemma neverStops_bool : NeverStops bool := by
  intro v
  cases v with
  | bool b => rfl
  | whole n => exact ends_ite rfl (ends_ite rfl (ends_ite ends_problem ends_problem))
  | real x => exact ends_ite rfl (ends_ite rfl (ends_ite ends_problem ends_problem))
  | string s => exact ends_ite rfl (ends_ite rfl ends_problem)
  | _ => exact ends_problem

lemma neverStops_real : NeverStops real := by
  intro v
  cases v with
  | bool b => rfl
  | whole n => exact ends_ite ends_problem rfl
  | real x => rfl
  | string s =>
    unfold real
    dsimp only
    cases Numeral.real? s.toList with
    | some x => rfl
    | none => exact ends_problem
  | _ => exact ends_problem

lemma NeverStops.itemsFrom (h : NeverStops read) (n : Nat) (vs : List Value) :
    Ends none (itemsFrom read n vs) := by
  induction vs generalizing n with
  | nil => rfl
  | cons v vs ih => exact (((h v).under _).map _).seq (ih (n + 1))

lemma NeverStops.list (h : NeverStops read) : NeverStops (list read) := by
  intro v
  cases v with
  | list vs => exact h.itemsFrom 0 vs
  | _ => exact ends_problem

lemma NeverStops.nullable (h : NeverStops read) : NeverStops (nullable read) := by
  intro v
  by_cases hv : v = .null
  · rw [hv]
    rfl
  · rw [nullable_of_ne_null hv]
    exact (h v).map some

variable (fields : List (String × Value)) (k : Key)

lemma ends_required (h : NeverStops read) : Ends none (required fields k read) := by
  rw [required]
  split
  · exact (h _).under _
  · exact ends_problem.under _

lemma ends_withDefault (h : NeverStops read) (default : α) :
    Ends none (withDefault fields k default read) := by
  rw [withDefault]
  split
  · exact (h _).under _
  · rfl

lemma ends_optionally (h : NeverStops read) : Ends none (optionally fields k read) :=
  ends_withDefault fields k h.nullable none

end NeverStops

lemma NeverStops.object {read : List (String × Value) → Reading α}
    (h : ∀ fields, Ends none (read fields)) : NeverStops (object read) := by
  intro v
  cases v with
  | object fields => exact h fields
  | _ => exact ends_problem

/-! ## Lists of texts -/

lemma eq_strings_of_itemsFrom {n : Nat} {vs : List Value} {ss : List String}
    (h : itemsFrom string n vs = .ok ss) : vs = ss.map .string := by
  induction vs generalizing n ss with
  | nil =>
    cases h
    rfl
  | cons v vs ih =>
    obtain ⟨_, rest, hcons, hrest, rfl⟩ := seq_eq_ok_iff.1 h
    obtain ⟨s, hs, rfl⟩ := map_eq_ok_iff.1 hcons
    rw [under_eq_ok_iff] at hs
    obtain rfl : v = .string s := by
      cases v <;> cases hs
      rfl
    rw [ih hrest]
    rfl

/-- Nothing but a list of texts is read as one. -/
lemma list_string_eq_ok_iff {v : Value} {ss : List String} :
    list string v = .ok ss ↔ v = .strings ss := by
  constructor
  · intro h
    cases v with
    | list vs => rw [eq_strings_of_itemsFrom h, Value.strings]
    | _ => cases h
  · rintro rfl
    exact Restores.strings.read_eq ss

lemma eq_strings_of_nullable {v : Value} {ss : List String}
    (h : nullable (list string) v = .ok (some ss)) : v = .strings ss := by
  by_cases hv : v = .null
  · rw [hv] at h
    cases h
  · rw [nullable_of_ne_null hv] at h
    obtain ⟨ss', hlist, hsome⟩ := map_eq_ok_iff.1 h
    cases hsome
    exact list_string_eq_ok_iff.1 hlist

end QueryTutor.Reading
