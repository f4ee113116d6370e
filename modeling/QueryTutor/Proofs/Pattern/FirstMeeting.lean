import Mathlib.Data.List.TakeDrop
import Mathlib.Data.Nat.Find
import QueryTutor.Proofs.Pattern.Piece
import QueryTutor.Proofs.Pattern.Tally

/-!
# First meetings

A search that goes up to the first place from which a pattern is met, and then on from there, finds
what a search that tries all its places finds.  This holds of patterns whose meetings end in the
order in which they begin, if any text may stand behind them.
-/

namespace QueryTutor.Pattern
open Text

variable {x : List Char} {i j : Nat}

/-! ## Lists of patterns -/

lemma meets_ofList_cons {p : Pattern} {ps : List Pattern} {m : Mode} {s t : Spot} :
    (ofList (p :: ps)).Meets m s t ↔ ∃ u, p.Meets m s u ∧ (ofList ps).Meets m u t := by
  cases ps with
  | nil =>
    constructor
    · exact fun h => ⟨t, h, rfl⟩
    · rintro ⟨u, hu, rfl⟩
      exact hu
  | cons q ps => exact Iff.rfl

lemma meets_ofList_append {ps qs : List Pattern} {m : Mode} {s t : Spot} :
    (ofList (ps ++ qs)).Meets m s t ↔ ∃ u, (ofList ps).Meets m s u ∧ (ofList qs).Meets m u t := by
  induction ps generalizing s with
  | nil =>
    constructor
    · exact fun h => ⟨s, rfl, h⟩
    · rintro ⟨u, rfl, h⟩
      exact h
  | cons p ps ih =>
    rw [List.cons_append, meets_ofList_cons]
    constructor
    · rintro ⟨u, hu, h⟩
      obtain ⟨v, hv, ht⟩ := ih.1 h
      exact ⟨v, meets_ofList_cons.2 ⟨u, hu, hv⟩, ht⟩
    · rintro ⟨v, hv, ht⟩
      obtain ⟨u, hu, hv⟩ := meets_ofList_cons.1 hv
      exact ⟨u, hu, ih.2 ⟨v, hv, ht⟩⟩

/-! ## Places -/

lemma spotAt_append (u v : List Char) : spotAt (u ++ v) u.length = .between u v := by
  rw [spotAt, List.take_left, List.drop_left]

/-- A pattern that captures nothing leads from one place of a text to another. -/
lemma exists_spotAt {p : Pattern} (hp : p.groupless = true) (hi : i ≤ x.length) {t : Spot}
    (h : p.Meets detectionMode (spotAt x i) t) : ∃ j, i ≤ j ∧ j ≤ x.length ∧ t = spotAt x j := by
  obtain ⟨w, hw⟩ := h.apart
  obtain ⟨v, hv, rfl⟩ := eq_between_of_apart hw (h.groups_eq hp)
  have hx : x = x.take i ++ w ++ v := by rw [List.append_assoc, ← hv, List.take_append_drop]
  have hlen := congrArg List.length hx
  rw [List.length_append] at hlen
  have hplace : (x.take i ++ w).length = i + w.length := by
    rw [List.length_append, List.length_take, Nat.min_eq_left hi]
  refine ⟨i + w.length, Nat.le_add_right _ _, by omega, ?_⟩
  rw [← spotAt_append, ← hx, hplace]

/-- A step leads from a place to the next, over the character that stands there. -/
lemma step?_spotAt (hi : i ≤ x.length) {f : Char → Bool} {t : Spot} :
    (spotAt x i).step? f = some t ↔
      (∃ c, x[i]? = some c ∧ f c = true) ∧ t = spotAt x (i + 1) := by
  rw [show spotAt x i = .between (x.take i) (x.drop i) from rfl]
  constructor
  · intro h
    obtain ⟨c, hc, hap, hg⟩ := step?_eq_some_iff.1 h
    obtain ⟨v, hv, rfl⟩ := eq_between_of_apart hap hg
    have hx : x = x.take i ++ [c] ++ v := by rw [List.append_assoc, ← hv, List.take_append_drop]
    have hplace : (x.take i ++ [c]).length = i + 1 := by
      rw [List.length_append, List.length_take, Nat.min_eq_left hi, List.length_singleton]
    refine ⟨⟨c, ?_, hc⟩, ?_⟩
    · rw [← Nat.add_zero i, ← List.getElem?_drop, hv]
      rfl
    · rw [← spotAt_append, ← hx, hplace]
  · rintro ⟨⟨c, hxc, hc⟩, rfl⟩
    obtain ⟨hlt, rfl⟩ := List.getElem?_eq_some_iff.1 hxc
    rw [List.drop_eq_getElem_cons hlt, spotAt, ← List.take_concat_get' x i hlt]
    exact meetsPiece_step.2 ⟨x[i], rfl, hc⟩

lemma meets_any_iff (hi : i ≤ x.length) {t : Spot} :
    any.Meets detectionMode (spotAt x i) t ↔ i < x.length ∧ t = spotAt x (i + 1) := by
  refine (step?_spotAt hi).trans (and_congr_left fun _ => ?_)
  constructor
  · rintro ⟨c, hc, -⟩
    exact (List.getElem?_eq_some_iff.1 hc).1
  · exact fun hlt => ⟨x[i], List.getElem?_eq_getElem hlt, rfl⟩

/-- Steps that lead from each place to the next, where it is allowed, lead to the places up to which
it is allowed everywhere. -/
lemma times_spotAt {R : Spot → Spot → Prop} {Q : Nat → Prop}
    (hR : ∀ i t, i ≤ x.length → (R (spotAt x i) t ↔ Q i ∧ i < x.length ∧ t = spotAt x (i + 1)))
    (n : Nat) (hi : i ≤ x.length) (t : Spot) :
    Times R n (spotAt x i) t ↔
      i + n ≤ x.length ∧ (∀ k, i ≤ k → k < i + n → Q k) ∧ t = spotAt x (i + n) := by
  induction n generalizing i with
  | zero =>
    constructor
    · exact fun h => ⟨hi, fun k hk hlt => absurd hk (by omega), h⟩
    · exact fun h => h.2.2
  | succ n ih =>
    rw [Times]
    constructor
    · rintro ⟨u, hu, ht⟩
      obtain ⟨hQ, hlt, rfl⟩ := (hR i u hi).1 hu
      obtain ⟨hle, hall, rfl⟩ := (ih hlt).1 ht
      refine ⟨by omega, fun k hk hkn => ?_, by rw [Nat.succ_add, Nat.add_succ]⟩
      obtain rfl | hk := Nat.eq_or_lt_of_le hk
      · exact hQ
      · exact hall k hk (by omega)
    · rintro ⟨hle, hall, rfl⟩
      refine ⟨spotAt x (i + 1), (hR i _ hi).2 ⟨hall i le_rfl (by omega), by omega, rfl⟩, ?_⟩
      refine (ih (by omega)).2 ⟨by omega, fun k hk hkn => hall k (by omega) (by omega), ?_⟩
      rw [Nat.add_right_comm, Nat.add_assoc]

/-- The patterns are met one behind the other from the place on. -/
def From (ps : List Pattern) (x : List Char) (i : Nat) : Prop :=
  ∃ t, (ofList ps).Meets detectionMode (spotAt x i) t

/-- A repeated pattern that leads from each place to the next, where it is allowed, can be followed
by what is met from any place that it leads to. -/
lemma from_many {p : Pattern} {Q : Nat → Prop}
    (hp : ∀ i t, i ≤ x.length →
      (p.Meets detectionMode (spotAt x i) t ↔ Q i ∧ i < x.length ∧ t = spotAt x (i + 1)))
    (hi : i ≤ x.length) {greed : Greed} (qs : List Pattern) :
    From (many greed 0 none p :: qs) x i ↔
      ∃ j, i ≤ j ∧ j ≤ x.length ∧ (∀ k, i ≤ k → k < j → Q k) ∧ From qs x j := by
  constructor
  · rintro ⟨t, ht⟩
    obtain ⟨u, ⟨n, -, -, hn⟩, ht⟩ := meets_ofList_cons.1 ht
    obtain ⟨hle, hall, rfl⟩ := (times_spotAt hp n hi u).1 hn
    exact ⟨i + n, Nat.le_add_right i n, hle, hall, t, ht⟩
  · rintro ⟨j, hij, hj, hall, t, ht⟩
    obtain ⟨n, rfl⟩ := Nat.exists_eq_add_of_le hij
    refine ⟨t, meets_ofList_cons.2 ⟨spotAt x (i + n), ⟨n, Nat.zero_le n, nofun, ?_⟩, ht⟩⟩
    exact (times_spotAt hp n hi _).2 ⟨hj, hall, rfl⟩

lemma from_anyText (hi : i ≤ x.length) (qs : List Pattern) :
    From (many .greedy 0 none any :: qs) x i ↔ ∃ j, i ≤ j ∧ j ≤ x.length ∧ From qs x j := by
  rw [from_many (Q := fun _ => True) (fun k t hk => by rw [meets_any_iff hk, true_and]) hi]
  exact exists_congr fun j => by simp only [implies_true, true_and]

/-- Any text in which the pattern is met from no place. -/
def upTo (p : Pattern) : Pattern :=
  many .greedy 0 none (seq (ahead false p) any)

lemma from_upTo (p : Pattern) (hi : i ≤ x.length) (qs : List Pattern) :
    From (upTo p :: qs) x i ↔ ∃ j, i ≤ j ∧ j ≤ x.length ∧
      (∀ k, i ≤ k → k < j → ¬ ∃ t, p.Meets detectionMode (spotAt x k) t) ∧ From qs x j := by
  refine from_many (fun k t hk => ?_) hi qs
  rw [← meets_any_iff hk]
  constructor
  · rintro ⟨u, ⟨rfl, hlook⟩, ht⟩
    exact ⟨fun h => absurd (hlook.2 h) Bool.false_ne_true, ht⟩
  · rintro ⟨hnone, ht⟩
    exact ⟨spotAt x k, ⟨rfl, ⟨nofun, fun h => absurd h hnone⟩⟩, ht⟩

lemma from_append {ps : List Pattern} (hps : (ofList ps).groupless = true) (hi : i ≤ x.length)
    (qs : List Pattern) :
    From (ps ++ qs) x i ↔ ∃ j, i ≤ j ∧ j ≤ x.length ∧
      (ofList ps).Meets detectionMode (spotAt x i) (spotAt x j) ∧ From qs x j := by
  constructor
  · rintro ⟨t, ht⟩
    obtain ⟨u, hu, ht⟩ := meets_ofList_append.1 ht
    obtain ⟨j, hij, hj, rfl⟩ := exists_spotAt hps hi hu
    exact ⟨j, hij, hj, hu, t, ht⟩
  · rintro ⟨j, -, -, hj, t, ht⟩
    exact ⟨t, meets_ofList_append.2 ⟨_, hj, ht⟩⟩

/-- A look ahead goes over nothing. -/
lemma from_ahead {holds : Bool} {p : Pattern} {qs : List Pattern} :
    From (ahead holds p :: qs) x i ↔
      (holds = true ↔ ∃ t, p.Meets detectionMode (spotAt x i) t) ∧ From qs x i := by
  constructor
  · rintro ⟨t, ht⟩
    obtain ⟨u, ⟨rfl, hlook⟩, ht⟩ := meets_ofList_cons.1 ht
    exact ⟨hlook, t, ht⟩
  · rintro ⟨hlook, t, ht⟩
    exact ⟨t, meets_ofList_cons.2 ⟨_, ⟨rfl, hlook⟩, ht⟩⟩

/-! ## First meetings -/

/-- Behind any text, patterns that any text may follow are met from the first place from which they
are met at all, if they are met in order. -/
theorem from_upTo_iff {ps : List Pattern} (hps : (ofList ps).groupless = true)
    (ho : Orderly (ofList ps) x) (hi : i ≤ x.length) (qs : List Pattern) :
    From (upTo (ofList ps) :: (ps ++ many .greedy 0 none any :: qs)) x i ↔
      From (many .greedy 0 none any :: (ps ++ many .greedy 0 none any :: qs)) x i := by
  rw [from_upTo _ hi, from_anyText hi]
  constructor
  · rintro ⟨j, hij, hj, -, h⟩
    exact ⟨j, hij, hj, h⟩
  · rintro ⟨j, hij, hj, h⟩
    obtain ⟨k, hjk, hk, hmeets, hrest⟩ := (from_append hps hj _).1 h
    obtain ⟨l, hkl, hl, hrest⟩ := (from_anyText hk qs).1 hrest
    classical
    -- the first place from which the patterns are met, and where they are met up to from there
    have hsome : ∃ j, i ≤ j ∧ ∃ t, (ofList ps).Meets detectionMode (spotAt x j) t :=
      ⟨j, hij, _, hmeets⟩
    obtain ⟨hfirst, t, ht⟩ := Nat.find_spec hsome
    have hle : Nat.find hsome ≤ j := Nat.find_min' hsome ⟨hij, _, hmeets⟩
    have hinside : Nat.find hsome ≤ x.length := hle.trans hj
    obtain ⟨k', hfk, hk', rfl⟩ := exists_spotAt hps hinside ht
    have hearlier : k' ≤ k := ho _ k' j k hle hk' ht hmeets
    refine ⟨Nat.find hsome, hfirst, hinside, fun n hn hlt hmet => ?_, ?_⟩
    · exact Nat.find_min hsome hlt ⟨hn, hmet⟩
    · refine (from_append hps hinside _).2 ⟨k', hfk, hk', ht, (from_anyText hk' qs).2 ?_⟩
      exact ⟨l, hearlier.trans hkl, hl, hrest⟩

/-- What may follow can be replaced by what is met from the same places. -/
lemma from_append_congr {ps qs qs' : List Pattern} (hps : (ofList ps).groupless = true)
    (h : ∀ j ≤ x.length, From qs x j ↔ From qs' x j) (hi : i ≤ x.length) :
    From (ps ++ qs) x i ↔ From (ps ++ qs') x i := by
  rw [from_append hps hi, from_append hps hi]
  refine exists_congr fun j => and_congr_right fun _ => and_congr_right fun hj => ?_
  rw [h j hj]

lemma from_upTo_congr {p : Pattern} {qs qs' : List Pattern}
    (h : ∀ j ≤ x.length, From qs x j ↔ From qs' x j) (hi : i ≤ x.length) :
    From (upTo p :: qs) x i ↔ From (upTo p :: qs') x i := by
  rw [from_upTo p hi, from_upTo p hi]
  refine exists_congr fun j => and_congr_right fun _ => and_congr_right fun hj => ?_
  rw [h j hj]

/-! ## Occurrences -/

lemma exists_between_iff {P : Spot → Prop} :
    (∃ u v, x = u ++ v ∧ P (.between u v)) ↔ ∃ i, i ≤ x.length ∧ P (spotAt x i) := by
  constructor
  · rintro ⟨u, v, rfl, h⟩
    exact ⟨u.length, by rw [List.length_append]; exact Nat.le_add_right _ _,
      by rwa [spotAt_append]⟩
  · rintro ⟨i, -, h⟩
    exact ⟨x.take i, x.drop i, (List.take_append_drop i x).symm, h⟩

/-- Patterns occur in a text where they are met behind any text. -/
lemma occurs_ofList_iff {qs : List Pattern} (hqs : (ofList qs).isPlain = true) :
    (ofList qs).occurs detectionMode x = true ↔ From (many .greedy 0 none any :: qs) x 0 := by
  rw [occurs_iff hqs, from_anyText (Nat.zero_le _)]
  have hplaces := exists_between_iff (x := x)
    (P := fun s => ∃ t, (ofList qs).Meets detectionMode s t)
  rw [hplaces]
  exact exists_congr fun i => ⟨fun h => ⟨Nat.zero_le i, h⟩, And.right⟩

/-- Patterns that are bound to the beginning occur in a text where they are met from its front. -/
lemma occurs_anchored_iff {qs : List Pattern}
    (hqs : (ofList (place .lineStart :: qs)).isPlain = true) :
    (ofList (place .lineStart :: qs)).occurs detectionMode x = true ↔ From qs x 0 := by
  rw [occurs_iff hqs]
  constructor
  · rintro ⟨u, v, rfl, t, ht⟩
    obtain ⟨s, ⟨hstart, rfl⟩, ht⟩ := meets_ofList_cons.1 ht
    obtain rfl : u = [] := by simpa [Spot.isAt, Spot.between, detectionMode] using hstart
    exact ⟨t, ht⟩
  · rintro ⟨t, ht⟩
    exact ⟨[], x, rfl, t, meets_ofList_cons.2 ⟨_, ⟨rfl, rfl⟩, ht⟩⟩

/-- Patterns that are looked for from their first meeting on occur where they occur at all. -/
theorem occurs_upTo_eq {ps : List Pattern} (qs : List Pattern)
    (hps : (ofList ps).groupless = true) (ho : Orderly (ofList ps) x)
    (hanchored : (ofList (place .lineStart :: upTo (ofList ps) ::
      (ps ++ many .greedy 0 none any :: qs))).isPlain = true)
    (hplain : (ofList (ps ++ many .greedy 0 none any :: qs)).isPlain = true) :
    (ofList (place .lineStart :: upTo (ofList ps) ::
        (ps ++ many .greedy 0 none any :: qs))).occurs detectionMode x
      = (ofList (ps ++ many .greedy 0 none any :: qs)).occurs detectionMode x := by
  rw [Bool.eq_iff_iff, occurs_anchored_iff hanchored, occurs_ofList_iff hplain]
  exact from_upTo_iff hps ho (Nat.zero_le _) qs

end QueryTutor.Pattern
