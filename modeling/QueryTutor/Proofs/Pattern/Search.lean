import Mathlib.Data.List.Basic
import QueryTutor.Proofs.Pattern.Meeting

/-!
# Searching

A plain pattern is found exactly where it is met: the order in which ways are tried, and the bounds
on how often, lose none of them.
-/

namespace QueryTutor.Pattern

/-- The pattern can go back on every choice, what it repeats goes over some text, and what it only
looks at captures nothing. -/
def isPlain : Pattern → Bool
  | empty | char _ | any | set _ _ | place _ | same _ => true
  | seq p q | alt p q | ifGroup _ p q => p.isPlain && q.isPlain
  | many greed least most p =>
    p.isPlain && p.consumes && greed != .possessive && most.all (least ≤ ·)
  | ahead _ p | behind _ _ _ p => p.isPlain && p.groupless
  | group _ p | within _ _ p => p.isPlain
  | atomic _ => false

/-- A step goes over some text. -/
def Advances (R : Spot → Spot → Prop) : Prop :=
  ∀ s t, R s t → s.passed < t.passed ∧ t.after.length < s.after.length

lemma advances_meets {p : Pattern} (m : Mode) (hp : p.consumes = true) : Advances (p.Meets m) := by
  intro s t h
  have hlt := h.passed_lt hp
  obtain ⟨w, hw⟩ := h.apart
  refine ⟨hlt, ?_⟩
  rw [hw.passed] at hlt
  rw [hw.after, List.length_append]
  omega

/-- The search for what follows goes through the ways in which a relation holds, and no others. -/
structure Tries (body : Spot → Goal → Option Spot) (R : Spot → Spot → Prop) : Prop where
  sound : ∀ s k r, body s k = some r → ∃ t, R s t ∧ k t = some r
  complete : ∀ s k t, R s t → (k t).isSome = true → (body s k).isSome = true

lemma mayRepeat_iff {most : Option Nat} {count : Nat} :
    mayRepeat most count = true ↔ ∀ b, most = some b → count < b := by
  cases most <;> simp [mayRepeat]

/-- Repeats of a body lead to the goal through that many steps, at least `least` and at most `most`
with those that have been made. -/
def Repeated (R : Spot → Spot → Prop) (least : Nat) (most : Option Nat) (count : Nat)
    (s t : Spot) : Prop :=
  ∃ n, least ≤ count + n ∧ (∀ b, most = some b → count + n ≤ b) ∧ Times R n s t

lemma Repeated.cons {R : Spot → Spot → Prop} {least : Nat} {most : Option Nat} {count : Nat}
    {s u t : Spot} (h : R s u) (hu : Repeated R least most (count + 1) u t) :
    Repeated R least most count s t := by
  obtain ⟨n, hl, hm, ht⟩ := hu
  exact ⟨n + 1, by omega, fun b hb => by have := hm b hb; omega, u, h, ht⟩

/-- Repeats that are not at an end begin with a step. -/
lemma Repeated.cases {R : Spot → Spot → Prop} {least : Nat} {most : Option Nat} {count : Nat}
    {s t : Spot} (h : Repeated R least most count s t) :
    (t = s ∧ least ≤ count) ∨
      (mayRepeat most count = true ∧ ∃ u, R s u ∧ Repeated R least most (count + 1) u t) := by
  obtain ⟨n, hl, hm, ht⟩ := h
  cases n with
  | zero => exact .inl ⟨ht, hl⟩
  | succ n =>
    obtain ⟨u, hu, ht⟩ := ht
    refine .inr ⟨mayRepeat_iff.2 fun b hb => ?_, u, hu, n, by omega, fun b hb => ?_, ht⟩
    · have := hm b hb
      omega
    · have := hm b hb
      omega

lemma orElse_eq_some {a : Option Spot} {b : Unit → Option Spot} {r : Spot}
    (h : a.orElse b = some r) : a = some r ∨ b () = some r := by
  cases a with
  | none => exact .inr h
  | some x => exact .inl h

lemma isSome_orElse {a : Option Spot} {b : Unit → Option Spot}
    (h : a.isSome = true ∨ (b ()).isSome = true) : (a.orElse b).isSome = true := by
  cases a with
  | none => exact h.resolve_left nofun
  | some x => rfl

variable {body : Spot → Goal → Option Spot} {R : Spot → Spot → Prop} {greedy : Bool}
  {least : Nat} {most : Option Nat} {k : Goal}

/-- Repeats go on with the body or with the goal. -/
lemma repeats_eq_some {fuel count : Nat} {last : Option Nat} {s r : Spot}
    (h : repeats body greedy least most k (fuel + 1) count last s = some r) :
    ((count < least ∨ mayRepeat most count = true) ∧
        ∃ last', body s (repeats body greedy least most k fuel (count + 1) last') = some r) ∨
      (least ≤ count ∧ k s = some r) := by
  have more : (if mayRepeat most count && last != some s.passed then
      body s (repeats body greedy least most k fuel (count + 1) (some s.passed)) else none)
        = some r →
      (count < least ∨ mayRepeat most count = true) ∧
        ∃ last', body s (repeats body greedy least most k fuel (count + 1) last') = some r := by
    intro h
    split_ifs at h with hmay
    exact ⟨.inr (Bool.and_eq_true_iff.1 hmay).1, _, h⟩
  rw [repeats] at h
  by_cases hlt : count < least
  · rw [if_pos hlt] at h
    exact .inl ⟨.inl hlt, _, h⟩
  · rw [if_neg hlt] at h
    cases greedy with
    | true => exact (orElse_eq_some h).imp more fun h => ⟨by omega, h⟩
    | false => exact (orElse_eq_some h).symm.imp more fun h => ⟨by omega, h⟩

/-- What `repeats` finds is reached by repeated steps. -/
lemma repeats_sound (hb : Tries body R) (hR : Advances R) (hm : most.all (least ≤ ·) = true)
    {fuel count : Nat} {last : Option Nat} {s r : Spot} (hf : s.after.length < fuel)
    (hc : ∀ b, most = some b → count ≤ b)
    (h : repeats body greedy least most k fuel count last s = some r) :
    ∃ t, Repeated R least most count s t ∧ k t = some r := by
  induction fuel generalizing count last s with
  | zero => omega
  | succ fuel ih =>
    obtain ⟨hmay, last', h⟩ | ⟨hle, h⟩ := repeats_eq_some h
    · obtain ⟨u, hu, h⟩ := hb.sound _ _ _ h
      have hshort := (hR _ _ hu).2
      -- Repeats that are still due stay within the bound, since `least` does.
      have hc' : ∀ b, most = some b → count + 1 ≤ b := by
        intro b hb
        have hle : least ≤ b := by simpa [hb] using hm
        exact hmay.elim (by omega) fun h => mayRepeat_iff.1 h b hb
      obtain ⟨t, ht, hk⟩ := ih (by omega) hc' h
      exact ⟨t, .cons hu ht, hk⟩
    · exact ⟨s, ⟨0, hle, hc, rfl⟩, h⟩

/-- What is reached by repeated steps is found by `repeats`, unless something else is. -/
lemma repeats_complete (hb : Tries body R) (hR : Advances R) {fuel count : Nat}
    {last : Option Nat} {s t : Spot} (hf : s.after.length < fuel)
    (hlast : ∀ n, last = some n → n < s.passed) (h : Repeated R least most count s t)
    (hk : (k t).isSome = true) :
    (repeats body greedy least most k fuel count last s).isSome = true := by
  induction fuel generalizing count last s with
  | zero => omega
  | succ fuel ih =>
    -- The last repeat went over some text, so the guard against empty repeats lets this one go on.
    have hne : (last != some s.passed) = true := by
      rw [bne_iff_ne]
      intro heq
      exact absurd (hlast _ heq) (Nat.lt_irrefl _)
    have more : ∀ u last', R s u → Repeated R least most (count + 1) u t →
        (last' = last ∨ last' = some s.passed) →
        (body s (repeats body greedy least most k fuel (count + 1) last')).isSome = true := by
      intro u last' hu hut heq
      obtain ⟨hlt, hshort⟩ := hR _ _ hu
      refine hb.complete _ _ _ hu (ih (by omega) ?_ hut)
      rintro n rfl
      obtain heq | heq := heq
      · exact Nat.lt_trans (hlast n heq.symm) hlt
      · cases heq
        exact hlt
    rw [repeats]
    obtain ⟨rfl, hle⟩ | ⟨hmay, u, hu, hut⟩ := h.cases
    · rw [if_neg (by omega)]
      cases greedy with
      | true => exact isSome_orElse (.inr hk)
      | false => exact isSome_orElse (.inl hk)
    · by_cases hlt : count < least
      · rw [if_pos hlt]
        exact more u _ hu hut (.inl rfl)
      · rw [if_neg hlt, hmay, hne]
        cases greedy with
        | true => exact isSome_orElse (.inl (more u _ hu hut (.inr rfl)))
        | false => exact isSome_orElse (.inr (more u _ hu hut (.inr rfl)))

/-- Lazy repeats of a single step are lazy repeats of a body that goes on from it. -/
lemma fewest_eq_repeats (step : Spot → Option Spot) (least : Nat) (most : Option Nat) (k : Goal)
    (fuel count : Nat) (last : Option Nat) (s : Spot) :
    fewest step least most k fuel count last s
      = repeats (fun s k => (step s).bind k) false least most k fuel count last s := by
  induction fuel generalizing count last s with
  | zero => rfl
  | succ fuel ih =>
    rw [fewest, repeats]
    cases step s with
    | none => cases k s <;> rfl
    | some u => simp only [ih, Option.bind_some]; cases k s <;> rfl

/-- The spots reached by repeating a step, the first one first. -/
def chain (step : Spot → Option Spot) (most : Option Nat) : Nat → Nat → Spot → List Spot
  | 0, _, s => [s]
  | n + 1, count, s =>
    if mayRepeat most count then
      match step s with
      | none => [s]
      | some u => s :: chain step most n (count + 1) u
    else [s]

/-- The trail of a step that goes over some text is the chain of what it reaches, backwards. -/
lemma trailUpTo_eq {step : Spot → Option Spot} (hstep : Advances (step · = some ·)) (least : Nat)
    (most : Option Nat) (fuel count : Nat) (s : Spot) (trail : List Spot) :
    trailUpTo step least most fuel count s trail
      = (chain step most fuel count s).reverse ++ trail := by
  induction fuel generalizing count s trail with
  | zero => rfl
  | succ fuel ih =>
    rw [trailUpTo, chain]
    split_ifs with hmay
    · cases hs : step s with
      | none => rfl
      | some u =>
        have hne : (u.passed == s.passed) = false := by
          rw [beq_eq_false_iff_ne]
          exact Nat.ne_of_gt (hstep s u hs).1
        simp only [hne, Bool.false_and, Bool.false_eq_true, if_false, ih, List.reverse_cons,
          List.append_assoc, List.singleton_append]
    · rfl

/-- Where no step leads on, repeats stay where they are. -/
lemma repeated_iff_of_end {step : Spot → Option Spot} {least count : Nat} {most : Option Nat}
    {s t : Spot} (hc : ∀ b, most = some b → count ≤ b)
    (hend : ∀ u, mayRepeat most count = true → step s ≠ some u) :
    Repeated (step · = some ·) least most count s t ↔ t = s ∧ least ≤ count := by
  constructor
  · intro h
    obtain h | ⟨hmay, u, hu, -⟩ := h.cases
    · exact h
    · exact absurd hu (hend u hmay)
  · rintro ⟨rfl, hle⟩
    exact ⟨0, hle, hc, rfl⟩

/-- Where a step leads on, repeats stay where they are or go on from there. -/
lemma repeated_iff_of_step {step : Spot → Option Spot} {least count : Nat} {most : Option Nat}
    {s t u : Spot} (hc : ∀ b, most = some b → count ≤ b) (hs : step s = some u) :
    Repeated (step · = some ·) least most count s t ↔
      (t = s ∧ least ≤ count) ∨ Repeated (step · = some ·) least most (count + 1) u t := by
  constructor
  · intro h
    obtain h | ⟨-, v, hv, h⟩ := h.cases
    · exact .inl h
    · obtain rfl : u = v := Option.some.inj (hs.symm.trans hv)
      exact .inr h
  · rintro (⟨rfl, hle⟩ | h)
    · exact ⟨0, hle, hc, rfl⟩
    · exact .cons hs h

/-- The chain holds, behind its first spots, what is reached by as many steps or more. -/
lemma mem_drop_chain {step : Spot → Option Spot} (hstep : Advances (step · = some ·))
    {most : Option Nat} {fuel count j : Nat} {s t : Spot} (hf : s.after.length < fuel)
    (hc : ∀ b, most = some b → count ≤ b) :
    t ∈ (chain step most fuel count s).drop j ↔
      Repeated (step · = some ·) (count + j) most count s t := by
  induction fuel generalizing count j s with
  | zero => omega
  | succ fuel ih =>
    -- a chain that ends here holds nothing but the spot itself
    have stop : (∀ u, mayRepeat most count = true → step s ≠ some u) →
        (t ∈ [s].drop j ↔ Repeated (step · = some ·) (count + j) most count s t) := by
      intro hend
      rw [repeated_iff_of_end hc hend]
      cases j with
      | zero => simp
      | succ j => simp
    rw [chain]
    by_cases hmay : mayRepeat most count = true
    · rw [if_pos hmay]
      cases hs : step s with
      | none => exact stop fun u _ => by simp [hs]
      | some u =>
        have hlt := (hstep s u hs).2
        have rest : ∀ j, t ∈ (chain step most fuel (count + 1) u).drop j ↔
            Repeated (step · = some ·) (count + 1 + j) most (count + 1) u t :=
          fun j => ih (by omega) (mayRepeat_iff.1 hmay)
        rw [repeated_iff_of_step hc hs]
        cases j with
        | zero =>
          -- that many steps have been made by then
          have enough : Repeated (step · = some ·) (count + 0) most (count + 1) u t ↔
              Repeated (step · = some ·) (count + 1 + 0) most (count + 1) u t :=
            ⟨fun ⟨n, _, h⟩ => ⟨n, by omega, h⟩, fun ⟨n, _, h⟩ => ⟨n, by omega, h⟩⟩
          rw [enough, ← rest 0, List.drop_zero, List.drop_zero, List.mem_cons]
          simp
        | succ j =>
          rw [List.drop_succ_cons, rest j, Nat.add_right_comm]
          exact ⟨.inr, fun h => h.resolve_left (by omega)⟩
    · rw [if_neg hmay]
      exact stop fun u h => absurd h hmay

/-- A pattern that can be met in at most one way is met up to one spot only. -/
lemma Meets.unique {p : Pattern} {m : Mode} {s t u : Spot} (hs : p.isSingle = true)
    (hp : p.isPlain = true) (ht : p.Meets m s t) (hu : p.Meets m s u) : t = u := by
  induction p generalizing m s t u with
  | empty => exact Eq.trans ht (Eq.symm hu)
  | char c => exact Option.some.inj (Eq.trans (Eq.symm ht) hu)
  | any => exact Option.some.inj (Eq.trans (Eq.symm ht) hu)
  | set outside items => exact Option.some.inj (Eq.trans (Eq.symm ht) hu)
  | place p => exact ht.2.trans hu.2.symm
  | seq p q ihp ihq =>
    obtain ⟨hsp, hsq⟩ := Bool.and_eq_true_iff.1 hs
    obtain ⟨hpp, hpq⟩ := Bool.and_eq_true_iff.1 hp
    obtain ⟨v, hv, ht⟩ := ht
    obtain ⟨w, hw, hu⟩ := hu
    obtain rfl := ihp hsp hpp hv hw
    exact ihq hsq hpq ht hu
  | alt p q => cases hs
  | many greed least most p =>
    simp only [isSingle, beq_iff_eq] at hs
    simp [isPlain, hs] at hp
  | group i p ih =>
    obtain ⟨v, hv, rfl⟩ := ht
    obtain ⟨w, hw, rfl⟩ := hu
    rw [ih hs hp hv hw]
  | same i =>
    obtain ⟨v, hv, ht⟩ := ht
    obtain ⟨w, hw, hu⟩ := hu
    obtain rfl := Option.some.inj (hv.symm.trans hw)
    exact Option.some.inj (ht.symm.trans hu)
  | ifGroup i p q ihp ihq =>
    obtain ⟨hsp, hsq⟩ := Bool.and_eq_true_iff.1 hs
    obtain ⟨hpp, hpq⟩ := Bool.and_eq_true_iff.1 hp
    simp only [Meets] at ht hu
    split_ifs at ht hu
    · exact ihp hsp hpp ht hu
    · exact ihq hsq hpq ht hu
  | ahead holds p => exact ht.1.trans hu.1.symm
  | behind holds least most p => exact ht.1.trans hu.1.symm
  | atomic p => cases hp
  | within on off p ih => exact ih hs hp ht hu

/-- A search that ends at once gives the spot that a single pattern is met up to. -/
lemma run_some_eq_some_iff {p : Pattern} {m : Mode} (h : Tries (p.run m) (p.Meets m))
    (hs : p.isSingle = true) (hp : p.isPlain = true) {s t : Spot} :
    p.run m s some = some t ↔ p.Meets m s t := by
  have found : ∀ {u}, p.run m s some = some u → p.Meets m s u := by
    intro u hu
    obtain ⟨v, hv, hvu⟩ := h.sound _ _ _ hu
    exact Option.some.inj hvu ▸ hv
  refine ⟨found, fun ht => ?_⟩
  obtain ⟨u, hu⟩ := Option.isSome_iff_exists.1 (h.complete s some t ht rfl)
  rw [hu, ht.unique hs hp (found hu)]

lemma tries_step (f : Char → Bool) :
    Tries (fun s k => (s.step? f).bind k) (fun s t => s.step? f = some t) where
  sound _ _ _ h := Option.bind_eq_some_iff.1 h
  complete _ _ t ht hk := by simpa [ht] using hk

lemma drop_length_sub {α : Type} (xs : List α) (n : Nat) :
    xs.drop (xs.length - (xs.length - n)) = xs.drop n := by
  obtain hle | hle := Nat.le_total n xs.length
  · rw [Nat.sub_sub_self hle]
  · rw [Nat.sub_eq_zero_of_le hle, Nat.sub_zero, List.drop_length, List.drop_eq_nil_of_le hle]

lemma meets_many_iff {p : Pattern} {m : Mode} {greed : Greed} {s t : Spot} :
    (many greed least most p).Meets m s t ↔ Repeated (p.Meets m) least most 0 s t := by
  simp only [Meets, Repeated, Nat.zero_add]

/-- Repeats of a body that tries a pattern try the repeated pattern. -/
lemma tries_repeats {p : Pattern} {m : Mode} {greed : Greed} (hb : Tries body (p.Meets m))
    (hc : p.consumes = true) (hm : most.all (least ≤ ·) = true) :
    Tries (fun s k => repeats body greedy least most k (least + s.after.length + 1) 0 none s)
      ((many greed least most p).Meets m) := by
  have hadv := advances_meets m hc
  constructor
  · intro s k r h
    obtain ⟨t, ht, hk⟩ := repeats_sound hb hadv hm (by omega) (fun _ _ => Nat.zero_le _) h
    exact ⟨t, meets_many_iff.2 ht, hk⟩
  · intro s k t ht hk
    have hlast : ∀ n, none = some n → n < s.passed := by
      intro n h
      cases h
    exact repeats_complete hb hadv (by omega) hlast (meets_many_iff.1 ht) hk

/-- The search that ends at once and then goes on tries a single pattern. -/
lemma tries_single {p : Pattern} {m : Mode} (ih : Tries (p.run m) (p.Meets m))
    (hs : p.isSingle = true) (hp : p.isPlain = true) :
    Tries (fun s k => (p.run m s some).bind k) (p.Meets m) := by
  constructor
  · intro s k r h
    obtain ⟨t, ht, hk⟩ := Option.bind_eq_some_iff.1 h
    exact ⟨t, (run_some_eq_some_iff ih hs hp).1 ht, hk⟩
  · intro s k t ht hk
    rw [(run_some_eq_some_iff ih hs hp).2 ht]
    exact hk

/-- A single pattern that is repeated greedily is searched for along the chain of its repeats, from
the last one back. -/
lemma tries_chain {p : Pattern} {m : Mode} (ih : Tries (p.run m) (p.Meets m))
    (hs : p.isSingle = true) (hp : p.isPlain = true) (hc : p.consumes = true) :
    Tries ((many .greedy least most p).run m) ((many .greedy least most p).Meets m) := by
  have step_eq : (fun s t => p.run m s some = some t) = p.Meets m := by
    ext s t
    exact run_some_eq_some_iff ih hs hp
  have hstep : Advances (fun s t => p.run m s some = some t) := step_eq ▸ advances_meets m hc
  have hrun : ∀ s k, (many .greedy least most p).run m s k
      = ((chain (fun s => p.run m s some) most (least + s.after.length + 1) 0 s).drop
          least).reverse.findSome? k := by
    intro s k
    simp only [run, hs, if_true, trailUpTo_eq hstep, List.append_nil, List.take_reverse,
      List.length_reverse, drop_length_sub]
  have mem_iff : ∀ s t, t ∈ (chain (fun s => p.run m s some) most
      (least + s.after.length + 1) 0 s).drop least ↔
        (many .greedy least most p).Meets m s t := by
    intro s t
    rw [mem_drop_chain hstep (by omega) fun _ _ => Nat.zero_le _, step_eq, meets_many_iff,
      Nat.zero_add]
  constructor
  · intro s k r h
    rw [hrun] at h
    obtain ⟨t, ht, hk⟩ := List.exists_of_findSome?_eq_some h
    exact ⟨t, (mem_iff s t).1 (List.mem_reverse.1 ht), hk⟩
  · intro s k t ht hk
    rw [hrun, List.findSome?_isSome_iff]
    exact ⟨t, List.mem_reverse.2 ((mem_iff s t).2 ht), hk⟩

/-- A repeated pattern is searched for in all the ways that the numbers of repeats allow. -/
lemma tries_many {p : Pattern} {m : Mode} (ih : Tries (p.run m) (p.Meets m)) {greed : Greed}
    (hp : p.isPlain = true) (hc : p.consumes = true) (hg : greed ≠ .possessive)
    (hm : most.all (least ≤ ·) = true) :
    Tries ((many greed least most p).run m) ((many greed least most p).Meets m) := by
  by_cases hs : p.isSingle = true
  · cases greed with
    | possessive => exact absurd rfl hg
    | greedy => exact tries_chain ih hs hp hc
    | lazy =>
      have hrun : (many .lazy least most p).run m = fun s k =>
          repeats (fun s k => (p.run m s some).bind k) false least most k
            (least + s.after.length + 1) 0 none s := by
        funext s k
        simp only [run, hs, if_true, fewest_eq_repeats]
      rw [hrun]
      exact tries_repeats (tries_single ih hs hp) hc hm
  · have hrun : (many greed least most p).run m = fun s k =>
        repeats (p.run m) (greed == .greedy) least most k
          (least + s.after.length + 1) 0 none s := by
      funext s k
      cases greed with
      | greedy => simp only [run, hs]; rfl
      | lazy => simp only [run, hs]; rfl
      | possessive => exact absurd rfl hg
    rw [hrun]
    exact tries_repeats ih hc hm

/-- A look that captures nothing goes on from where it began, if it turns out as it should. -/
lemma tries_look {holds : Bool} (look : Spot → Option Spot) {P : Spot → Prop}
    (hP : ∀ s, (look s).isSome = true ↔ P s)
    (hg : ∀ s t, look s = some t → t.groups = s.groups) :
    Tries (fun s k =>
        match look s with
        | some t => if holds then k { s with groups := t.groups } else none
        | none => if holds then none else k s)
      (fun s t => t = s ∧ (holds = true ↔ P s)) := by
  have look_eq : ∀ s (k : Goal), (match look s with
      | some t => if holds then k { s with groups := t.groups } else none
      | none => if holds then none else k s) = if holds = (look s).isSome then k s else none := by
    intro s k
    cases hs : look s with
    | none => cases holds <;> rfl
    | some t =>
      dsimp only
      rw [hg s t hs]
      cases holds <;> rfl
  have holds_iff : ∀ s, holds = (look s).isSome ↔ (holds = true ↔ P s) := by
    intro s
    rw [← hP, Bool.eq_iff_iff]
  constructor
  · intro s k r h
    rw [look_eq] at h
    split_ifs at h with hs
    exact ⟨s, ⟨rfl, (holds_iff s).1 hs⟩, h⟩
  · rintro s k t ⟨rfl, hs⟩ hk
    rw [look_eq, if_pos ((holds_iff _).2 hs)]
    exact hk

/-- A search that ends at once succeeds exactly if the pattern is met. -/
lemma isSome_run_some {p : Pattern} {m : Mode} (h : Tries (p.run m) (p.Meets m)) (s : Spot) :
    (p.run m s some).isSome = true ↔ ∃ t, p.Meets m s t := by
  constructor
  · intro hs
    obtain ⟨t, ht⟩ := Option.isSome_iff_exists.1 hs
    obtain ⟨u, hu, _⟩ := h.sound _ _ _ ht
    exact ⟨u, hu⟩
  · rintro ⟨t, ht⟩
    exact h.complete s some t ht rfl

lemma groups_eq_of_run {p : Pattern} {m : Mode} (h : Tries (p.run m) (p.Meets m))
    (hg : p.groupless = true) {s t : Spot} (ht : p.run m s some = some t) :
    t.groups = s.groups := by
  obtain ⟨u, hu, hut⟩ := h.sound _ _ _ ht
  exact Option.some.inj hut ▸ hu.groups_eq hg

lemma backBy?_groups {n : Nat} {s t : Spot} (h : s.backBy? n = some t) : t.groups = s.groups := by
  induction n generalizing s with
  | zero => rw [← Option.some.inj h]
  | succ n ih =>
    obtain ⟨u, hu, ht⟩ := Option.bind_eq_some_iff.1 h
    have hg : u.groups = s.groups := by
      unfold Spot.back? at hu
      split at hu <;> cases hu
      rfl
    exact (ih ht).trans hg

/-- The search for a plain pattern goes through the ways in which it is met, and no others. -/
theorem tries_run {p : Pattern} (hp : p.isPlain = true) (m : Mode) :
    Tries (p.run m) (p.Meets m) := by
  induction p generalizing m with
  | empty =>
    constructor
    · intro s k r h
      exact ⟨s, rfl, h⟩
    · intro s k t ht hk
      rw [show t = s from ht] at hk
      exact hk
  | char c => exact tries_step _
  | any => exact tries_step _
  | set outside items => exact tries_step _
  | place p =>
    constructor
    · intro s k r h
      simp only [run] at h
      split_ifs at h with hat
      exact ⟨s, ⟨hat, rfl⟩, h⟩
    · rintro s k t ⟨hat, rfl⟩ hk
      rw [run, if_pos hat]
      exact hk
  | seq p q ihp ihq =>
    obtain ⟨hpp, hpq⟩ := Bool.and_eq_true_iff.1 hp
    constructor
    · intro s k r h
      obtain ⟨u, hu, h⟩ := (ihp hpp m).sound _ _ _ h
      obtain ⟨t, ht, hk⟩ := (ihq hpq m).sound _ _ _ h
      exact ⟨t, ⟨u, hu, ht⟩, hk⟩
    · rintro s k t ⟨u, hu, ht⟩ hk
      exact (ihp hpp m).complete _ _ _ hu ((ihq hpq m).complete _ _ _ ht hk)
  | alt p q ihp ihq =>
    obtain ⟨hpp, hpq⟩ := Bool.and_eq_true_iff.1 hp
    constructor
    · intro s k r h
      obtain h | h := orElse_eq_some h
      · obtain ⟨t, ht, hk⟩ := (ihp hpp m).sound _ _ _ h
        exact ⟨t, .inl ht, hk⟩
      · obtain ⟨t, ht, hk⟩ := (ihq hpq m).sound _ _ _ h
        exact ⟨t, .inr ht, hk⟩
    · rintro s k t ht hk
      exact isSome_orElse (ht.imp ((ihp hpp m).complete _ _ _ · hk)
        ((ihq hpq m).complete _ _ _ · hk))
  | many greed least most p ih =>
    simp only [isPlain, Bool.and_eq_true, bne_iff_ne] at hp
    obtain ⟨⟨⟨hpp, hc⟩, hg⟩, hm⟩ := hp
    exact tries_many (ih hpp m) hpp hc hg hm
  | group i p ih =>
    constructor
    · intro s k r h
      obtain ⟨u, hu, hk⟩ := (ih hp m).sound _ _ _ h
      exact ⟨u.capture i s, ⟨u, hu, rfl⟩, hk⟩
    · rintro s k t ⟨u, hu, rfl⟩ hk
      exact (ih hp m).complete _ _ _ hu hk
  | same i =>
    constructor
    · intro s k r h
      obtain ⟨w, hw, h⟩ := Option.bind_eq_some_iff.1 h
      obtain ⟨t, ht, hk⟩ := Option.bind_eq_some_iff.1 h
      exact ⟨t, ⟨w, hw, ht⟩, hk⟩
    · rintro s k t ⟨w, hw, ht⟩ hk
      simpa [run, hw, ht] using hk
  | ifGroup i p q ihp ihq =>
    obtain ⟨hpp, hpq⟩ := Bool.and_eq_true_iff.1 hp
    constructor
    · intro s k r h
      simp only [run] at h
      simp only [Meets]
      split_ifs at h ⊢
      · exact (ihp hpp m).sound _ _ _ h
      · exact (ihq hpq m).sound _ _ _ h
    · intro s k t ht hk
      simp only [Meets] at ht
      simp only [run]
      split_ifs at ht ⊢
      · exact (ihp hpp m).complete _ _ _ ht hk
      · exact (ihq hpq m).complete _ _ _ ht hk
  | ahead holds p ih =>
    obtain ⟨hpp, hg⟩ := Bool.and_eq_true_iff.1 hp
    have tries := ih hpp m
    exact tries_look _ (isSome_run_some tries) fun _ _ => groups_eq_of_run tries hg
  | behind holds least most p ih =>
    obtain ⟨hpp, hg⟩ := Bool.and_eq_true_iff.1 hp
    have tries := ih hpp m
    refine tries_look (fun s => (s.backBy? least).bind fun b => p.run m b some)
      (fun s => ?_) (fun s t h => ?_)
    · cases hb : s.backBy? least with
      | none => simp
      | some b => simpa using isSome_run_some tries b
    · obtain ⟨b, hb, ht⟩ := Option.bind_eq_some_iff.1 h
      exact (groups_eq_of_run tries hg ht).trans (backBy?_groups hb)
  | atomic p => cases hp
  | within on off p ih => exact ih hp _

/-- The spot between two parts of a text, with nothing captured. -/
def Spot.between (u v : List Char) : Spot :=
  ⟨u.reverse, v, u.length, []⟩

/-- A plain pattern is found from some spot on exactly if it is met there. -/
lemma findFrom_isSome {p : Pattern} (hp : p.isPlain = true) (m : Mode) (u v : List Char) :
    (p.findFrom m u.reverse u.length v).isSome = true ↔
      ∃ w r, v = w ++ r ∧ ∃ t, p.Meets m (.between (u ++ w) r) t := by
  have here := isSome_run_some (tries_run hp m)
  induction v generalizing u with
  | nil =>
    rw [findFrom, Option.isSome_map]
    refine (here (.between u [])).trans ⟨fun ht => ⟨[], [], rfl, by rwa [List.append_nil]⟩, ?_⟩
    rintro ⟨w, r, hwr, ht⟩
    obtain ⟨rfl, rfl⟩ := List.append_eq_nil_iff.1 hwr.symm
    rwa [List.append_nil] at ht
  | cons c v ih =>
    have rest := ih (u ++ [c])
    rw [List.reverse_append, List.reverse_singleton, List.singleton_append, List.length_append,
      List.length_singleton] at rest
    have spot : (⟨u.reverse, c :: v, u.length, []⟩ : Spot) = .between u (c :: v) := rfl
    rw [findFrom]
    cases hr : p.run m ⟨u.reverse, c :: v, u.length, []⟩ some with
    | some t =>
      -- The pattern is met here.
      have ht := (here (.between u (c :: v))).1 (by rw [← spot, hr]; rfl)
      exact ⟨fun _ => ⟨[], c :: v, rfl, by rwa [List.append_nil]⟩, fun _ => rfl⟩
    | none =>
      -- It is not met here, so that it can be met behind the next character only.
      refine rest.trans ?_
      constructor
      · rintro ⟨w, r, rfl, ht⟩
        exact ⟨c :: w, r, rfl, by rwa [List.append_assoc] at ht⟩
      · rintro ⟨w, r, hwr, ht⟩
        cases w with
        | nil =>
          obtain rfl : c :: v = r := hwr
          rw [List.append_nil, ← spot] at ht
          rw [← here, hr] at ht
          cases ht
        | cons d w =>
          obtain ⟨rfl, rfl⟩ := List.cons.inj hwr
          exact ⟨w, r, rfl, by rwa [List.append_assoc]⟩

/-- A plain pattern occurs in a text exactly if it is met from some spot of it on. -/
theorem occurs_iff {p : Pattern} (hp : p.isPlain = true) (m : Mode) (x : List Char) :
    p.occurs m x = true ↔ ∃ u v, x = u ++ v ∧ ∃ t, p.Meets m (.between u v) t :=
  findFrom_isSome hp m [] x

end QueryTutor.Pattern
