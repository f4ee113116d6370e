import QueryTutor.Proofs.Pattern.Traits

/-!
# Invariance

The traits that are read off a pattern hold, so that a pattern that ignores the layout is found in
both of two texts that differ in layout only, or in neither.
-/

namespace QueryTutor.Pattern
open Text

/-- The pattern can be met, and then what is left. -/
def Leads (p : Pattern) (K : Spot → Prop) (s : Spot) : Prop :=
  ∃ t, p.Meets detectionMode s t ∧ K t

variable {K K' : Spot → Prop} {τ ρ : Traits}

namespace Traits.Hold

lemma unknown : Traits.unknown.Hold K K' :=
  ⟨nofun, nofun, nofun⟩

lemma final : Traits.final.Hold (fun _ => True) (fun _ => True) :=
  ⟨fun _ _ _ _ _ => trivial, fun _ _ _ _ _ => trivial, nofun⟩

/-- Where white space is barred, nothing is left behind it that is not left before. -/
lemma of {c b : Bool} (hc : c = true → Carries K K') (hb : b = true → Barred K) :
    (Traits.of c b).Hold K K' where
  carries := hc
  barred := hb
  past h := by
    obtain ⟨hc', hb'⟩ := Bool.and_eq_true_iff.1 h
    intro s s' al hs
    cases hs' : s.isBlank with
    | true => exact absurd hs (hb hb' s al.solid hs')
    | false =>
      rw [skip_of_not_isBlank hs'] at al
      exact hc hc' s s' al hs

lemma union (h : τ.Hold K K') (h' : ρ.Hold K K') : (τ.union ρ).Hold K K' where
  carries := by
    rw [Traits.union, Bool.or_eq_true]
    exact fun hor => hor.elim h.carries h'.carries
  past := by
    rw [Traits.union, Bool.or_eq_true]
    exact fun hor => hor.elim h.past h'.past
  barred := by
    rw [Traits.union, Bool.or_eq_true]
    exact fun hor => hor.elim h.barred h'.barred

/-- What keeps some traits together with others keeps those. -/
lemma of_inter (h : (τ.inter ρ).Hold K K') (heq : τ.inter ρ = ρ) : ρ.Hold K K' :=
  heq ▸ h

lemma weaken (h : τ.Hold K K') : (τ.inter ρ).Hold K K' where
  carries hand := h.carries (Bool.and_eq_true_iff.1 hand).1
  past hand := h.past (Bool.and_eq_true_iff.1 hand).1
  barred hand := h.barred (Bool.and_eq_true_iff.1 hand).1

/-- What can be met in one of two ways has the traits that both ways have. -/
lemma or {L L' : Spot → Prop} (h : τ.Hold K K') (h' : ρ.Hold L L') :
    (τ.inter ρ).Hold (fun s => K s ∨ L s) (fun s => K' s ∨ L' s) where
  carries hand := by
    obtain ⟨ht, hr⟩ := Bool.and_eq_true_iff.1 hand
    exact fun s s' al => Or.imp (h.carries ht s s' al) (h'.carries hr s s' al)
  past hand := by
    obtain ⟨ht, hr⟩ := Bool.and_eq_true_iff.1 hand
    exact fun s s' al => Or.imp (h.past ht s s' al) (h'.past hr s s' al)
  barred hand := by
    obtain ⟨ht, hr⟩ := Bool.and_eq_true_iff.1 hand
    exact fun s hs hb hor => hor.elim (h.barred ht s hs hb) (h'.barred hr s hs hb)

/-- A step over a class of characters without white space, that ignores case. -/
lemma step {f : Char → Bool} (hf : IgnoresCase f) (hr : Refuses f) {c : Bool}
    (h : c = true → Carries K K') :
    (Traits.of c true).Hold (fun s => ∃ t, s.step? f = some t ∧ K t)
      (fun s => ∃ t, s.step? f = some t ∧ K' t) := by
  have solid : ∀ {d}, f d = true → isBlank d = false := by
    intro d hd
    rw [Bool.eq_false_iff]
    intro hb
    rw [hr d hb] at hd
    cases hd
  apply of
  · intro hc s s' al
    rintro ⟨t, ht, hk⟩
    obtain ⟨d, r, hs, hd, rfl⟩ := step?_eq_some_iff_behind.1 ht
    obtain ⟨e, r', hs', hde, al'⟩ := al.exists_behind hs (solid hd)
    refine ⟨_, step?_eq_some_iff_behind.2 ⟨e, r', hs', ?_, rfl⟩, h hc _ _ al' hk⟩
    rwa [← hf d e hde]
  · rintro - s - hb ⟨t, ht, -⟩
    obtain ⟨d, r, hs, hd, -⟩ := step?_eq_some_iff_behind.1 ht
    have hblank : isBlank d = true := by simpa [Spot.isBlank, startsBlank, hs] using hb
    rw [solid hd] at hblank
    cases hblank

end Traits.Hold

/-- Texts with the same wording both begin with a word, or neither does. -/
lemma startsWord_congr {x y : List Char} (h : wording x = wording y) :
    x.head?.any isWord = y.head?.any isWord := by
  cases x with
  | nil =>
    rw [wording_nil, eq_comm, wording_eq_nil] at h
    rw [h]
  | cons c x =>
    cases hc : isBlank c with
    | false =>
      obtain ⟨d, z, rfl, hcd, -⟩ := exists_of_wording_cons hc h
      exact isWord_congr hcd
    | true =>
      have hx : startsBlank (c :: x) = true := hc
      have hy := (startsBlank_congr h).symm.trans hx
      obtain _ | ⟨d, y⟩ := y
      · cases hy
      · have hd : isBlank d = true := hy
        exact (letterless hc).isWord.trans (letterless hd).isWord.symm

lemma isEmpty_congr {x y : List Char} (h : wording x = wording y) : x.isEmpty = y.isEmpty := by
  rw [Bool.eq_iff_iff, List.isEmpty_iff, List.isEmpty_iff, ← wording_eq_nil, h, wording_eq_nil]

/-- All places but the end of a line are in aligned spots alike. -/
lemma isAt_congr {s s' : Spot} (h : Aligned s s') {p : Place} (hp : p ≠ .lineEnd) :
    s.isAt detectionMode p = s'.isAt detectionMode p := by
  have start := isEmpty_congr h.before
  have stop := isEmpty_congr h.after
  have edge : s.isWordEdge detectionMode = s'.isWordEdge detectionMode := by
    have hw : ∀ t : Spot, t.isWordEdge detectionMode
        = (t.before.head?.any isWord != t.after.head?.any isWord) := fun _ => rfl
    rw [hw, hw, startsWord_congr h.before, startsWord_congr h.after]
  cases p with
  | textStart => exact start
  | textEnd => exact stop
  | lineStart => exact congrArg (· || false) start
  | lineEnd => exact absurd rfl hp
  | wordEdge => exact edge
  | noWordEdge => rw [Spot.isAt, Spot.isAt, start, stop, edge]

lemma leads_place (p : Place) (K : Spot → Prop) (s : Spot) :
    Leads (place p) K s ↔ s.isAt detectionMode p = true ∧ K s := by
  constructor
  · rintro ⟨t, ⟨hat, rfl⟩, hk⟩
    exact ⟨hat, hk⟩
  · rintro ⟨hat, hk⟩
    exact ⟨s, ⟨hat, rfl⟩, hk⟩

lemma hold_place {p : Place} (hp : p ≠ .lineEnd) (h : τ.Hold K K') :
    (Traits.of τ.carries τ.barred).Hold (Leads (place p) K) (Leads (place p) K') := by
  apply Traits.Hold.of
  · intro hc s s' al
    rw [leads_place, leads_place, isAt_congr al hp]
    exact And.imp_right (h.carries hc s s' al)
  · intro hb s hs hblank
    rw [leads_place]
    exact fun hk => h.barred hb s hs hblank hk.2

/-- At the end of a line at most one line break is left. -/
lemma hold_lineEnd (h : τ.Hold K K') :
    (⟨false, τ.past, τ.barred⟩ : Traits).Hold (Leads (place .lineEnd) K)
      (Leads (place .lineEnd) K') where
  carries := nofun
  past hpast s s' al hk := by
    rw [leads_place] at hk ⊢
    obtain ⟨hat, hk⟩ := hk
    have hat' : (s.after.isEmpty || s.after == ['\n'] || false) = true := hat
    rw [Bool.or_false, Bool.or_eq_true, List.isEmpty_iff, beq_iff_eq] at hat'
    have hskip : s.skip.after = [] := by
      obtain hs | hs := hat'
      · rw [Spot.skip, hs]
        rfl
      · rw [Spot.skip, hs]
        rfl
    have hs' : s'.after = [] := by
      have hw := al.after
      rwa [hskip, wording_nil, eq_comm, wording_eq_nil] at hw
    refine ⟨?_, h.past hpast s s' al hk⟩
    rw [Spot.isAt, hs']
    rfl
  barred hb s hs hblank := by
    rw [leads_place]
    exact fun hk => h.barred hb s hs hblank hk.2

lemma leads_seq (p q : Pattern) (K : Spot → Prop) : Leads (seq p q) K = Leads p (Leads q K) := by
  ext s
  constructor
  · rintro ⟨t, ⟨u, hu, ht⟩, hk⟩
    exact ⟨u, hu, t, ht, hk⟩
  · rintro ⟨u, hu, t, ht, hk⟩
    exact ⟨t, ⟨u, hu, ht⟩, hk⟩

lemma leads_alt (p q : Pattern) (K : Spot → Prop) :
    Leads (alt p q) K = fun s => Leads p K s ∨ Leads q K s := by
  ext s
  constructor
  · rintro ⟨t, ht | ht, hk⟩
    · exact .inl ⟨t, ht, hk⟩
    · exact .inr ⟨t, ht, hk⟩
  · rintro (⟨t, ht, hk⟩ | ⟨t, ht, hk⟩)
    · exact ⟨t, .inl ht, hk⟩
    · exact ⟨t, .inr ht, hk⟩

/-- The pattern can be met a number of times, and then what is left. -/
def LeadsTimes (p : Pattern) (n : Nat) (K : Spot → Prop) (s : Spot) : Prop :=
  ∃ t, Times (p.Meets detectionMode) n s t ∧ K t

lemma leadsTimes_zero (p : Pattern) (K : Spot → Prop) : LeadsTimes p 0 K = K := by
  ext s
  constructor
  · rintro ⟨t, rfl, hk⟩
    exact hk
  · exact fun hk => ⟨s, rfl, hk⟩

lemma leadsTimes_succ (p : Pattern) (n : Nat) (K : Spot → Prop) :
    LeadsTimes p (n + 1) K = Leads p (LeadsTimes p n K) := by
  ext s
  constructor
  · rintro ⟨t, ⟨u, hu, ht⟩, hk⟩
    exact ⟨u, hu, t, ht, hk⟩
  · rintro ⟨u, hu, t, ht, hk⟩
    exact ⟨t, ⟨u, hu, ht⟩, hk⟩

lemma leads_many (greed : Greed) (least : Nat) (most : Option Nat) (p : Pattern)
    (K : Spot → Prop) (s : Spot) :
    Leads (many greed least most p) K s ↔
      ∃ n, least ≤ n ∧ (∀ b, most = some b → n ≤ b) ∧ LeadsTimes p n K s := by
  constructor
  · rintro ⟨t, ⟨n, hl, hm, ht⟩, hk⟩
    exact ⟨n, hl, hm, t, ht, hk⟩
  · rintro ⟨n, hl, hm, t, ht, hk⟩
    exact ⟨t, ⟨n, hl, hm, ht⟩, hk⟩

/-- A pattern has the traits that are read off it. -/
def Reads (p : Pattern) : Prop :=
  ∀ (τ : Traits) (K K' : Spot → Prop), τ.Hold K K' → (p.traits τ).Hold (Leads p K) (Leads p K')

/-- A repeated pattern has a trait if any number of repeats has it. -/
lemma hold_many {greed : Greed} {least : Nat} {most : Option Nat} {p : Pattern}
    (h : ∀ n, least ≤ n → τ.Hold (LeadsTimes p n K) (LeadsTimes p n K')) :
    τ.Hold (Leads (many greed least most p) K) (Leads (many greed least most p) K') where
  carries hc s s' al := by
    rw [leads_many, leads_many]
    rintro ⟨n, hl, hm, hk⟩
    exact ⟨n, hl, hm, (h n hl).carries hc s s' al hk⟩
  past hp s s' al := by
    rw [leads_many, leads_many]
    rintro ⟨n, hl, hm, hk⟩
    exact ⟨n, hl, hm, (h n hl).past hp s s' al hk⟩
  barred hb s hs hblank := by
    rw [leads_many]
    rintro ⟨n, hl, hm, hk⟩
    exact (h n hl).barred hb s hs hblank hk

/-- What a pattern keeps, any number of repeats of it keeps. -/
lemma hold_times_of_inter {p : Pattern} (hp : p.Reads) (h : τ.Hold K K')
    (heq : (p.traits τ).inter τ = τ) (n : Nat) : τ.Hold (LeadsTimes p n K) (LeadsTimes p n K') := by
  induction n with
  | zero => rwa [leadsTimes_zero, leadsTimes_zero]
  | succ n ih =>
    rw [leadsTimes_succ, leadsTimes_succ]
    exact (hp τ _ _ ih).weaken.of_inter heq

/-- Repeats carry if the pattern carries, and bar white space if the first repeat does. -/
lemma hold_times {p : Pattern} (hp : p.Reads) (h : τ.Hold K K') {least n : Nat} (hn : least ≤ n) :
    (Traits.of (τ.carries && (p.traits (.of true false)).carries)
        ((p.traits .unknown).barred && (0 < least || τ.barred))).Hold
      (LeadsTimes p n K) (LeadsTimes p n K') := by
  apply Traits.Hold.of
  · intro hc
    obtain ⟨hτ, hbody⟩ := Bool.and_eq_true_iff.1 hc
    clear hn
    induction n with
    | zero =>
      rw [leadsTimes_zero, leadsTimes_zero]
      exact h.carries hτ
    | succ n ih =>
      rw [leadsTimes_succ, leadsTimes_succ]
      exact (hp _ _ _ (Traits.Hold.of (b := false) (fun _ => ih) nofun)).carries hbody
  · intro hb
    obtain ⟨hbody, hor⟩ := Bool.and_eq_true_iff.1 hb
    cases n with
    | zero =>
      rw [leadsTimes_zero]
      apply h.barred
      simpa [Nat.le_zero.1 hn] using hor
    | succ n =>
      rw [leadsTimes_succ]
      exact (hp _ _ (fun _ => False) .unknown).barred hbody

/-- A relation goes over any white space, and over another character whatever its case. -/
structure TakesBlank (R : Spot → Spot → Prop) : Prop where
  step : ∀ s t, R s t → ∃ c r, s.after = c :: r ∧ t = s.behind c r
  letter : ∀ s s' c r d r', Aligned s s' → s.after = c :: r → isBlank c = false →
    s'.after = d :: r' → R s (s.behind c r) → R s' (s'.behind d r')
  blank : ∀ s c r, s.Solid → s.after = c :: r → isBlank c = true → R s (s.behind c r)

/-- All white space that is next can be gone over. -/
lemma TakesBlank.times_skip {R : Spot → Spot → Prop} (hR : TakesBlank R) {s : Spot}
    (hs : s.Solid) : ∃ n, Times R n s s.skip ∧ (s.isBlank = true → 1 ≤ n) := by
  generalize hx : s.after = x
  induction x generalizing s with
  | nil =>
    have hb : s.isBlank = false := by rw [Spot.isBlank, hx]; rfl
    exact ⟨0, skip_of_not_isBlank hb, fun h => absurd (hb.symm.trans h) Bool.false_ne_true⟩
  | cons c r ih =>
    have hb : s.isBlank = isBlank c := by rw [Spot.isBlank, hx]; rfl
    cases hc : isBlank c with
    | false =>
      have hs : s.isBlank = false := hb.trans hc
      exact ⟨0, skip_of_not_isBlank hs, fun h => absurd (hs.symm.trans h) Bool.false_ne_true⟩
    | true =>
      obtain ⟨n, hn, -⟩ := ih (s := s.behind c r) hs rfl
      rw [skip_behind hx hc] at hn
      exact ⟨n + 1, ⟨_, hR.blank s c r hs hx hc, hn⟩, fun _ => Nat.le_add_left _ _⟩

/-- The second spot follows the first: it is aligned with it, or with what lies behind the white
space that is next. -/
def Follows (s s' : Spot) : Prop :=
  Aligned s s' ∨ Aligned s.skip s'

/-- A step from a spot can be followed, through all white space at its first character. -/
lemma TakesBlank.follow {R : Spot → Spot → Prop} (hR : TakesBlank R) {s s' t : Spot}
    (hs : Follows s s') (ht : R s t) :
    ∃ n t', Times R n s' t' ∧ Follows t t' ∧ (Aligned s s' → 1 ≤ n) := by
  obtain ⟨c, r, hx, rfl⟩ := hR.step s t ht
  have hb : s.isBlank = isBlank c := by rw [Spot.isBlank, hx]; rfl
  cases hc : isBlank c with
  | false =>
    have al : Aligned s s' := by
      obtain al | al := hs
      · exact al
      · rwa [skip_of_not_isBlank (hb.trans hc)] at al
    obtain ⟨d, r', hx', hcd, al'⟩ := al.exists_behind hx hc
    exact ⟨1, _, ⟨_, hR.letter s s' c r d r' al hx hc hx' ht, rfl⟩, .inl al', fun _ => le_rfl⟩
  | true =>
    have hskip := skip_behind hx hc
    obtain al | al := hs
    · -- the run of white space is gone over at once
      obtain ⟨n, hn, hpos⟩ := hR.times_skip al.symm.solid
      refine ⟨n, _, hn, .inr (hskip ▸ al.skip), fun _ => hpos ?_⟩
      rw [← al.isBlank_eq, hb, hc]
    · refine ⟨0, s', rfl, .inr (hskip ▸ al), fun al' => ?_⟩
      -- white space is next at a spot aligned with one where it is not
      have h1 := al.isBlank_eq.symm.trans (isBlank_skip s)
      rw [← al'.isBlank_eq, hb, hc] at h1
      cases h1

lemma TakesBlank.follow_times {R : Spot → Spot → Prop} (hR : TakesBlank R) {n : Nat}
    {s s' t : Spot} (hs : Follows s s') (ht : Times R n s t) :
    ∃ n' t', Times R n' s' t' ∧ Follows t t' ∧ (Aligned s s' → 1 ≤ n → 1 ≤ n') := by
  induction n generalizing s s' with
  | zero =>
    cases ht
    exact ⟨0, s', rfl, hs, fun _ h => h⟩
  | succ n ih =>
    obtain ⟨u, hu, ht⟩ := ht
    obtain ⟨k, u', hk, hfu, hpos⟩ := hR.follow hs hu
    obtain ⟨n', t', hn', hft, -⟩ := ih hfu ht
    exact ⟨k + n', t', hk.trans hn', hft, fun al _ => Nat.le_add_right_of_le (hpos al)⟩

/-- What is left behind any number of steps can be met there too, if white space can be passed. -/
lemma TakesBlank.leads {R : Spot → Spot → Prop} (hR : TakesBlank R) (h : CarriesPast K K') {n : Nat}
    {s s' t : Spot} (hs : Follows s s') (ht : Times R n s t) (hk : K t) :
    ∃ n' t', Times R n' s' t' ∧ K' t' ∧ (Aligned s s' → 1 ≤ n → 1 ≤ n') := by
  obtain ⟨n', t', hn', hft, hpos⟩ := hR.follow_times hs ht
  obtain al | al := hft
  · obtain ⟨k, hk', -⟩ := hR.times_skip al.symm.solid
    exact ⟨n' + k, t'.skip, hn'.trans hk', h t t'.skip al.skip hk,
      fun al' hn => Nat.le_add_right_of_le (hpos al' hn)⟩
  · exact ⟨n', t', hn', h t t' al hk, hpos⟩

/-- The traits of repeats of a pattern that goes over white space. -/
lemma hold_takesBlank {greed : Greed} {least : Nat} {p : Pattern}
    (hR : TakesBlank (p.Meets detectionMode)) (hl : least ≤ 1) (h : τ.Hold K K') :
    (⟨τ.past, τ.past && least == 0, false⟩ : Traits).Hold (Leads (many greed least none p) K)
      (Leads (many greed least none p) K') where
  carries hp s s' al := by
    rw [leads_many, leads_many]
    rintro ⟨n, hn, -, t, ht, hk⟩
    obtain ⟨n', t', ht', hk', hpos⟩ := hR.leads (h.past hp) (.inl al) ht hk
    refine ⟨n', ?_, nofun, t', ht', hk'⟩
    -- At most one repeat is asked for, and where there was one there still is.
    obtain rfl | rfl : least = 0 ∨ least = 1 := by omega
    · exact Nat.zero_le _
    · exact hpos al hn
  past hp s s' al := by
    obtain ⟨hp, hl0⟩ := Bool.and_eq_true_iff.1 hp
    rw [leads_many, leads_many]
    rintro ⟨n, hn, -, t, ht, hk⟩
    obtain ⟨n', t', ht', hk', -⟩ := hR.leads (h.past hp) (.inr al) ht hk
    refine ⟨n', ?_, nofun, t', ht', hk'⟩
    rw [beq_iff_eq.1 hl0]
    exact Nat.zero_le _
  barred := nofun

/-- A solid pattern goes over no white space. -/
lemma Meets.solid {p : Pattern} (hp : p.isSolid = true) {s t : Spot}
    (h : p.Meets detectionMode s t) : ∃ w, Apart w s t ∧ ∀ c ∈ w, isBlank c = false := by
  have solid : ∀ {f : Char → Bool} {s t : Spot}, Refuses f → s.step? f = some t →
      ∃ w, Apart w s t ∧ ∀ c ∈ w, isBlank c = false := by
    intro f s t hf ht
    obtain ⟨c, hc, hw, -⟩ := step?_eq_some_iff.1 ht
    refine ⟨[c], hw, List.forall_mem_singleton.2 (Bool.eq_false_iff.2 fun hb => ?_)⟩
    rw [hf c hb] at hc
    cases hc
  induction p generalizing s t with
  | empty => exact ⟨[], (show t = s from h) ▸ .refl _, nofun⟩
  | char c => exact solid (fun _ => meets_blank (by simpa [isSolid] using hp)) h
  | any => cases hp
  | set outside items => exact solid (refuses_set hp) h
  | place p => exact ⟨[], h.2 ▸ .refl _, nofun⟩
  | seq p q ihp ihq =>
    obtain ⟨hpp, hpq⟩ := Bool.and_eq_true_iff.1 hp
    obtain ⟨u, hu, ht⟩ := h
    obtain ⟨w, hw, hsw⟩ := ihp hpp hu
    obtain ⟨v, hv, hsv⟩ := ihq hpq ht
    exact ⟨w ++ v, hw.trans hv, List.forall_mem_append.2 ⟨hsw, hsv⟩⟩
  | alt p q ihp ihq =>
    obtain ⟨hpp, hpq⟩ := Bool.and_eq_true_iff.1 hp
    exact h.elim (ihp hpp) (ihq hpq)
  | many greed least most p ih =>
    obtain ⟨n, -, -, ht⟩ := h
    induction n generalizing s with
    | zero => exact ⟨[], (show t = s from ht) ▸ .refl _, nofun⟩
    | succ n ihn =>
      obtain ⟨u, hu, ht⟩ := ht
      obtain ⟨w, hw, hsw⟩ := ih hp hu
      obtain ⟨v, hv, hsv⟩ := ihn ht
      exact ⟨w ++ v, hw.trans hv, List.forall_mem_append.2 ⟨hsw, hsv⟩⟩
  | group i p ih =>
    obtain ⟨u, hu, rfl⟩ := h
    obtain ⟨w, hw, hsw⟩ := ih hp hu
    exact ⟨w, ⟨hw.after, hw.before, hw.passed⟩, hsw⟩
  | same i => cases hp
  | ifGroup i p q => cases hp
  | ahead holds p => exact ⟨[], h.1 ▸ .refl _, nofun⟩
  | behind holds least most p => cases hp
  | atomic p => cases hp
  | within on off p => cases hp

/-- A text is captured under its number, and no other capture changes. -/
lemma captured?_capture {w : List Char} {s t : Spot} (h : Apart w s t) (i j : Nat) :
    (t.capture i s).captured? j = if j = i then some w else t.captured? j := by
  simp only [Spot.captured?, Spot.capture, List.lookup_cons]
  by_cases hj : j = i
  · rw [if_pos hj, hj, beq_self_eq_true, h.passed, h.after, Nat.add_sub_cancel_left]
    simp
  · rw [if_neg hj, beq_false_of_ne hj]

/-- Between aligned spots stand the same words. -/
lemma sameWord_of_apart {w w' : List Char} {s s' t t' : Spot} (hs : Aligned s s')
    (ht : Aligned t t') (hw : Apart w s t) (hw' : Apart w' s' t') (hne : w ≠ [])
    (hsolid : ∀ c ∈ w, isBlank c = false) (hsolid' : ∀ c ∈ w', isBlank c = false) :
    SameWord w w' := by
  refine ⟨hne, hsolid, ?_⟩
  have hwording := hs.after
  rw [hw.after, hw'.after, wording_append hsolid, wording_append hsolid', ht.after] at hwording
  exact List.append_cancel_right hwording

/-- A group captures words that are the same, from aligned spots. -/
lemma hold_group {i : Nat} {p : Pattern} (hp : p.Reads) (hsolid : p.isSolid = true)
    (hc : p.consumes = true) (h : τ.Hold K K') :
    (Traits.of (p.traits (.of τ.carries false)).carries (p.traits .unknown).barred).Hold
      (Leads (group i p) K) (Leads (group i p) K') := by
  apply Traits.Hold.of
  · rintro hcarries s s' al ⟨t, ⟨u, hu, rfl⟩, hk⟩
    -- what is left in the second text need only be met from spots that the pattern is met up to
    have hbody : (Traits.of τ.carries false).Hold
        (fun v => p.Meets detectionMode s v ∧ K (v.capture i s))
        (fun v => p.Meets detectionMode s' v → K' (v.capture i s')) := by
      refine .of (fun hτ v v' alv => ?_) nofun
      rintro ⟨hv, hk⟩ hv'
      obtain ⟨w, hw, hsw⟩ := hv.solid hsolid
      obtain ⟨w', hw', hsw'⟩ := hv'.solid hsolid
      have hne : w ≠ [] := by
        rintro rfl
        have := hv.passed_lt hc
        rw [hw.passed] at this
        exact absurd this (Nat.lt_irrefl _)
      refine h.carries hτ (v.capture i s) (v'.capture i s') ⟨alv.before, alv.after, fun j => ?_⟩ hk
      rw [captured?_capture hw, captured?_capture hw']
      split_ifs
      · exact .some (sameWord_of_apart al alv hw hw' hne hsw hsw')
      · exact alv.groups j
    obtain ⟨u', hu', hk'⟩ := (hp _ _ _ hbody).carries hcarries s s' al ⟨u, hu, hu, hk⟩
    exact ⟨_, ⟨u', hu', rfl⟩, hk' hu'⟩
  · rintro hbarred s hs hblank ⟨t, ⟨u, hu, rfl⟩, hk⟩
    have first := hp .unknown (fun v => K (v.capture i s)) (fun _ => False) .unknown
    exact first.barred hbarred s hs hblank ⟨u, hu, hk⟩

/-- A word is repeated by one that is the same, with or without case. -/
lemma repeats_of_same {w w' v v' : List Char} (hw : w.map Char.toLower = w'.map Char.toLower)
    (hv : v.map Char.toLower = v'.map Char.toLower)
    (h : List.Forall₂ (fun c d => detectionMode.repeats c d = true) w v) :
    List.Forall₂ (fun c d => detectionMode.repeats c d = true) w' v' := by
  induction h generalizing w' v' with
  | nil =>
    rw [List.map_nil, eq_comm, List.map_eq_nil_iff] at hw hv
    rw [hw, hv]
    exact .nil
  | @cons c d w v hcd _ ih =>
    obtain _ | ⟨c', w'⟩ := w'
    · cases hw
    obtain _ | ⟨d', v'⟩ := v'
    · cases hv
    obtain ⟨hc, hw⟩ := List.cons.inj hw
    obtain ⟨hd, hv⟩ := List.cons.inj hv
    exact .cons (repeats_congr hc hd ▸ hcd) (ih hw hv)

lemma solid_of_repeats {w v : List Char} (hw : ∀ c ∈ w, isBlank c = false)
    (h : List.Forall₂ (fun c d => detectionMode.repeats c d = true) w v) :
    ∀ c ∈ v, isBlank c = false := by
  induction h with
  | nil => exact nofun
  | @cons c d w v hcd _ ih =>
    obtain ⟨hc, hw⟩ := List.forall_mem_cons.1 hw
    refine List.forall_mem_cons.2 ⟨Bool.eq_false_iff.2 fun hd => ?_, ih hw⟩
    rw [repeats_blank hc hd] at hcd
    cases hcd

/-- A text with the wording of one that begins with a word begins with the same word. -/
lemma exists_of_wording_append {v r y : List Char} (hv : ∀ c ∈ v, isBlank c = false)
    (h : wording (v ++ r) = wording y) :
    ∃ v' r', y = v' ++ r' ∧ v.map Char.toLower = v'.map Char.toLower ∧ wording r = wording r' := by
  induction v generalizing y with
  | nil => exact ⟨[], y, rfl, rfl, h⟩
  | cons c v ih =>
    obtain ⟨hc, hv⟩ := List.forall_mem_cons.1 hv
    obtain ⟨d, z, rfl, hcd, hz⟩ := exists_of_wording_cons hc h
    obtain ⟨v', r', rfl, hv', hr⟩ := ih hv hz
    exact ⟨d :: v', r', rfl, by rw [List.map_cons, List.map_cons, hcd, hv'], hr⟩

/-- A captured word is repeated from aligned spots alike. -/
lemma hold_same {i : Nat} (h : τ.Hold K K') :
    (Traits.of τ.carries true).Hold (Leads (same i) K) (Leads (same i) K') := by
  apply Traits.Hold.of
  · rintro hc s s' al ⟨t, ⟨w, hcap, ht⟩, hk⟩
    have hrel := al.groups i
    rw [hcap] at hrel
    generalize hcap' : s'.captured? i = o' at hrel
    cases hrel with
    | @some _ w' hw =>
      -- The word stands in the second text too, with the same wording behind it.
      obtain ⟨v, hwv, hv, hg⟩ := pass?_eq_some ht
      have hsolid := solid_of_repeats hw.solid hwv
      have hwording := al.after
      rw [hv.after] at hwording
      obtain ⟨v', r', hx', hvv', hr⟩ := exists_of_wording_append hsolid hwording
      obtain ⟨t', ht', hv', hg'⟩ := exists_pass? (repeats_of_same hw.same hvv' hwv) hx'
      have hr' : t'.after = r' := List.append_cancel_left (hv'.after.symm.trans hx')
      refine ⟨t', ⟨w', hcap', ht'⟩, h.carries hc t t' ⟨?_, hr' ▸ hr, ?_⟩ hk⟩
      · have front : ∀ {u : List Char}, (∀ c ∈ u, isBlank c = false) →
            ∀ c ∈ u.reverse, isBlank c = false := fun hu c hc => hu c (List.mem_reverse.1 hc)
        rw [hv.before, hv'.before, wording_append (front hsolid),
          wording_append (front (solid_congr hvv' hsolid)), List.map_reverse, List.map_reverse,
          hvv', al.before]
      · intro j
        rw [Spot.captured?, Spot.captured?, hg, hg']
        exact al.groups j
  · rintro - s hs hblank ⟨t, ⟨w, hcap, ht⟩, -⟩
    -- What has been captured is a word, so what repeats it does not begin with white space.
    obtain ⟨hne, hsolid⟩ := hs i w hcap
    obtain ⟨v, hwv, hv, -⟩ := pass?_eq_some ht
    have hvsolid := solid_of_repeats hsolid hwv
    obtain _ | ⟨c, v⟩ := v
    · cases hwv
      exact hne rfl
    · have hc : isBlank c = true := by simpa [Spot.isBlank, startsBlank, hv.after] using hblank
      rw [hvsolid c List.mem_cons_self] at hc
      cases hc

/-- A look ahead turns out the same way from aligned spots. -/
lemma hold_ahead {holds : Bool} {p : Pattern} (hp : p.Reads) (h : τ.Hold K K') :
    (Traits.of (τ.carries && (p.traits .final).carries) τ.barred).Hold (Leads (ahead holds p) K)
      (Leads (ahead holds p) K') := by
  have leads_iff : ∀ (L : Spot → Prop) (s : Spot), Leads (ahead holds p) L s ↔
      (holds = true ↔ Leads p (fun _ => True) s) ∧ L s := by
    intro L s
    simp only [Leads, Meets, and_true]
    constructor
    · rintro ⟨t, ⟨rfl, ht⟩, hL⟩
      exact ⟨ht, hL⟩
    · rintro ⟨ht, hL⟩
      exact ⟨s, ⟨rfl, ht⟩, hL⟩
  apply Traits.Hold.of
  · intro hc s s' al
    obtain ⟨hτ, hlook⟩ := Bool.and_eq_true_iff.1 hc
    have look := (hp _ _ _ .final).carries hlook
    rw [leads_iff, leads_iff]
    rintro ⟨hs, hk⟩
    exact ⟨hs.trans ⟨look s s' al, look s' s al.symm⟩, h.carries hτ s s' al hk⟩
  · intro hb s hs hblank
    rw [leads_iff]
    exact fun hk => h.barred hb s hs hblank hk.2

/-- A single character of a class that has all white space, whatever its case. -/
lemma takesBlank_step {f : Char → Bool} (hf : IgnoresCase f) (ha : Admits f) :
    TakesBlank (fun s t => s.step? f = some t) where
  step s t ht := by
    obtain ⟨c, r, hs, -, rfl⟩ := step?_eq_some_iff_behind.1 ht
    exact ⟨c, r, hs, rfl⟩
  letter s s' c r d r' al hs hc hs' ht := by
    obtain ⟨c', r'', hs'', hfc, -⟩ := step?_eq_some_iff_behind.1 ht
    rw [hs] at hs''
    obtain ⟨rfl, rfl⟩ := List.cons.inj hs''
    obtain ⟨e, z, hz, hce, -⟩ := al.exists_behind hs hc
    rw [hs'] at hz
    obtain ⟨rfl, rfl⟩ := List.cons.inj hz
    exact step?_eq_some_iff_behind.2 ⟨d, r', hs', hf c d hce ▸ hfc, rfl⟩
  blank s c r _ hs hc := step?_eq_some_iff_behind.2 ⟨c, r, hs, ha c hc, rfl⟩

/-- A guard that bars white space does not keep a character from being gone over. -/
lemma takesBlank_seq {p q : Pattern} (hp : p.Reads) (hc : (p.traits .final).carries = true)
    (hb : (p.traits .final).barred = true) (hq : TakesBlank (q.Meets detectionMode)) :
    TakesBlank ((seq (ahead false p) q).Meets detectionMode) := by
  have hold := hp _ _ _ .final
  have meets_iff : ∀ s t, (seq (ahead false p) q).Meets detectionMode s t ↔
      ¬ Leads p (fun _ => True) s ∧ q.Meets detectionMode s t := by
    intro s t
    simp only [Meets, Leads, and_true, Bool.false_eq_true, false_iff]
    constructor
    · rintro ⟨u, ⟨rfl, hn⟩, ht⟩
      exact ⟨hn, ht⟩
    · rintro ⟨hn, ht⟩
      exact ⟨s, ⟨rfl, hn⟩, ht⟩
  constructor
  · intro s t ht
    exact hq.step s t ((meets_iff s t).1 ht).2
  · intro s s' c r d r' al hs hcb hs' ht
    obtain ⟨hn, ht⟩ := (meets_iff _ _).1 ht
    exact (meets_iff _ _).2 ⟨fun h => hn (hold.carries hc s' s al.symm h),
      hq.letter s s' c r d r' al hs hcb hs' ht⟩
  · intro s c r hsolid hs hcb
    have hblank : s.isBlank = true := by rw [Spot.isBlank, hs]; exact hcb
    exact (meets_iff _ _).2 ⟨hold.barred hb s hsolid hblank, hq.blank s c r hsolid hs hcb⟩

/-- Patterns have the traits that are read off them, and those that are read to go over white space
do. -/
theorem reads_and_takesBlank (p : Pattern) :
    p.Reads ∧ (p.takesBlank = true → TakesBlank (p.Meets detectionMode)) ∧
      ∀ holds q, p = ahead holds q → q.Reads := by
  -- By the pattern.  A guarded character also needs what holds of the pattern of its guard.
  induction p with
  | empty =>
    refine ⟨fun τ K K' h => ?_, nofun, nofun⟩
    have leads : ∀ L : Spot → Prop, Leads empty L = L := by
      intro L
      ext s
      exact ⟨fun ⟨t, ht, hL⟩ => (show t = s from ht) ▸ hL, fun hL => ⟨s, rfl, hL⟩⟩
    rwa [traits, leads, leads]
  | char c =>
    refine ⟨fun τ K K' h => ?_, nofun, nofun⟩
    rw [traits]
    split_ifs with hc
    · exact .unknown
    · exact .step (fun _ _ => meets_congr c)
        (fun _ => meets_blank (Bool.eq_false_iff.2 hc)) h.carries
  | any =>
    refine ⟨fun τ K K' h => .unknown, fun _ => ?_, nofun⟩
    exact takesBlank_step (fun _ _ _ => rfl) fun _ _ => rfl
  | set outside items =>
    refine ⟨fun τ K K' h => ?_, fun ha => ?_, nofun⟩
    · rw [traits]
      split_ifs with hr
      · exact .step (fun _ _ => meetsSet_congr outside items) (refuses_set hr) h.carries
      · exact .unknown
    · exact takesBlank_step (fun _ _ => meetsSet_congr outside items) (admits_set ha)
  | place p =>
    refine ⟨fun τ K K' h => ?_, nofun, nofun⟩
    cases p with
    | lineEnd => exact hold_lineEnd h
    | textStart => exact hold_place nofun h
    | textEnd => exact hold_place nofun h
    | lineStart => exact hold_place nofun h
    | wordEdge => exact hold_place nofun h
    | noWordEdge => exact hold_place nofun h
  | seq p q ihp ihq =>
    refine ⟨fun τ K K' h => ?_, fun ht => ?_, nofun⟩
    · rw [traits, leads_seq, leads_seq]
      exact ihp.1 _ _ _ (ihq.1 _ _ _ h)
    · cases p with
      | ahead holds g =>
        cases holds with
        | true => cases ht
        | false =>
          simp only [takesBlank, Bool.and_eq_true] at ht
          obtain ⟨⟨hc, hb⟩, hq⟩ := ht
          exact takesBlank_seq (ihp.2.2 _ _ rfl) hc hb (ihq.2.1 hq)
      | _ => cases ht
  | alt p q ihp ihq =>
    refine ⟨fun τ K K' h => ?_, nofun, nofun⟩
    rw [traits, leads_alt, leads_alt]
    exact (ihp.1 _ _ _ h).or (ihq.1 _ _ _ h)
  | many greed least most p ih =>
    refine ⟨fun τ K K' h => ?_, nofun, nofun⟩
    rw [traits]
    split_ifs with ht
    · simp only [Bool.and_eq_true, Option.isNone_iff_eq_none, decide_eq_true_eq] at ht
      obtain ⟨⟨ht, rfl⟩, hl⟩ := ht
      exact hold_takesBlank (ih.2.1 ht) hl h
    · exact .union (hold_many fun n _ => hold_times_of_inter ih.1 h ‹_› n)
        (hold_many fun n hn => hold_times ih.1 h hn)
    · exact .union .unknown (hold_many fun n hn => hold_times ih.1 h hn)
  | group i p ih =>
    refine ⟨fun τ K K' h => ?_, nofun, nofun⟩
    rw [traits]
    split_ifs with hp
    · obtain ⟨hsolid, hc⟩ := Bool.and_eq_true_iff.1 hp
      exact hold_group ih.1 hsolid hc h
    · exact .unknown
  | same i => exact ⟨fun τ K K' h => hold_same h, nofun, nofun⟩
  | ifGroup i p q => exact ⟨fun _ _ _ _ => .unknown, nofun, nofun⟩
  | ahead holds p ih =>
    refine ⟨fun τ K K' h => hold_ahead ih.1 h, nofun, ?_⟩
    rintro _ _ ⟨⟩
    exact ih.1
  | behind holds least most p => exact ⟨fun _ _ _ _ => .unknown, nofun, nofun⟩
  | atomic p => exact ⟨fun _ _ _ _ => .unknown, nofun, nofun⟩
  | within on off p => exact ⟨fun _ _ _ _ => .unknown, nofun, nofun⟩

/-- A pattern that is anchored is met from the beginning of a text only. -/
lemma Meets.before_eq_nil {p : Pattern} (hp : p.isAnchored = true) {s t : Spot}
    (h : p.Meets detectionMode s t) : s.before = [] := by
  induction p generalizing s t with
  | place p =>
    obtain ⟨hat, -⟩ := h
    cases p with
    | textStart => exact List.isEmpty_iff.1 hat
    | lineStart =>
      have hat' : (s.before.isEmpty || false) = true := hat
      rwa [Bool.or_false, List.isEmpty_iff] at hat'
    | _ => cases hp
  | seq p q ihp _ =>
    obtain ⟨u, hu, -⟩ := h
    exact ihp hp hu
  | alt p q ihp ihq =>
    obtain ⟨hpp, hpq⟩ := Bool.and_eq_true_iff.1 hp
    exact h.elim (ihp hpp) (ihq hpq)
  | group i p ih =>
    obtain ⟨u, hu, -⟩ := h
    exact ih hp hu
  | _ => cases hp

/-- All spots of a text can be gone to from its beginning, one character at a time. -/
lemma times_between (u v w : List Char) :
    Times (any.Meets detectionMode) v.length (.between u (v ++ w)) (.between (u ++ v) w) := by
  induction v generalizing u with
  | nil => rw [List.nil_append, List.append_nil]; rfl
  | cons c v ih =>
    have next := ih (u ++ [c])
    rw [List.append_assoc, List.singleton_append] at next
    refine ⟨.between (u ++ [c]) (v ++ w), ?_, next⟩
    refine step?_eq_some_iff_behind.2 ⟨c, v ++ w, rfl, rfl, ?_⟩
    simp [Spot.between, Spot.behind]

/-- A spot that is gone to from the beginning of a text, one character at a time, is between two
parts of it. -/
lemma eq_between_of_times {n : Nat} {u v : List Char} {t : Spot}
    (h : Times (any.Meets detectionMode) n (.between u v) t) :
    ∃ w r, v = w ++ r ∧ t = .between (u ++ w) r := by
  induction n generalizing u v with
  | zero => exact ⟨[], v, rfl, by rw [List.append_nil]; exact h⟩
  | succ n ih =>
    obtain ⟨s, hs, ht⟩ := h
    obtain ⟨c, r, hv, -, rfl⟩ := step?_eq_some_iff_behind.1 hs
    obtain rfl : v = c :: r := hv
    have hspot : Spot.behind (.between u (c :: r)) c r = .between (u ++ [c]) r := by
      simp [Spot.between, Spot.behind]
    rw [hspot] at ht
    obtain ⟨w, r', rfl, heq⟩ := ih ht
    exact ⟨c :: w, r', rfl, by rw [heq, List.append_assoc, List.singleton_append]⟩

/-- A pattern that ignores the layout and is found in a text is found in one of the same wording. -/
lemma occurs_of_wording {p : Pattern} (hp : p.ignoresLayout = true) {x y : List Char}
    (h : wording x = wording y) (hx : p.occurs detectionMode x = true) :
    p.occurs detectionMode y = true := by
  obtain ⟨hplain, hor⟩ := Bool.and_eq_true_iff.1 hp
  have al : Aligned (.between [] x) (.between [] y) := ⟨rfl, h, fun _ => .none⟩
  have hold := (reads_and_takesBlank p).1 _ _ _ .final
  rw [occurs_iff hplain] at hx ⊢
  obtain ⟨u, v, rfl, t, ht⟩ := hx
  obtain hpast | hanch := Bool.or_eq_true_iff.1 hor
  -- A spot within the text is one behind so many characters of any kind.
  · have htimes := times_between [] u v
    rw [List.nil_append] at htimes
    obtain ⟨n, t', ht', ⟨t'', ht'', -⟩, -⟩ := TakesBlank.leads
      (takesBlank_step (fun _ _ _ => rfl) fun _ _ => rfl) (hold.past hpast) (.inl al) htimes
      ⟨t, ht, trivial⟩
    obtain ⟨w, r, rfl, rfl⟩ := eq_between_of_times ht'
    exact ⟨w, r, rfl, t'', ht''⟩
  -- An anchored pattern is met from the beginning, where the texts are aligned.
  · obtain ⟨hanchored, hcarries⟩ := Bool.and_eq_true_iff.1 hanch
    have hu : u = [] := List.reverse_eq_nil_iff.1 (ht.before_eq_nil hanchored)
    subst hu
    obtain ⟨t', ht', -⟩ := hold.carries hcarries _ _ al ⟨t, ht, trivial⟩
    exact ⟨[], y, rfl, t', ht'⟩

/-- A pattern that ignores the layout is found in both of two texts that differ in layout only, or
in neither. -/
theorem occurs_congr {p : Pattern} (hp : p.ignoresLayout = true) {x y : List Char}
    (h : SameButLayout x y) : p.occurs detectionMode x = p.occurs detectionMode y := by
  have hw := h.wording_eq
  rw [Bool.eq_iff_iff]
  exact ⟨occurs_of_wording hp hw, occurs_of_wording hp hw.symm⟩

end QueryTutor.Pattern
