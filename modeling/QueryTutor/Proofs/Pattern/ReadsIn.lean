import Mathlib.Tactic.Common
import QueryTutor.Pattern.Parser

/-!
# Reading within a text

Whatever a part of a pattern is read for, an end of the text is left behind it, and all that can be
wrong with the part has a place in the text, except for a count of repeats without a number.
-/

namespace QueryTutor.Pattern

variable {α β : Type} {t t' : List Char}

/-! ## Counts in a text -/

/-- The digits of both bounds of a count, and what is written of them between the braces: one number,
or two with a comma. -/
inductive Bounds : List Char → List Char → List Char → Prop
  | exact {ds : List Char} (digits : ∀ d ∈ ds, d.isDigit = true) : Bounds ds ds ds
  | between {lo hi : List Char} (lo_digits : ∀ d ∈ lo, d.isDigit = true)
      (hi_digits : ∀ d ∈ hi, d.isDigit = true) : Bounds lo hi (lo ++ ',' :: hi)

/-- Somewhere in the text there is a count in braces, one of whose bounds there is no number for. -/
def HasLargeCount (t : List Char) : Prop :=
  ∃ lo hi w, Bounds lo hi w ∧ (countLimit ≤ digitsValue 10 lo ∨ countLimit ≤ digitsValue 10 hi) ∧
    '\x7b' :: w ++ ['\x7d'] <:+: t

lemma HasLargeCount.mono (h : HasLargeCount t) (hsub : t <:+: t') : HasLargeCount t' := by
  obtain ⟨lo, hi, w, hw, hlarge, hin⟩ := h
  exact ⟨lo, hi, w, hw, hlarge, hin.trans hsub⟩

/-! ## Steps of reading -/

/-- Reading in the text `t` leaves an end of it, and fails for a count without a number only if
there is one in `t`. -/
def ReadsIn (t : List Char) (left : α → List Char) : Except Error α → Prop
  | .ok a => left a <:+ t
  | .error e => e = .countTooLarge → HasLargeCount t

section ReadsIn

variable {left : α → List Char} {left' : β → List Char}

lemma readsIn_pure {a : α} : ReadsIn (left a) left (pure a) :=
  List.suffix_rfl

lemma readsIn_fail {fault : Fault} {place : Nat} : ReadsIn t left (fail fault place) :=
  nofun

lemma ReadsIn.mono {x : Except Error α} (h : ReadsIn t left x) (hsub : t <:+ t') :
    ReadsIn t' left x := by
  cases x with
  | ok a => exact List.IsSuffix.trans h hsub
  | error e => exact fun he => (h he).mono hsub.isInfix

lemma ReadsIn.ite {c : Prop} [Decidable c] {x y : Except Error α} (hx : ReadsIn t left x)
    (hy : ReadsIn t left y) : ReadsIn t left (if c then x else y) := by
  split
  · exact hx
  · exact hy

lemma ReadsIn.map {x : Except Error α} {f : α → β} (hx : ReadsIn t left x)
    (hf : ∀ a, left' (f a) = left a) : ReadsIn t left' (x.map f) := by
  cases x with
  | ok a =>
    show left' (f a) <:+ t
    rw [hf]
    exact hx
  | error e => exact hx

/-- What is read in two steps is read within the text if the second step is read within what the
first one leaves. -/
lemma ReadsIn.bind {x : Except Error α} {f : α → Except Error β} (hx : ReadsIn t left x)
    (hf : ∀ a, ReadsIn (left a) left' (f a)) : ReadsIn t left' (x >>= f) := by
  cases x with
  | ok a => exact (hf a).mono hx
  | error e => exact hx

/-- What the first step comes to may be used in the second. -/
lemma ReadsIn.andThen {x : Except Error α} {f : α → Except Error β} (hx : ReadsIn t left x)
    (hf : ∀ a, x = .ok a → ReadsIn t left' (f a)) : ReadsIn t left' (x >>= f) := by
  cases x with
  | ok a => exact hf a rfl
  | error e => exact hx

end ReadsIn

/-- Two steps come to a result exactly if each of them does. -/
lemma bind_eq_ok_iff {x : Except Error α} {f : α → Except Error β} {b : β} :
    x >>= f = .ok b ↔ ∃ a, x = .ok a ∧ f a = .ok b := by
  cases x with
  | ok a =>
    constructor
    · exact fun h => ⟨a, rfl, h⟩
    · rintro ⟨_, ⟨⟩, h⟩
      exact h
  | error e =>
    constructor
    · rintro ⟨⟩
    · rintro ⟨_, ⟨⟩, _⟩

/-! ## Symbols -/

namespace Source

variable {s s' : Source}

/-- The text that is left to read. -/
def text (s : Source) : List Char :=
  s.symbols.flatMap (·.text)

lemma text_tail_suffix : text { s with symbols := s.symbols.tail } <:+ s.text := by
  obtain ⟨_ | ⟨a, as⟩, n⟩ := s
  · exact List.suffix_rfl
  · exact List.suffix_append a.text _

lemma readsIn_settle : ReadsIn s.text text s.settle := by
  rw [settle]
  exact .ite readsIn_fail readsIn_pure

lemma readsIn_next : ReadsIn s.text text s.next :=
  readsIn_settle.mono text_tail_suffix

lemma readsIn_takeUpTo (p : Char → Bool) (n : Nat) (s : Source) :
    ReadsIn s.text (·.2.text) (s.takeUpTo p n) := by
  induction n generalizing s with
  | zero => exact readsIn_pure
  | succ n ih =>
    rw [takeUpTo]
    split
    · refine .ite ?_ readsIn_pure
      apply readsIn_next.bind
      intro r
      apply (ih r).bind
      exact fun _ => readsIn_pure
    · exact readsIn_pure

lemma readsIn_nameUpTo (what : String) (terminator : Char) (n : Nat) (name : List Char)
    (s : Source) : ReadsIn s.text (·.2.text) (s.nameUpTo what terminator n name) := by
  induction n generalizing name s with
  | zero => exact readsIn_fail
  | succ n ih =>
    rw [nameUpTo]
    split
    · exact .ite readsIn_fail readsIn_fail
    · apply readsIn_next.bind
      exact fun r => .ite (.ite readsIn_fail readsIn_pure) (ih _ r)

lemma readsIn_name {what : String} {terminator : Char} :
    ReadsIn s.text (·.2.text) (s.name what terminator) :=
  readsIn_nameUpTo _ _ _ _ s

/-- If the symbol looked for is missing, nothing is left. -/
lemma readsIn_skipUpTo (u : List Char) (n : Nat) (s : Source) :
    ReadsIn s.text (·.elim [] text) (s.skipUpTo u n) := by
  induction n generalizing s with
  | zero => exact List.nil_suffix
  | succ n ih =>
    rw [skipUpTo]
    split
    · exact List.nil_suffix
    · apply readsIn_next.bind
      exact fun r => .ite readsIn_pure (ih r)

lemma text_of_head? {u : List Char} (h : s.head? = some u) :
    s.text = u ++ text { s with symbols := s.symbols.tail } := by
  obtain ⟨_ | ⟨a, as⟩, n⟩ := s
  · cases h
  · obtain rfl : a.text = u := Option.some.inj h
    rfl

lemma next_eq_ok (h : s.next = .ok s') : s' = { s with symbols := s.symbols.tail } := by
  rw [next, settle] at h
  split at h
  · cases h
  · exact (Except.ok.inj h).symm

/-- The next symbol has been read off the text. -/
lemma text_eq_append {u : List Char} (hhead : s.head? = some u) (hnext : s.next = .ok s') :
    s.text = u ++ s'.text := by
  rw [text_of_head? hhead, next_eq_ok hnext]

lemma text_eq_cons {c : Char} (hmeets : s.meets c = true) (hnext : s.next = .ok s') :
    s.text = c :: s'.text :=
  text_eq_append (beq_iff_eq.1 hmeets) hnext

/-- What is taken stands at the front of the text, and all of it is of the kind asked for. -/
lemma takeUpTo_eq_ok {p : Char → Bool} {n : Nat} {cs : List Char}
    (h : s.takeUpTo p n = .ok (cs, s')) : (∀ c ∈ cs, p c = true) ∧ s.text = cs ++ s'.text := by
  induction n generalizing s cs with
  | zero =>
    cases h
    exact ⟨nofun, rfl⟩
  | succ n ih =>
    rw [takeUpTo] at h
    split at h
    · next c hhead =>
      split at h
      · next hc =>
        obtain ⟨r, hnext, h⟩ := bind_eq_ok_iff.1 h
        obtain ⟨⟨cs', _⟩, htake, h⟩ := bind_eq_ok_iff.1 h
        cases h
        obtain ⟨hall, htext⟩ := ih htake
        refine ⟨List.forall_mem_cons.2 ⟨hc, hall⟩, ?_⟩
        rw [text_eq_append hhead hnext, htext]
        rfl
      · cases h
        exact ⟨nofun, rfl⟩
    · cases h
      exact ⟨nofun, rfl⟩

end Source

/-- The symbols of a text are the text cut into pieces. -/
lemma flatMap_symbolsFrom (place : Nat) (t : List Char) :
    (symbolsFrom place t).flatMap (·.text) = t := by
  fun_induction symbolsFrom place t with
  | case1 => rfl
  | case2 place c r ih =>
    rw [List.flatMap_cons, ih]
    rfl
  | case3 place c r _ ih =>
    rw [List.flatMap_cons, ih]
    rfl

lemma readsIn_ofText : ReadsIn t Source.text (Source.ofText t) := by
  have htext : Source.text ⟨symbolsFrom 0 t, t.length⟩ = t := flatMap_symbolsFrom 0 t
  have hsettle := Source.readsIn_settle (s := ⟨symbolsFrom 0 t, t.length⟩)
  rw [htext] at hsettle
  exact hsettle

section Parts

variable {s : Source}

/-! ## Escapes and sets -/

lemma readsIn_hexEscape (c : Char) (n : Nat) : ReadsIn s.text (·.2.text) (hexEscape c n s) := by
  apply (Source.readsIn_takeUpTo _ n s).bind
  rintro ⟨ds, r⟩
  exact .ite readsIn_fail (.ite readsIn_fail readsIn_pure)

lemma readsIn_nameEscape : ReadsIn s.text (·.2.text) (nameEscape s) := by
  rw [nameEscape]
  refine .ite readsIn_fail ?_
  apply Source.readsIn_next.bind
  intro r
  apply Source.readsIn_name.bind
  exact fun _ => readsIn_fail

lemma readsIn_octalEscape (c : Char) : ReadsIn s.text (·.2.text) (octalEscape c s) := by
  apply (Source.readsIn_takeUpTo _ 2 s).bind
  rintro ⟨ds, r⟩
  exact .ite readsIn_fail readsIn_pure

lemma readsIn_plainEscape (c : Char) : ReadsIn s.text (·.2.text) (plainEscape c s) := by
  rw [plainEscape]
  exact .ite readsIn_fail readsIn_pure

lemma readsIn_codeEscape {c : Char} {x : Except Error (Nat × Source)}
    (h : codeEscape? c s = some x) : ReadsIn s.text (·.2.text) x := by
  unfold codeEscape? at h
  split at h <;> cases h
  · exact readsIn_hexEscape _ 2
  · exact readsIn_hexEscape _ 4
  · exact readsIn_hexEscape _ 8
  · exact readsIn_nameEscape

lemma readsIn_setEscape (c : Char) : ReadsIn s.text (·.2.text) (setEscape c s) := by
  rw [setEscape]
  split
  · exact readsIn_pure
  · exact readsIn_pure
  · next h => exact (readsIn_codeEscape h).map fun _ => rfl
  · have hsingle : ReadsIn s.text (·.2.text)
        (if isOctal c then octalEscape c s else plainEscape c s) :=
      .ite (readsIn_octalEscape c) (readsIn_plainEscape c)
    exact hsingle.map fun _ => rfl

lemma readsIn_setSymbol (u : List Char) : ReadsIn s.text (·.2.text) (setSymbol u s) := by
  unfold setSymbol
  split
  · exact readsIn_setEscape _
  · exact readsIn_pure
  · exact readsIn_pure

lemma readsIn_setUpTo (start n : Nat) (items : List SetItem) (s : Source) :
    ReadsIn s.text (·.2.text) (setUpTo start n items s) := by
  induction n generalizing items s with
  | zero => exact readsIn_fail
  | succ n ih =>
    rw [setUpTo]
    split
    · exact readsIn_fail
    · apply Source.readsIn_next.bind
      intro s₁
      refine .ite readsIn_pure ?_
      apply (readsIn_setSymbol _).bind
      rintro ⟨item, s₂⟩
      -- a range takes one more part behind its hyphen
      refine .ite (ih _ s₂) ?_
      apply Source.readsIn_next.bind
      intro s₃
      split
      · exact readsIn_fail
      · apply Source.readsIn_next.bind
        intro s₄
        refine .ite readsIn_pure ?_
        apply (readsIn_setSymbol _).bind
        rintro ⟨item', s₅⟩
        dsimp only
        split
        · exact .ite readsIn_fail (ih _ s₅)
        · exact readsIn_fail

lemma readsIn_readSet : ReadsIn s.text (·.2.text) (readSet s) := by
  rw [readSet]
  refine .ite ?_ ?_
  · apply Source.readsIn_next.bind
    intro r
    apply (readsIn_setUpTo _ _ _ r).bind
    exact fun _ => readsIn_pure
  · apply (readsIn_setUpTo _ _ _ s).bind
    exact fun _ => readsIn_pure

/-! ## Switches -/

lemma readsIn_flagsOn (n : Nat) (on : List Flag) (u : List Char) (s : Source) :
    ReadsIn s.text (·.2.2.text) (flagsOn n on u s) := by
  induction n generalizing on u s with
  | zero => exact readsIn_fail
  | succ n ih =>
    rw [flagsOn]
    split
    · exact .ite readsIn_pure readsIn_fail
    · refine .ite readsIn_fail (.ite readsIn_fail ?_)
      split
      · exact readsIn_fail
      · apply Source.readsIn_next.bind
        exact fun r => ih _ _ r

lemma readsIn_flagsOff (n : Nat) (off : List Flag) (u : List Char) (s : Source) :
    ReadsIn s.text (·.2.text) (flagsOff n off u s) := by
  induction n generalizing off u s with
  | zero => exact readsIn_fail
  | succ n ih =>
    rw [flagsOff]
    split
    · exact .ite readsIn_pure readsIn_fail
    · refine .ite readsIn_fail ?_
      split
      · exact readsIn_fail
      · apply Source.readsIn_next.bind
        exact fun r => ih _ _ r

lemma readsIn_readSwitches (u : List Char) : ReadsIn s.text (·.2.text) (readSwitches u s) := by
  have hoff (on : List Flag) (r : List Flag × Source) : ReadsIn r.2.text (·.2.text)
      (if r.1.contains .template then fail .globalFlagOff (r.2.place - 1)
      else if on.any r.1.contains then fail .flagOnAndOff (r.2.place - 1)
      else pure (Switches.part on r.1, r.2)) :=
    .ite readsIn_fail (.ite readsIn_fail readsIn_pure)
  apply (readsIn_flagsOn _ [] u s).bind
  rintro ⟨on, stop, s'⟩
  refine .ite readsIn_pure (.ite readsIn_fail (.ite ?_ (hoff on ([], s'))))
  dsimp only
  split
  · exact readsIn_fail
  · apply Source.readsIn_next.bind
    intro r
    exact (readsIn_flagsOff _ [] _ r).bind (hoff on)

end Parts

end QueryTutor.Pattern
