import QueryTutor.Proofs.Analysis.Item
import QueryTutor.Proofs.Text.Occurrence

/-!
# Taking calls off an expression

Calls are taken off one by one, as long as there is an identifier or another call inside.  Each call is
longer than what it holds, so this comes to an end, with a piece of the expression that is no call.
-/

namespace QueryTutor.Analysis
open Text Phrase

variable {name args e r t : List Char}

/-! ## Calls -/

/-- The text is a call: a name, which white space may follow, and the arguments in parentheses, with
nothing behind them but maybe a line break. -/
inductive Calls (name args : List Char) : List Char → Prop where
  | mk {bs tail : List Char} :
    name ≠ [] →
    (∀ c ∈ name, isWord c = true) →
    (∀ b ∈ bs, isBlank b = true) →
    (tail = [] ∨ tail = ['\n']) →
    Calls name args (name ++ (bs ++ '(' :: (args ++ ')' :: tail)))

lemma Calls.of_call? (h : call? t = some (name, args)) : Calls name args t := by
  rw [call?] at h
  split_ifs at h with hname
  split at h
  case h_2 => cases h
  case h_1 s hopen =>
    -- the text is put together from what has been taken off it
    have ht : t = t.takeWhile isWord ++ ((t.dropWhile isWord).takeWhile isBlank ++ '(' :: s) := by
      rw [← hopen, List.takeWhile_append_dropWhile, List.takeWhile_append_dropWhile]
    have hne : t.takeWhile isWord ≠ [] := by simpa using hname
    have hword : ∀ c ∈ t.takeWhile isWord, isWord c = true := fun c => List.mem_takeWhile_imp
    have hblank : ∀ b ∈ (t.dropWhile isWord).takeWhile isBlank, isBlank b = true :=
      fun b => List.mem_takeWhile_imp
    generalize t.takeWhile isWord = f at h ht hne hword
    generalize (t.dropWhile isWord).takeWhile isBlank = bs at ht hblank
    rw [ht]
    split at h
    case h_1 rest hclose =>
      cases h
      obtain rfl : s = rest.reverse ++ [')'] := by
        rw [← List.reverse_reverse s, hclose, List.reverse_cons]
      exact .mk hne hword hblank (.inl rfl)
    case h_2 rest hclose =>
      cases h
      obtain rfl : s = rest.reverse ++ [')', '\n'] := by
        rw [← List.reverse_reverse s, hclose, List.reverse_cons, List.reverse_cons, List.append_assoc]
        rfl
      exact .mk hne hword hblank (.inr rfl)
    case h_3 => cases h

lemma Calls.call? (h : Calls name args t) : call? t = some (name, args) := by
  cases h with
  | @mk bs tail hne hword hblank htail =>
    have hend : ∀ c ∈ (bs ++ '(' :: (args ++ ')' :: tail)).head?, isWord c = false := by
      intro c hc
      cases bs with
      | nil =>
        cases hc
        decide
      | cons b bs =>
        cases hc
        exact (letterless (hblank c List.mem_cons_self)).isWord
    rw [Analysis.call?, takeWhile_append_of_head hword hend, dropWhile_append_of_head hword hend,
      if_neg (by simpa using hne), List.dropWhile_append_of_pos hblank,
      List.dropWhile_cons_of_neg (by decide)]
    obtain rfl | rfl := htail
    · simp
    · simp

lemma call?_eq_none_iff : call? t = none ↔ ∀ name args, ¬ Calls name args t := by
  constructor
  · intro h name args hcalls
    rw [hcalls.call?] at h
    cases h
  · intro h
    cases hcall : call? t with
    | none => rfl
    | some found => exact absurd (Calls.of_call? hcall) (h found.1 found.2)

namespace Calls

lemma unique {name' args' : List Char} (h : Calls name args t) (h' : Calls name' args' t) :
    name = name' ∧ args = args' := by
  have heq := h.call?.symm.trans h'.call?
  cases heq
  exact ⟨rfl, rfl⟩

lemma isPrefix_name (h : Calls name args t) : name <+: t := by
  cases h
  exact List.prefix_append _ _

lemma isInfix_args (h : Calls name args t) : args <:+: t := by
  cases h with
  | @mk bs tail =>
    refine ⟨name ++ (bs ++ ['(']), ')' :: tail, ?_⟩
    simp

/-- A call is longer than its arguments. -/
lemma length_lt (h : Calls name args t) : args.length < t.length := by
  cases h
  simp only [List.length_append, List.length_cons]
  omega

/-- The name of a call is no call, as it has no parenthesis. -/
lemma not_calls_name {f as : List Char} (h : Calls name args t) : ¬ Calls f as name := by
  intro hname
  cases h with
  | mk _ hword _ _ =>
    cases hname
    exact absurd (hword '(' (by simp)) (by decide)

end Calls

/-! ## What calls hold -/

lemma isSuffix_dropDistinct (t : List Char) : dropDistinct t <:+ t := by
  rw [dropDistinct]
  cases h : strip? "distinct ".toList t with
  | none => exact List.suffix_rfl
  | some rest => exact suffix_of_strip? h

/-- What arguments are about, without white space around it and `distinct` before it. -/
def held (args : List Char) : List Char :=
  dropDistinct (trim args)

lemma isInfix_held (args : List Char) : held args <:+: args :=
  (isSuffix_dropDistinct _).isInfix.trans (isInfix_trim args)

/-- The text is an identifier or a call, to which it is gone on. -/
def GoesOn (t : List Char) : Prop :=
  isIdentifier t = true ∨ ∃ f as, Calls f as t

lemma goesOn_iff : GoesOn t ↔ (isIdentifier t || (call? t).isSome) = true := by
  rw [Bool.or_eq_true, GoesOn]
  refine or_congr_right ⟨?_, fun h => ?_⟩
  · rintro ⟨f, as, h⟩
    rw [h.call?]
    rfl
  · obtain ⟨⟨f, as⟩, hcall⟩ := Option.isSome_iff_exists.1 h
    exact ⟨f, as, .of_call? hcall⟩

/-! ## The loop -/

/-- Taking calls off the expression `e` ends with `r`: an expression that is no call stays, a call is
left for the identifier or the call that it holds, and a call that holds neither is left for its name. -/
inductive Unwraps : List Char → List Char → Prop where
  | plain {e : List Char} :
    (∀ name args, ¬ Calls name args e) →
    Unwraps e e
  | inside {e name args r : List Char} :
    Calls name args e →
    GoesOn (held args) →
    Unwraps (held args) r →
    Unwraps e r
  | name {e name args : List Char} :
    Calls name args e →
    ¬ GoesOn (held args) →
    Unwraps e name

/-- As many turns as the expression has characters are enough. -/
lemma unwraps_unwrapUpTo {n : ℕ} (h : e.length ≤ n) : Unwraps e (unwrapUpTo n e) := by
  induction n generalizing e with
  | zero =>
    obtain rfl := List.length_eq_zero_iff.1 (Nat.le_zero.1 h)
    exact .plain (call?_eq_none_iff.1 rfl)
  | succ n ih =>
    rw [unwrapUpTo]
    cases hcall : call? e with
    | none => exact .plain (call?_eq_none_iff.1 hcall)
    | some found =>
      obtain ⟨name, args⟩ := found
      have hcalls := Calls.of_call? hcall
      change Unwraps e (if (isIdentifier (held args) || (call? (held args)).isSome) = true then
        unwrapUpTo n (held args) else name)
      split_ifs with hinner
      · apply Unwraps.inside hcalls (goesOn_iff.2 hinner)
        apply ih
        have := hcalls.length_lt
        have := (isInfix_held args).length_le
        omega
      · exact .name hcalls (mt goesOn_iff.1 hinner)

namespace Unwraps

lemma unique {r' : List Char} (h : Unwraps e r) (h' : Unwraps e r') : r = r' := by
  induction h with
  | plain hnone =>
    cases h' with
    | plain => rfl
    | inside hcalls => exact absurd hcalls (hnone _ _)
    | name hcalls => exact absurd hcalls (hnone _ _)
  | inside hcalls hinner _ ih =>
    cases h' with
    | plain hnone => exact absurd hcalls (hnone _ _)
    | inside hcalls' _ hrest =>
      obtain ⟨-, rfl⟩ := hcalls.unique hcalls'
      exact ih hrest
    | name hcalls' hnot =>
      obtain ⟨-, rfl⟩ := hcalls.unique hcalls'
      exact absurd hinner hnot
  | name hcalls hnot =>
    cases h' with
    | plain hnone => exact absurd hcalls (hnone _ _)
    | inside hcalls' hinner =>
      obtain ⟨-, rfl⟩ := hcalls.unique hcalls'
      exact absurd hinner hnot
    | name hcalls' => exact (hcalls.unique hcalls').1

lemma isInfix (h : Unwraps e r) : r <:+: e := by
  induction h with
  | plain => exact List.infix_rfl
  | inside hcalls _ _ ih => exact (ih.trans (isInfix_held _)).trans hcalls.isInfix_args
  | name hcalls => exact hcalls.isPrefix_name.isInfix

lemma not_calls (h : Unwraps e r) : ∀ name args, ¬ Calls name args r := by
  induction h with
  | plain hnone => exact hnone
  | inside _ _ _ ih => exact ih
  | name hcalls => exact fun _ _ => hcalls.not_calls_name

end Unwraps

lemma unwraps_unwrap (e : List Char) : Unwraps e (unwrap e) :=
  unwraps_unwrapUpTo le_rfl

/-- Taking calls off an expression ends, with one result.  This is a piece of the expression and no
call, and stays as it is when calls are taken off again. -/
theorem unwrap_normal_form (e : List Char) :
    (∀ r, Unwraps e r ↔ r = unwrap e) ∧ unwrap e <:+: e ∧
      (∀ name args, ¬ Calls name args (unwrap e)) ∧ unwrap (unwrap e) = unwrap e := by
  have hends := unwraps_unwrap e
  have hnone := hends.not_calls
  refine ⟨fun r => ⟨fun h => h.unique hends, ?_⟩, hends.isInfix, hnone, ?_⟩
  · rintro rfl
    exact hends
  · exact unwrap_of_call? (call?_eq_none_iff.2 hnone)

/-- The first parenthesis and the last one are taken for those of one call, which holds no identifier. -/
example : unwrap "f(a) + g(b)".toList = ['f'] := by
  decide

end QueryTutor.Analysis
