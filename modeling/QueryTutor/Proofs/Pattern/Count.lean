import QueryTutor.Proofs.Pattern.ReadsIn

/-!
# Counts without a number

A pattern is read symbol by symbol, and each symbol with all that belongs to it is read within the
text.  A count of repeats without a number is found behind an opening brace only, and so a pattern
is refused for one only if there is one in it.
-/

namespace QueryTutor.Pattern

variable {t : List Char}

section Parts

variable {s : Source}

/-! ## References and escapes -/

lemma readsIn_checkLookbehind (ctx : Context) (index start : Nat) :
    ReadsIn t (fun _ => t) (ctx.checkLookbehind index start) := by
  unfold Context.checkLookbehind
  split
  · exact List.suffix_rfl
  · exact .ite readsIn_fail (.ite readsIn_fail List.suffix_rfl)

lemma readsIn_reference (ctx : Context) (index length : Nat) (s : Source) :
    ReadsIn t (fun _ => t) (reference ctx index length s) := by
  rw [reference]
  refine .ite readsIn_fail ?_
  apply (readsIn_checkLookbehind ctx index _).bind
  exact fun _ => List.suffix_rfl

lemma readsIn_digitEscape (ctx : Context) (c : Char) :
    ReadsIn s.text (·.2.text) (digitEscape ctx c s) := by
  apply (Source.readsIn_takeUpTo _ 1 s).bind
  rintro ⟨second, s'⟩
  dsimp only
  split
  case' isTrue => apply (Source.readsIn_takeUpTo _ 1 s').bind
  case' isFalse =>
    have hnone : ReadsIn s'.text (·.2.text) (pure (([] : List Char), s')) := readsIn_pure
    apply hnone.bind
  -- with or without a third digit, the rest is the same
  all_goals
    rintro ⟨third, r⟩
    refine .ite (.ite readsIn_fail readsIn_pure) (.ite ?_ readsIn_fail)
    apply (readsIn_reference ctx _ _ r).bind
    exact fun _ => readsIn_pure

lemma readsIn_readEscape (ctx : Context) (c : Char) :
    ReadsIn s.text (·.2.2.text) (readEscape ctx c s) := by
  rw [readEscape]
  split
  · exact readsIn_pure
  · exact readsIn_pure
  · exact readsIn_pure
  · next h =>
    apply (readsIn_codeEscape h).bind
    exact fun _ => readsIn_pure
  · refine .ite ?_ (.ite ?_ ?_)
    · apply (Source.readsIn_takeUpTo _ 2 s).bind
      exact fun _ => readsIn_pure
    · apply (readsIn_digitEscape ctx c).bind
      exact fun _ => readsIn_pure
    · apply (readsIn_plainEscape c).bind
      exact fun _ => readsIn_pure

/-! ## Repeats -/

/-- The end of a count, whose bounds have been read. -/
def closeCount (start : Nat) (lo hi : List Char) (s : Source) :
    Except Error (Option (Nat × Option Nat × Source)) := do
  if !s.meets '\x7d' then return none
  else
    let s ← s.next
    let least := digitsValue 10 lo
    let most := if hi.isEmpty then none else some (digitsValue 10 hi)
    if countLimit ≤ least || most.any (countLimit ≤ ·) then .error .countTooLarge
    else if most.any (· < least) then fail .leastAboveMost start
    else return some (least, most, s)

/-- A count is read in three steps: the least bound, the greatest one if there is another, and the
end. -/
lemma readCount_eq (s : Source) :
    readCount s =
      if s.meets '\x7d' then .ok none
      else s.takeWhile Char.isDigit >>= fun (lo, r) =>
        if r.meets ',' then
          r.next >>= fun r => r.takeWhile Char.isDigit >>= fun (hi, r) => closeCount s.place lo hi r
        else closeCount s.place lo lo r :=
  rfl

lemma readsIn_closeCount {lo hi w u : List Char} (hw : Bounds lo hi w) (start : Nat)
    (hu : u <:+ '\x7b' :: w ++ s.text) :
    ReadsIn ('\x7b' :: w ++ s.text) (·.elim u (·.2.2.text)) (closeCount start lo hi s) := by
  rw [closeCount]
  cases hmeets : s.meets '\x7d' with
  | false => exact hu
  | true =>
    apply (Source.readsIn_next.mono (List.suffix_append _ _)).andThen
    intro r hnext
    rw [Source.text_eq_cons hmeets hnext]
    dsimp only
    generalize hmost : (if hi.isEmpty then none else some (digitsValue 10 hi)) = most
    split
    case isTrue hlarge =>
      have hbound : countLimit ≤ digitsValue 10 lo ∨ countLimit ≤ digitsValue 10 hi := by
        apply (Bool.or_eq_true_iff.1 hlarge).imp of_decide_eq_true
        intro hany
        rw [← hmost] at hany
        split at hany
        · cases hany
        · exact of_decide_eq_true hany
      exact fun _ => ⟨lo, hi, w, hw, hbound, [], r.text, by simp⟩
    case isFalse =>
      refine .ite readsIn_fail ?_
      exact (List.suffix_cons _ _).trans (List.suffix_append _ _)

/-- Behind the brace that opens it, a count without a number is read only where there is one. -/
lemma readsIn_readCount :
    ReadsIn ('\x7b' :: s.text) (·.elim s.text (·.2.2.text)) (readCount s) := by
  have hself : s.text <:+ '\x7b' :: s.text := List.suffix_cons _ _
  rw [readCount_eq]
  refine .ite hself ?_
  apply ((Source.readsIn_takeUpTo _ _ s).mono hself).andThen
  rintro ⟨lo, s₁⟩ hlo
  obtain ⟨hlo_digits, hlo_text⟩ := Source.takeUpTo_eq_ok hlo
  rw [hlo_text] at hself ⊢
  dsimp only
  split
  case isFalse => exact readsIn_closeCount (.exact hlo_digits) _ hself
  case isTrue hcomma =>
    have hs₁ : s₁.text <:+ '\x7b' :: (lo ++ s₁.text) :=
      (List.suffix_append lo _).trans (List.suffix_cons _ _)
    apply (Source.readsIn_next.mono hs₁).andThen
    intro s₂ hnext
    rw [Source.text_eq_cons hcomma hnext] at hself hs₁ ⊢
    apply ((Source.readsIn_takeUpTo _ _ s₂).mono ((List.suffix_cons _ _).trans hs₁)).andThen
    rintro ⟨hi, s₃⟩ hhi
    obtain ⟨hhi_digits, hhi_text⟩ := Source.takeUpTo_eq_ok hhi
    rw [hhi_text] at hself ⊢
    have happ : '\x7b' :: (lo ++ ',' :: (hi ++ s₃.text))
        = '\x7b' :: (lo ++ ',' :: hi) ++ s₃.text := by simp
    rw [happ] at hself ⊢
    exact readsIn_closeCount (.between hlo_digits hhi_digits) _ hself

lemma readsIn_readRepeat {c : Char}
    (hc : (c == '*' || c == '+' || c == '?' || c == '\x7b') = true) :
    ReadsIn (c :: s.text) (·.elim s.text (·.2.2.text)) (readRepeat [c] s) := by
  simp only [Bool.or_eq_true, beq_iff_eq] at hc
  obtain ((rfl | rfl) | rfl) | rfl := hc
  · exact List.suffix_cons _ _
  · exact List.suffix_cons _ _
  · exact List.suffix_cons _ _
  · exact readsIn_readCount

lemma readsIn_readGreed : ReadsIn s.text (·.2.text) (readGreed s) := by
  rw [readGreed]
  refine .ite ?_ (.ite ?_ readsIn_pure)
  · apply Source.readsIn_next.bind
    exact fun _ => readsIn_pure
  · apply Source.readsIn_next.bind
    exact fun _ => readsIn_pure

lemma readsIn_repeatLast (f : Frame) (start least : Nat) (most : Option Nat) :
    ReadsIn s.text (·.2.text) (f.repeatLast start least most s) := by
  unfold Frame.repeatLast
  split
  · exact readsIn_fail
  · exact readsIn_fail
  · exact readsIn_fail
  · apply readsIn_readGreed.bind
    exact fun _ => readsIn_pure

/-! ## Groups -/

lemma readsIn_checkName (name : List Char) (s : Source) :
    ReadsIn t (fun _ => t) (checkName name s) := by
  rw [checkName]
  exact .ite List.suffix_rfl readsIn_fail

lemma readsIn_openCapture (ctx : Context) (name? : Option (List Char)) (verbose : Bool) :
    ReadsIn s.text (·.2.2.text) (openCapture ctx name? verbose s) := by
  unfold openCapture
  dsimp only
  split
  · exact readsIn_pure
  · split
    · exact readsIn_fail
    · exact readsIn_pure

lemma readsIn_openNamed (ctx : Context) (verbose : Bool) :
    ReadsIn s.text (·.2.2.text) (openNamed ctx verbose s) := by
  rw [openNamed]
  refine .ite ?_ (.ite ?_ ?_)
  · apply Source.readsIn_next.bind
    intro r
    apply Source.readsIn_name.bind
    rintro ⟨name, r'⟩
    apply (readsIn_checkName name r').bind
    exact fun _ => readsIn_openCapture ctx _ verbose
  · apply Source.readsIn_next.bind
    intro r
    apply Source.readsIn_name.bind
    rintro ⟨name, r'⟩
    apply (readsIn_checkName name r').bind
    intro _
    dsimp only
    split
    · exact readsIn_fail
    · apply (readsIn_reference ctx _ _ r').bind
      exact fun _ => readsIn_pure
  · split
    · exact readsIn_fail
    · apply Source.readsIn_next.bind
      exact fun _ => readsIn_fail

lemma readsIn_openCondition (ctx : Context) (verbose : Bool) :
    ReadsIn s.text (·.2.2.text) (openCondition ctx verbose s) := by
  have hopened (ctx ctx' : Context) (index : Nat) (s : Source) : ReadsIn s.text (·.2.2.text) (do
      ctx'.checkLookbehind index s.place
      return (Opening.group (.ifGroup index) verbose, ctx', s)) := by
    apply (readsIn_checkLookbehind ctx' index _).bind
    exact fun _ => readsIn_pure
  rw [openCondition]
  apply Source.readsIn_name.bind
  rintro ⟨name, r⟩
  refine .ite ?_ ?_
  · dsimp only
    split
    · exact readsIn_fail
    · exact hopened ctx ctx _ r
  · dsimp only
    split
    · exact readsIn_fail
    · exact .ite readsIn_fail (hopened ctx _ _ r)
    · exact readsIn_fail

lemma readsIn_readOpening (ctx : Context) (start : Nat) (verbose fresh : Bool) :
    ReadsIn s.text (·.2.2.text) (readOpening ctx start verbose fresh s) := by
  apply ReadsIn.ite (readsIn_openCapture ctx none verbose)
  apply Source.readsIn_next.bind
  intro s
  cases s.head? with
  | none => exact readsIn_fail
  | some u =>
    apply Source.readsIn_next.bind
    intro s
    apply ReadsIn.ite (readsIn_openNamed ctx verbose)
    apply ReadsIn.ite readsIn_pure
    apply ReadsIn.ite
    · -- a comment ends at a parenthesis
      apply (Source.readsIn_skipUpTo _ _ s).bind
      rintro (_ | r)
      · exact readsIn_fail
      · exact readsIn_pure
    apply ReadsIn.ite readsIn_pure
    apply ReadsIn.ite readsIn_pure
    apply ReadsIn.ite
    · -- a lookbehind
      cases s.head? with
      | none => exact readsIn_fail
      | some d =>
        apply Source.readsIn_next.bind
        exact fun _ => .ite readsIn_fail readsIn_pure
    apply ReadsIn.ite (readsIn_openCondition ctx verbose)
    apply ReadsIn.ite readsIn_pure
    refine .ite ?_ readsIn_fail
    apply (readsIn_readSwitches u).bind
    rintro ⟨_ | _, r⟩
    · exact .ite readsIn_pure readsIn_fail
    · exact readsIn_pure

lemma readsIn_nextBranch (f : Frame) (start : Nat) :
    ReadsIn t (fun _ => t) (f.nextBranch start) := by
  unfold Frame.nextBranch
  split
  · exact readsIn_fail
  · exact List.suffix_rfl

/-! ## The whole pattern -/

lemma readsIn_readSingle (ctx : Context) (f : Frame) (fresh : Bool) (c : Char) (start : Nat) :
    ReadsIn (c :: s.text) (·.2.2.2.text) (readSingle ctx f fresh c start s) := by
  have hself : s.text <:+ c :: s.text := List.suffix_cons _ _
  unfold readSingle
  dsimp only
  split
  · apply (readsIn_readSet.mono hself).bind
    exact fun _ => readsIn_pure
  · exact hself
  · exact hself
  · exact hself
  · apply ((readsIn_readOpening ctx start _ _).mono hself).bind
    rintro ⟨_ | _ | _ | _, ctx', r⟩
    all_goals exact readsIn_pure
  · split
    · next hc =>
      apply (readsIn_readRepeat hc).bind
      rintro (_ | ⟨least, most, r⟩)
      · exact readsIn_pure
      · apply (readsIn_repeatLast f start least most).bind
        exact fun _ => readsIn_pure
    · exact hself

/-- A symbol `u` with all that belongs to it is read within the text. -/
lemma readsIn_readItem (ctx : Context) (f : Frame) (fresh : Bool) (u : List Char) (start : Nat) :
    ReadsIn (u ++ s.text) (·.2.2.2.text) (readItem ctx f fresh u start s) := by
  match u with
  | [] => exact readsIn_pure
  | [c] => exact readsIn_readSingle ctx f fresh c start
  | b :: c :: r =>
    have hself : s.text <:+ b :: c :: r ++ s.text := List.suffix_append _ _
    apply ((readsIn_readEscape ctx c).mono hself).bind
    exact fun _ => readsIn_pure

lemma readsIn_finish (ctx : Context) (f : Frame) : ReadsIn t (fun _ => []) (finish ctx f) := by
  rw [finish]
  split
  · exact readsIn_fail
  · dsimp only
    split
    · exact nofun
    · exact List.nil_suffix

end Parts

/-- The rest of a pattern is read within the rest of its text, by induction on the number of symbols:
each step leaves an end of the text. -/
lemma readsIn_readUpTo (n : Nat) (ctx : Context) (f : Frame) (outer : List Frame) (s : Source) :
    ReadsIn s.text (fun _ => []) (readUpTo n ctx f outer s) := by
  induction n generalizing ctx f outer s with
  | zero => exact readsIn_fail
  | succ n ih =>
    unfold readUpTo
    split
    · exact .ite nofun (readsIn_finish ctx f)
    · exact readsIn_fail
    · next outer _ _ a _ hsymbols =>
      have hhead : s.head? = some a.text := by rw [Source.head?, hsymbols]; rfl
      apply ReadsIn.ite
      · -- a bar
        apply (readsIn_nextBranch f _).bind
        intro f'
        apply Source.readsIn_next.bind
        exact fun r => ih ctx f' outer r
      apply ReadsIn.ite
      · -- a closing parenthesis
        cases outer with
        | nil => exact .ite nofun readsIn_fail
        | cons g outer =>
          apply Source.readsIn_next.bind
          exact fun r => ih _ _ outer r
      apply Source.readsIn_next.andThen
      intro r hnext
      rw [Source.text_eq_append hhead hnext]
      have hself : r.text <:+ a.text ++ r.text := List.suffix_append _ _
      apply ReadsIn.ite ((ih ctx f outer r).mono hself)
      apply ReadsIn.ite
      · -- a comment to the end of the line
        apply ((Source.readsIn_skipUpTo _ _ r).mono hself).bind
        rintro (_ | r')
        · exact ih ctx f outer { r with symbols := [] }
        · exact ih ctx f outer r'
      apply (readsIn_readItem ctx f _ a.text a.place).bind
      rintro ⟨ctx', f', _ | inner, r'⟩
      · exact ih ctx' f' outer r'
      · exact ih ctx' inner (f' :: outer) r'

/-- A pattern is refused for a count without a number only if there is one in its text. -/
theorem hasLargeCount_of_parse (h : parse t = .error .countTooLarge) : HasLargeCount t := by
  have hparse : ReadsIn t (fun _ => []) (parse t) :=
    readsIn_ofText.bind fun s => readsIn_readUpTo _ _ _ _ s
  rw [h] at hparse
  exact hparse rfl

end QueryTutor.Pattern
