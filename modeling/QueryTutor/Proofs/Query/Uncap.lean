import Mathlib.Data.List.Find
import QueryTutor.Proofs.Query.Token
import QueryTutor.Proofs.Text.Uncap

/-!
# Tokens without capitals

The tokens of a text are cut in the same places whatever the case of its letters, and are of the same
kinds: each rule of the scanner takes the same off the text without capitals.
-/

namespace QueryTutor.Query.Token
open Text

/-- The token with small letters in place of the capitals of ASCII. -/
def uncap (t : Token) : Token :=
  { t with text := Text.uncap t.text }

/-- What is cut off and what follows it, both without capitals. -/
def uncapCut (cut : Cut) : Cut :=
  cut.map fun (t, rest) => (t.uncap, Text.uncap rest)

lemma uncapCut_some (k : Kind) (text rest : List Char) :
    uncapCut (some (⟨k, text⟩, rest)) = some (⟨k, Text.uncap text⟩, Text.uncap rest) := rfl

lemma uncapCut_map {α : Type} (f : α → Token × List Char) (x : Option α) :
    uncapCut (x.map f) = x.map fun a => ((f a).1.uncap, Text.uncap (f a).2) :=
  Option.map_map _ _ _

lemma uncapCut_ite {c : Bool} (a b : Cut) :
    uncapCut (if c then a else b) = if c then uncapCut a else uncapCut b :=
  apply_ite uncapCut _ _ _

lemma blind_isNameStart : Blind isNameStart := fun c => by
  rw [isNameStart, isNameStart, variants_congr (toLower_toLower c)]

lemma any_map_toLower {p : Char → Bool} (hp : Blind p) (before : Option Char) :
    (before.map Char.toLower).any p = before.any p := by
  cases before with
  | none => rfl
  | some c => exact hp c

/-! ## Comments, white space and quoted text -/

lemma splitThrough?_star (t : List Char) :
    splitThrough? (· == ·) ['*', '/'] (Text.uncap t)
      = (splitThrough? (· == ·) ['*', '/'] t).map fun (body, rest) =>
          (Text.uncap body, Text.uncap rest) :=
  @splitThrough?_uncap (· == ·) ['*', '/']
    (fun a ha => toLower_beq_toLower (not_isAlpha_of_all rfl a ha)) t

lemma block?_uncap (t : List Char) : block? (Text.uncap t) = uncapCut (block? t) := by
  fun_cases block? t
  case case1 r =>
    change block? ('/' :: '*' :: '+' :: Text.uncap r) = _
    rw [block?, splitThrough?_star, uncapCut_map, Option.map_map]
    rfl
  case case2 r h =>
    change block? ('/' :: '*' :: Text.uncap r) = _
    rw [block?.eq_2 _ fun s hs => ?_, splitThrough?_star, uncapCut_map, Option.map_map]
    · rfl
    · obtain ⟨u, rfl, -⟩ := exists_of_uncap_eq_cons rfl hs
      exact h u rfl
  case case3 _ h =>
    refine block?.eq_3 _ (fun s hs => ?_) fun s hs => ?_
    · obtain ⟨u, rfl, hu⟩ := exists_of_uncap_eq_cons rfl hs
      obtain ⟨v, rfl, -⟩ := exists_of_uncap_eq_cons rfl hu
      exact h v rfl
    · obtain ⟨u, rfl, hu⟩ := exists_of_uncap_eq_cons rfl hs
      obtain ⟨v, rfl, -⟩ := exists_of_uncap_eq_cons rfl hu
      exact h v rfl

lemma throughLine_uncap (t : List Char) :
    throughLine (Text.uncap t) = (Text.uncap (throughLine t).1, Text.uncap (throughLine t).2) := by
  fun_induction throughLine t
  case case1 => rfl
  case case2 r => rfl
  case case3 r h =>
    refine throughLine.eq_3 _ fun s hs => ?_
    obtain ⟨u, rfl, -⟩ := exists_of_uncap_eq_cons rfl hs
    exact h u rfl
  case case4 r => rfl
  case case5 c r _ hr hn line rest hline ih =>
    have hr' : c.toLower ≠ '\r' := fun h => hr (eq_of_toLower_eq rfl h)
    have hn' : c.toLower ≠ '\n' := fun h => hn (eq_of_toLower_eq rfl h)
    rw [uncap_cons, throughLine.eq_5 _ _ (fun _ h => absurd h hr') hr' hn', ih, hline]
    rfl

lemma line?_uncap (t : List Char) : line? (Text.uncap t) = uncapCut (line? t) := by
  match t with
  | [] => rfl
  | [_] => rfl
  | a :: b :: r =>
    have hplus : ((Text.uncap r).head? == some '+') = (r.head? == some '+') := by
      rw [Bool.eq_iff_iff, beq_iff_eq, beq_iff_eq, head?_uncap_eq_some_iff rfl]
    rw [uncap_cons, uncap_cons, line?, line?, throughLine_uncap, hplus,
      beq_toLower (a := '-') rfl, beq_toLower (a := '-') rfl, beq_toLower (a := '#') rfl,
      beq_toLower (a := ' ') rfl, uncapCut_ite]
    rfl

lemma space?_uncap (t : List Char) : space? (Text.uncap t) = uncapCut (space? t) := by
  by_cases hpair : ∃ r, t = '\r' :: '\n' :: r
  · obtain ⟨r, rfl⟩ := hpair
    rfl
  · cases t with
    | nil => rfl
    | cons c r =>
      have hc : ∀ s, c = '\r' → r = '\n' :: s → False := by
        rintro s rfl rfl
        exact hpair ⟨s, rfl⟩
      rw [uncap_cons, space?.eq_2 _ _ hc, space?.eq_2 _ _ (apart_uncap rfl rfl hc), beq_toLower (a := '\r') rfl,
        beq_toLower (a := '\n') rfl, blind_isBlank c, uncapCut_ite, uncapCut_ite]
      rfl

lemma sign?_uncap (t : List Char) : sign? (Text.uncap t) = uncapCut (sign? t) := by
  fun_cases sign? t
  case case1 r => rfl
  case case2 r => rfl
  case case3 r => rfl
  case case4 hassign hcast hstar =>
    refine sign?.eq_4 _ (fun s hs => ?_) (fun s hs => ?_) fun s hs => ?_
    · obtain ⟨u, rfl, hu⟩ := exists_of_uncap_eq_cons rfl hs
      obtain ⟨v, rfl, -⟩ := exists_of_uncap_eq_cons rfl hu
      exact hassign v rfl
    · obtain ⟨u, rfl, hu⟩ := exists_of_uncap_eq_cons rfl hs
      obtain ⟨v, rfl, -⟩ := exists_of_uncap_eq_cons rfl hu
      exact hcast v rfl
    · obtain ⟨u, rfl, -⟩ := exists_of_uncap_eq_cons rfl hs
      exact hstar u rfl

lemma quoteBody?_uncap {q : Char} (hq : q.isAlpha = false) (escapes : Bool) (t : List Char) :
    quoteBody? q escapes (Text.uncap t)
      = (quoteBody? q escapes t).map fun (body, rest) => (Text.uncap body, Text.uncap rest) := by
  fun_induction quoteBody? q escapes t
  all_goals
    simp_all [quoteBody?, beq_toLower hq, beq_toLower (a := '\\') rfl, Option.map_map, Function.comp_def]

lemma quote?_uncap (k : Kind) {q : Char} (hq : q.isAlpha = false) (escapes : Bool)
    (t : List Char) : quote? k q escapes (Text.uncap t) = uncapCut (quote? k q escapes t) := by
  cases t with
  | nil => rfl
  | cons c r =>
    rw [uncap_cons, quote?, quote?, beq_toLower hq, quoteBody?_uncap hq, uncapCut_ite, uncapCut_map,
      Option.map_map]
    rfl

lemma tagName_uncap (t : List Char) : tagName (Text.uncap t) = Text.uncap (tagName t) := by
  cases t with
  | nil => rfl
  | cons c r =>
    rw [uncap_cons, tagName, tagName, beq_toLower (a := '_') rfl, blind_isNameStart c,
      takeWhile_uncap blind_isWord]
    split_ifs <;> rfl

lemma blind_beq {a : Char} (ha : a.isAlpha = false) : Blind (· == a) :=
  beq_toLower ha

lemma tagged?_uncap (before : Option Char) (t : List Char) :
    tagged? (before.map Char.toLower) (Text.uncap t) = uncapCut (tagged? before t) := by
  have hbefore := any_map_toLower
    ((blind_isWord.or (blind_beq (a := '"') rfl)).or (blind_beq (a := '$') rfl)) before
  have hequal : ∀ a c : Char, (lowerChar a.toLower == lowerChar c.toLower)
      = (lowerChar a == lowerChar c) := fun a c => by
    rw [lowerChar_congr (toLower_toLower a), lowerChar_congr (toLower_toLower c)]
  have htag : ∀ name, Text.uncap ('$' :: name ++ ['$']) = '$' :: Text.uncap name ++ ['$'] :=
    fun name => uncap_append _ _
  fun_cases tagged? before t
  case case1 r h =>
    change tagged? _ ('$' :: Text.uncap r) = _
    rw [tagged?.eq_1, hbefore, if_pos h]
    rfl
  case case2 r h name body hbody tag equalLetters =>
    have hrest : (Text.uncap r).drop (tagName (Text.uncap r)).length = '$' :: Text.uncap body := by
      rw [tagName_uncap, length_uncap, drop_uncap, hbody]
      rfl
    have hsplit : splitThrough? equalLetters ('$' :: Text.uncap name ++ ['$']) (Text.uncap body)
        = _ := htag name ▸ splitThrough?_uncap (fun a _ => hequal a) body
    change tagged? _ ('$' :: Text.uncap r) = _
    rw [tagged?.eq_1, hbefore, if_neg h]
    dsimp only
    rw [hrest, tagName_uncap]
    change (splitThrough? equalLetters ('$' :: Text.uncap name ++ ['$']) (Text.uncap body)).map _ = _
    rw [hsplit, uncapCut_map, Option.map_map]
    simp only [Function.comp_def, Token.uncap, uncap_append, tag]
    rfl
  case case3 r h name hbody =>
    have hrest : ∀ s, (Text.uncap r).drop (tagName (Text.uncap r)).length ≠ '$' :: s := by
      intro s hs
      rw [tagName_uncap, length_uncap, drop_uncap] at hs
      obtain ⟨u, hu, -⟩ := exists_of_uncap_eq_cons rfl hs
      exact hbody u hu
    change tagged? _ ('$' :: Text.uncap r) = _
    rw [tagged?.eq_1, hbefore, if_neg h]
    dsimp only
    split
    · rename_i body heq
      exact absurd heq (hrest body)
    · rfl
  case case4 h =>
    refine tagged?.eq_2 _ _ fun s hs => ?_
    obtain ⟨u, rfl, -⟩ := exists_of_uncap_eq_cons rfl hs
    exact h u rfl

lemma bracketed?_uncap (before : Option Char) (t : List Char) :
    bracketed? (before.map Char.toLower) (Text.uncap t) = uncapCut (bracketed? before t) := by
  have hbefore := any_map_toLower
    ((blind_isWord.or (blind_beq (a := ']') rfl)).or (blind_beq (a := ')') rfl)) before
  have hinside : Blind fun c => c != '[' && c != ']' :=
    (blind_beq (a := '[') rfl).not.and (blind_beq (a := ']') rfl).not
  fun_cases bracketed? before t
  case case1 r h =>
    change bracketed? _ ('[' :: Text.uncap r) = _
    rw [bracketed?.eq_1, hbefore, if_pos h]
    rfl
  case case2 r inside h first more rest hdrop htake =>
    have htake' := (takeWhile_uncap hinside r).trans (congrArg Text.uncap htake)
    have hdrop' := (dropWhile_uncap hinside r).trans (congrArg Text.uncap hdrop)
    change bracketed? _ ('[' :: Text.uncap r) = _
    rw [bracketed?.eq_1, hbefore, if_neg h, htake', hdrop', htake, uncapCut_some, uncap_append]
    rfl
  case case3 r inside h hnone =>
    change bracketed? _ ('[' :: Text.uncap r) = _
    rw [bracketed?.eq_1, hbefore, if_neg h]
    split
    · rename_i first more rest htake hdrop
      rw [takeWhile_uncap hinside] at htake
      rw [dropWhile_uncap hinside] at hdrop
      obtain ⟨c, u, hu, -, -⟩ := List.map_eq_cons_iff.1 htake
      obtain ⟨v, hv, -⟩ := exists_of_uncap_eq_cons rfl hdrop
      exact (hnone c u v hu hv).elim
    · rfl
  case case4 h =>
    refine bracketed?.eq_2 _ _ fun s hs => ?_
    obtain ⟨u, rfl, -⟩ := exists_of_uncap_eq_cons rfl hs
    exact h u rfl

/-! ## Numbers -/

lemma blind_sticksToDigits : Blind sticksToDigits :=
  (blind_beq (a := '_') rfl).or blind_isNameStart

lemma blind_isHexDigit : Blind isHexDigit := fun c => by
  rw [isHexDigit, isHexDigit, blind_isDigit, toLower_toLower]

/-- Being a letter of ASCII in either case is no matter of case. -/
lemma blind_letter {a b : Char} (h : ∀ n < 128, ((Char.ofNat n).toLower == a
    || (Char.ofNat n).toLower == b) = (Char.ofNat n == a || Char.ofNat n == b)) :
    Blind fun c => c == a || c == b :=
  blind_of_ascii h

lemma looseDigits_uncap (t : List Char) :
    looseDigits (Text.uncap t) = Prod.map Text.uncap Text.uncap (looseDigits t) := by
  simp only [looseDigits, takeWhile_uncap blind_isDigit, dropWhile_uncap blind_isDigit,
    head?_uncap_any blind_sticksToDigits, length_uncap, drop_uncap, ← uncap_append]
  split_ifs
  · rw [Prod.map_apply, Text.uncap, ← List.map_dropLast]
    rfl
  · rfl

lemma hexDigits?_uncap (t : List Char) :
    hexDigits? (Text.uncap t) = (hexDigits? t).map (Prod.map Text.uncap Text.uncap) := by
  have hmark : ∀ c : Char, (c.toLower == 'x' || c.toLower == 'X') = (c == 'x' || c == 'X') :=
    blind_letter (by decide)
  fun_cases hexDigits? t
  case case1 x r h =>
    change hexDigits? ('0' :: x.toLower :: Text.uncap r) = _
    rw [hexDigits?, hmark x, head?_uncap_any blind_isHexDigit, if_pos h,
      takeWhile_uncap blind_isHexDigit, dropWhile_uncap blind_isHexDigit]
    rfl
  case case2 x r h =>
    change hexDigits? ('0' :: x.toLower :: Text.uncap r) = _
    rw [hexDigits?, hmark x, head?_uncap_any blind_isHexDigit, if_neg h]
    rfl
  case case3 h =>
    refine hexDigits?.eq_2 _ fun x s hs => ?_
    obtain ⟨u, rfl, hu⟩ := exists_of_uncap_eq_cons rfl hs
    obtain ⟨c, v, rfl, -, -⟩ := List.map_eq_cons_iff.1 hu
    exact h c v rfl

lemma exponent?_uncap (t : List Char) :
    exponent? (Text.uncap t) = (exponent? t).map (Prod.map Text.uncap Text.uncap) := by
  have hmark : Blind fun c => c == 'e' || c == 'E' := blind_letter (by decide)
  cases t with
  | nil => rfl
  | cons e r =>
    simp only [uncap_cons, exponent?, hmark e, takeWhile_uncap (blind_beq (a := '-') rfl),
      length_uncap, drop_uncap, head?_uncap_any blind_isDigit, takeWhile_uncap blind_isDigit,
      dropWhile_uncap blind_isDigit]
    split_ifs
    · rw [Option.map_some, Prod.map_apply, uncap_append]
      rfl
    · rfl

lemma fraction_uncap (t : List Char) :
    fraction (Text.uncap t) = Prod.map Text.uncap Text.uncap (fraction t) := by
  fun_cases fraction t
  case case1 r h =>
    change fraction ('.' :: Text.uncap r) = _
    rw [fraction, head?_uncap_any blind_isDigit, if_pos h, takeWhile_uncap blind_isDigit,
      dropWhile_uncap blind_isDigit]
    rfl
  case case2 r h =>
    change fraction ('.' :: Text.uncap r) = _
    rw [fraction, head?_uncap_any blind_isDigit, if_neg h]
    rfl
  case case3 h =>
    refine fraction.eq_2 _ fun s hs => ?_
    obtain ⟨u, rfl, -⟩ := exists_of_uncap_eq_cons rfl hs
    exact h u rfl

lemma isEmpty_uncap (t : List Char) : (Text.uncap t).isEmpty = t.isEmpty :=
  List.isEmpty_map

lemma scientific?_uncap (t : List Char) :
    scientific? (Text.uncap t) = (scientific? t).map (Prod.map Text.uncap Text.uncap) := by
  simp only [scientific?, takeWhile_uncap blind_isDigit, dropWhile_uncap blind_isDigit,
    fraction_uncap, isEmpty_uncap, Prod.map_fst, Prod.map_snd, exponent?_uncap, Option.map_map]
  split_ifs
  · rfl
  · rw [Option.map_map]
    simp only [Function.comp_def, Prod.map_fst, Prod.map_snd, Prod.map_apply, uncap_append]

lemma decimal?_point {t r : List Char} (h : t.dropWhile isDigit = '.' :: r) :
    decimal? t =
      if (looseDigits r).2.head?.any sticksToDigits
          || ((t.takeWhile isDigit).isEmpty && (looseDigits r).1.isEmpty) then none
      else some (t.takeWhile isDigit ++ '.' :: (looseDigits r).1, (looseDigits r).2) := by
  simp only [decimal?, h]

lemma decimal?_pointless {t : List Char} (h : ∀ r, t.dropWhile isDigit ≠ '.' :: r) :
    decimal? t = none := by
  rw [decimal?]
  split
  · rename_i r hr
    exact absurd hr (h r)
  · rfl

lemma decimal?_uncap (t : List Char) :
    decimal? (Text.uncap t) = (decimal? t).map (Prod.map Text.uncap Text.uncap) := by
  have hdrop := dropWhile_uncap blind_isDigit t
  by_cases h : ∃ r, t.dropWhile isDigit = '.' :: r
  · obtain ⟨r, hr⟩ := h
    rw [hr] at hdrop
    rw [decimal?_point hr, decimal?_point (r := Text.uncap r) hdrop, looseDigits_uncap,
      Prod.map_fst, Prod.map_snd, takeWhile_uncap blind_isDigit, isEmpty_uncap, isEmpty_uncap,
      head?_uncap_any blind_sticksToDigits]
    split_ifs
    · rfl
    · rw [Option.map_some, Prod.map_apply, uncap_append]
      rfl
  · have hnone : ∀ r, t.dropWhile isDigit ≠ '.' :: r := not_exists.1 h
    rw [decimal?_pointless hnone, decimal?_pointless fun s hs => ?_]
    · rfl
    · obtain ⟨u, hu, -⟩ := exists_of_uncap_eq_cons rfl (hdrop.symm.trans hs)
      exact hnone u hu

lemma whole?_uncap (t : List Char) :
    whole? (Text.uncap t) = (whole? t).map (Prod.map Text.uncap Text.uncap) := by
  simp only [whole?, looseDigits_uncap, Prod.map_fst, Prod.map_snd, isEmpty_uncap]
  split_ifs <;> rfl

lemma uncapCut_orElse (a b : Cut) : uncapCut (a <|> b) = (uncapCut a <|> uncapCut b) := by
  cases a <;> rfl

lemma unsigned?_uncap (t : List Char) : unsigned? (Text.uncap t) = uncapCut (unsigned? t) := by
  simp only [unsigned?, hexDigits?_uncap, scientific?_uncap, decimal?_uncap, whole?_uncap,
    uncapCut_orElse, uncapCut_map, Option.map_map]
  rfl

lemma number?_uncap (t : List Char) : number? (Text.uncap t) = uncapCut (number? t) := by
  fun_cases number? t
  case case1 r =>
    change number? ('-' :: Text.uncap r) = _
    rw [number?, unsigned?_uncap, uncapCut_map, uncapCut, Option.map_map]
    rfl
  case case2 h =>
    rw [number?.eq_2 _ fun s hs => ?_, unsigned?_uncap]
    obtain ⟨u, rfl, -⟩ := exists_of_uncap_eq_cons rfl hs
    exact h u rfl

/-! ## Words -/

lemma phrase?_uncap (table : Char → List (Kind × List String)) (t : List Char) :
    phrase? table (Text.uncap t) = uncapCut (phrase? table t) := by
  have hhead : (Text.uncap t).head?.map (fun c => table (Fold.key c))
      = t.head?.map fun c => table (Fold.key c) := by
    cases t with
    | nil => rfl
    | cons c r => exact congrArg (fun k => some (table k)) (key_congr (toLower_toLower c))
  rw [phrase?, phrase?, hhead, uncapCut, List.map_findSome?]
  refine congrArg (List.findSome? · _) (funext fun ⟨k, ps⟩ => ?_)
  dsimp only [Function.comp_apply]
  rw [List.map_findSome?]
  refine congrArg (List.findSome? · _) (funext fun phrase => ?_)
  rw [splitBy?_uncap, Option.filter_map, Function.comp_apply, Option.map_map, Option.map_map]
  have hword : ((fun x : List Char × List Char => !startsWithWord x.2) ∘ fun x : List Char × List Char =>
      (Text.uncap x.1, Text.uncap x.2)) = fun x => !startsWithWord x.2 :=
    funext fun x => congrArg _ (startsWithWord_uncap x.2)
  rw [hword]
  rfl

lemma batchEnd?_uncap (t : List Char) : batchEnd? (Text.uncap t) = uncapCut (batchEnd? t) := by
  have hsame : ∀ c d : Char, Fold.same c.toLower d = Fold.same c d := fun c d => by
    rw [Bool.eq_iff_iff, same_iff, same_iff, key_congr (toLower_toLower c)]
  match t with
  | [] | [_] | [_, _] => rfl
  | g :: o :: c :: r =>
    simp only [uncap_cons, batchEnd?, hsame, blind_isBlank c, takeWhile_uncap blind_isDigit,
      dropWhile_uncap blind_isDigit, isEmpty_uncap, startsWithWord_uncap]
    rw [uncapCut_ite]
    rfl

lemma zoneShift?_uncap (t : List Char) : zoneShift? (Text.uncap t) = uncapCut (zoneShift? t) := by
  have hquote : Blind fun c => c != '\'' := (blind_beq (a := '\'') rfl).not
  rw [zoneShift?, zoneShift?, uncapCut, List.map_findSome?]
  refine congrArg (List.findSome? · _) (funext fun phrase => ?_)
  rw [splitBy?_uncap, Function.comp_apply]
  cases Phrase.splitBy? Fold.same phrase.toList t with
  | none => rfl
  | some x =>
    obtain ⟨covered, rest⟩ := x
    rw [Option.map_some, Option.bind_some, Option.bind_some]
    dsimp only
    rw [drop_uncap, takeWhile_uncap hquote, dropWhile_uncap hquote, isEmpty_uncap]
    by_cases h : (∃ more, rest = '\'' :: more)
        ∧ ∃ behind, (rest.drop 1).dropWhile (· != '\'') = '\'' :: behind
    · obtain ⟨⟨more, rfl⟩, behind, hbehind⟩ := h
      rw [hbehind]
      change (if _ then none else some _) = uncapCut (if _ then none else some _)
      split_ifs
      · rfl
      · rw [uncapCut_some, uncap_append, uncap_append]
        rfl
    · -- what is missing in the text is missing without its capitals
      trans none
      · split
        · rename_i more behind hmore hbehind
          obtain ⟨u, hu, -⟩ := exists_of_uncap_eq_cons rfl hmore
          obtain ⟨v, hv, -⟩ := exists_of_uncap_eq_cons rfl hbehind
          exact absurd ⟨⟨u, hu⟩, v, hv⟩ h
        · rfl
      · split
        · rename_i hbehind
          exact absurd ⟨⟨_, rfl⟩, _, hbehind⟩ h
        · rfl

lemma markedBody?_uncap {mark : List Char} (hmark : Text.uncap mark = mark) (t : List Char) :
    markedBody? mark (Text.uncap t) = uncapCut (markedBody? mark t) := by
  match t with
  | [] | [_] => rfl
  | c :: d :: r =>
    simp only [uncap_cons, markedBody?, blind_isNameStart c, blind_isWord d,
      takeWhile_uncap blind_isWord, dropWhile_uncap blind_isWord]
    rw [uncapCut_ite, uncapCut_some, uncap_append, hmark]
    rfl

lemma marked?_uncap (t : List Char) : marked? (Text.uncap t) = uncapCut (marked? t) := by
  fun_cases marked? t
  case case1 r => exact markedBody?_uncap rfl r
  case case2 r => exact markedBody?_uncap rfl r
  case case3 r h =>
    change marked? ('#' :: Text.uncap r) = _
    rw [marked?.eq_3 _ fun s hs => ?_]
    · exact markedBody?_uncap rfl r
    · obtain ⟨u, rfl, -⟩ := exists_of_uncap_eq_cons rfl hs
      exact h u rfl
  case case4 hat htwo hone =>
    refine marked?.eq_4 _ (fun s hs => ?_) (fun s hs => ?_) fun s hs => ?_
    · obtain ⟨u, rfl, -⟩ := exists_of_uncap_eq_cons rfl hs
      exact hat u rfl
    · obtain ⟨u, rfl, hu⟩ := exists_of_uncap_eq_cons rfl hs
      obtain ⟨v, rfl, -⟩ := exists_of_uncap_eq_cons rfl hu
      exact htwo v rfl
    · obtain ⟨u, rfl, -⟩ := exists_of_uncap_eq_cons rfl hs
      exact hone u rfl

/-- A character that is no letter stands before in either case. -/
lemma beq_some_map_toLower {a : Char} (ha : a.isAlpha = false) (before : Option Char) :
    (before.map Char.toLower == some a) = (before == some a) := by
  cases before with
  | none => rfl
  | some c => exact beq_toLower ha c

lemma head?_uncap_beq {a : Char} (ha : a.isAlpha = false) (t : List Char) :
    ((Text.uncap t).head? == some a) = (t.head? == some a) := by
  cases t with
  | nil => rfl
  | cons c r => exact beq_toLower ha c

lemma placedName?_uncap (before : Option Char) (t : List Char) :
    placedName? (before.map Char.toLower) (Text.uncap t) = uncapCut (placedName? before t) := by
  cases t with
  | nil => rfl
  | cons c r =>
    simp only [uncap_cons, placedName?, blind_isNameStart c, beq_some_map_toLower (a := '.') rfl,
      takeWhile_uncap blind_isWord, dropWhile_uncap blind_isWord, dropWhile_uncap blind_isBlank,
      head?_uncap_beq (a := '.') rfl, head?_uncap_beq (a := '(') rfl]
    rw [uncapCut_ite]
    rfl

/-- A key between parentheses and the letter behind them. -/
lemma placeholder?_key (before : Option Char) {r rest : List Char} {c : Char}
    (h : r.dropWhile isWord = ')' :: c :: rest) :
    placeholder? before ('%' :: '(' :: r) =
      if !(r.takeWhile isWord).isEmpty && Fold.same 's' c then
        some (⟨.placeholder, '%' :: '(' :: r.takeWhile isWord ++ [')', c]⟩, rest)
      else none := by
  rw [placeholder?]
  simp only [h]

lemma placeholder?_keyless (before : Option Char) {r : List Char}
    (h : ∀ c rest, r.dropWhile isWord ≠ ')' :: c :: rest) :
    placeholder? before ('%' :: '(' :: r) = none := by
  rw [placeholder?]
  split
  · rename_i hrest
    exact absurd hrest (h _ _)
  · rfl

lemma placeholder?_key_uncap (before : Option Char) (r : List Char) :
    placeholder? (before.map Char.toLower) ('%' :: '(' :: Text.uncap r)
      = uncapCut (placeholder? before ('%' :: '(' :: r)) := by
  have hdrop := dropWhile_uncap blind_isWord r
  by_cases h : ∃ c rest, r.dropWhile isWord = ')' :: c :: rest
  · obtain ⟨c, rest, hrest⟩ := h
    rw [hrest] at hdrop
    rw [placeholder?_key before hrest, placeholder?_key _ (c := c.toLower) hdrop,
      takeWhile_uncap blind_isWord, isEmpty_uncap, same_toLower, uncapCut_ite, uncapCut_some,
      uncap_append]
    rfl
  · rw [placeholder?_keyless, placeholder?_keyless]
    · rfl
    · exact fun c rest hrest => h ⟨c, rest, hrest⟩
    · intro c rest hrest
      obtain ⟨u, hu, hc⟩ := exists_of_uncap_eq_cons rfl (hdrop.symm.trans hrest)
      obtain ⟨d, v, rfl, -, -⟩ := List.map_eq_cons_iff.1 hc
      exact h ⟨d, v, hu⟩

lemma placeholder?_uncap (before : Option Char) (t : List Char) :
    placeholder? (before.map Char.toLower) (Text.uncap t) = uncapCut (placeholder? before t) := by
  match t with
  | [] => rfl
  | c :: r =>
    by_cases hquestion : c = '?'
    · subst hquestion
      rfl
    by_cases hpercent : ∃ d s, c = '%' ∧ r = d :: s
    · obtain ⟨d, s, rfl, rfl⟩ := hpercent
      by_cases hopening : d = '('
      · subst hopening
        exact placeholder?_key_uncap before s
      · change placeholder? _ ('%' :: d.toLower :: Text.uncap s) = _
        rw [placeholder?.eq_3 _ _ _ hopening,
          placeholder?.eq_3 _ _ _ fun h => hopening (eq_of_toLower_eq rfl h), same_toLower,
          uncapCut_ite]
        rfl
    · have hplain : ∀ d s, c = '%' → r = d :: s → False := fun d s hc hr => hpercent ⟨d, s, hc, hr⟩
      have hplain' : ∀ d s, c.toLower = '%' → Text.uncap r = d :: s → False := by
        intro d s hc hr
        obtain ⟨e, v, rfl, -, -⟩ := List.map_eq_cons_iff.1 hr
        exact hplain e v (eq_of_toLower_eq rfl hc) rfl
      rw [uncap_cons, placeholder?.eq_4 _ _ _ hquestion (fun s => hplain '(' s) hplain,
        placeholder?.eq_4 _ _ _ (fun h => hquestion (eq_of_toLower_eq rfl h))
          (fun s => hplain' '(' s) hplain',
        beq_toLower (a := '$') rfl, beq_toLower (a := ':') rfl, any_map_toLower blind_isWord,
        startsWithWord_uncap, takeWhile_uncap blind_isWord, dropWhile_uncap blind_isWord,
        uncapCut_ite]
      rfl

lemma command?_uncap (t : List Char) : command? (Text.uncap t) = uncapCut (command? t) := by
  fun_cases command? t
  case case1 r h =>
    change command? ('\\' :: Text.uncap r) = _
    rw [command?, startsWithWord_uncap, if_pos h, takeWhile_uncap blind_isWord,
      dropWhile_uncap blind_isWord]
    rfl
  case case2 r h =>
    change command? ('\\' :: Text.uncap r) = _
    rw [command?, startsWithWord_uncap, if_neg h]
    rfl
  case case3 h =>
    refine command?.eq_2 _ fun s hs => ?_
    obtain ⟨u, rfl, -⟩ := exists_of_uncap_eq_cons rfl hs
    exact h u rfl

lemma upperChar_toLower (c : Char) : upperChar c.toLower = upperChar c := by
  obtain hc | hc := Nat.lt_or_ge c.toNat 128
  · exact forall_ascii (P := fun c => upperChar c.toLower = upperChar c) (by decide) hc
  · rw [toLower_eq_self hc]

lemma upper_uncap (t : List Char) : upper (Text.uncap t) = upper t := by
  rw [upper, upper, Text.uncap, List.flatMap_map]
  exact List.flatMap_congr fun c _ => upperChar_toLower c

lemma word?_uncap (t : List Char) : word? (Text.uncap t) = uncapCut (word? t) := by
  have hgoesOn : Blind fun d => isWord d || d == '$' || d == '#' :=
    (blind_isWord.or (blind_beq (a := '$') rfl)).or (blind_beq (a := '#') rfl)
  cases t with
  | nil => rfl
  | cons c r =>
    rw [uncap_cons, word?, word?, blind_isWord c]
    dsimp only
    rw [takeWhile_uncap hgoesOn, dropWhile_uncap hgoesOn, ← uncap_cons, upper_uncap, uncapCut_ite]
    rfl

/-! ## Signs -/

lemma punctuation?_uncap (t : List Char) :
    punctuation? (Text.uncap t) = uncapCut (punctuation? t) := by
  -- a letter of ASCII is no punctuation mark in either case
  have hrest : ∀ (c : Char) (r : List Char),
      punctuation? (c :: r) = (punctuation? [c]).map fun x => (x.1, r) := fun c r => by
    change Option.map _ _ = Option.map _ (Option.map _ _)
    rw [Option.map_map]
    rfl
  have hmark : ∀ c : Char, punctuation? [c.toLower] = uncapCut (punctuation? [c]) := fun c => by
    obtain hc | hc := Nat.lt_or_ge c.toNat 128
    · exact forall_ascii (P := fun c => punctuation? [c.toLower] = uncapCut (punctuation? [c]))
        (by decide) hc
    · rw [toLower_eq_self hc]
      change _ = uncapCut (Option.map _ _)
      rw [uncapCut_map]
      simp only [Token.uncap, uncap_cons, uncap_nil, toLower_eq_self hc]
      rfl
  cases t with
  | nil => rfl
  | cons c r =>
    rw [uncap_cons, hrest, hmark, hrest c r, uncapCut_map, uncapCut, Option.map_map]
    rfl

/-- The signs of an operator that is tried before the runs stand in a text in either case. -/
lemma hasFront_uncap {front : List Char} (h : ∀ a ∈ front, a.isAlpha = false) (t : List Char) :
    hasFront (· == ·) front (Text.uncap t) = hasFront (· == ·) front t := by
  have hstrip := @stripFront?_uncap (· == ·) front (fun a ha => toLower_beq_toLower (h a ha)) t
  rw [uncap_of_not_isAlpha h] at hstrip
  rw [hasFront, hasFront, hstrip, Option.isSome_map]

lemma arrow?_uncap (t : List Char) : arrow? (Text.uncap t) = uncapCut (arrow? t) := by
  have hmarks : arrows.all (·.all (!·.isAlpha)) = true := rfl
  have harrows : ∀ a ∈ arrows, ∀ c ∈ a, c.isAlpha = false := fun a ha =>
    not_isAlpha_of_all (List.all_eq_true.1 hmarks a ha)
  have hfind : arrows.find? (hasFront (· == ·) · (Text.uncap t))
      = arrows.find? (hasFront (· == ·) · t) :=
    List.find?_congr fun a ha => hasFront_uncap (harrows a ha) t
  rw [arrow?, arrow?, hfind]
  cases h : arrows.find? (hasFront (· == ·) · t) with
  | none => rfl
  | some a =>
    have ha := uncap_of_not_isAlpha (harrows a (List.mem_of_find?_eq_some h))
    rw [Option.map_some, Option.map_some, uncapCut_some, ha, drop_uncap]

lemma run?_uncap (k : Kind) {sort : List Char} (hsort : ∀ a ∈ sort, a.isAlpha = false)
    (t : List Char) : run? k sort (Text.uncap t) = uncapCut (run? k sort t) := by
  have hblind : Blind fun c => sort.contains c := blind_contains hsort
  rw [run?, run?, takeWhile_uncap hblind, dropWhile_uncap hblind, isEmpty_uncap]
  split_ifs <;> rfl

lemma operator?_uncap (t : List Char) : operator? (Text.uncap t) = uncapCut (operator? t) := by
  rw [operator?, operator?, arrow?_uncap, run?_uncap _ (not_isAlpha_of_all rfl),
    run?_uncap _ (not_isAlpha_of_all rfl), uncapCut_orElse, uncapCut_orElse]

lemma single?_uncap (t : List Char) : single? (Text.uncap t) = uncapCut (single? t) := by
  cases t <;> rfl

/-! ## Texts -/

lemma first?_uncap (before : Option Char) (t : List Char) :
    first? (before.map Char.toLower) (Text.uncap t) = uncapCut (first? before t) := by
  simp only [first?, uncapCut_orElse, block?_uncap, line?_uncap, space?_uncap, sign?_uncap,
    quote?_uncap _ (q := '\u0060') rfl, quote?_uncap _ (q := '\u00b4') rfl,
    quote?_uncap _ (q := '\'') rfl, quote?_uncap _ (q := '"') rfl, tagged?_uncap,
    placeholder?_uncap, command?_uncap, phrase?_uncap, marked?_uncap, placedName?_uncap,
    number?_uncap, bracketed?_uncap, batchEnd?_uncap, zoneShift?_uncap, word?_uncap,
    punctuation?_uncap, operator?_uncap, single?_uncap]

lemma scanUpTo_uncap (n : Nat) (before : Option Char) (t : List Char) :
    scanUpTo n (before.map Char.toLower) (Text.uncap t) = (scanUpTo n before t).map uncap := by
  induction n generalizing before t with
  | zero => rfl
  | succ n ih =>
    cases t with
    | nil => rfl
    | cons c r =>
      rw [uncap_cons, scanUpTo.eq_3 _ _ _ (List.cons_ne_nil _ _),
        scanUpTo.eq_3 _ _ _ (List.cons_ne_nil _ _), ← uncap_cons, first?_uncap]
      cases first? before (c :: r) with
      | none => rfl
      | some x =>
        obtain ⟨t, rest⟩ := x
        have hlast : (t.uncap.text.getLast?).or (before.map Char.toLower)
            = (t.text.getLast?.or before).map Char.toLower := by
          rw [Token.uncap, Text.uncap, List.getLast?_map, Option.map_or]
        rw [uncapCut, Option.map_some]
        dsimp only
        rw [hlast, ih, List.map_cons]

/-- The text without capitals has the tokens of the text, without capitals. -/
theorem scan_uncap (t : List Char) : scan (Text.uncap t) = (scan t).map uncap := by
  rw [scan, scan, length_uncap]
  exact scanUpTo_uncap t.length none t

end QueryTutor.Query.Token
