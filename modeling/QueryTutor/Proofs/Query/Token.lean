import QueryTutor.Proofs.Text.Case
import QueryTutor.Proofs.Text.Front
import QueryTutor.Query.Token.Scan

/-!
# Tokens

Cutting a text into tokens loses nothing and always takes something, so a bound on the number of
tokens that is as long as the text cuts it to its end.  A comment line is a token of its own, and
what follows it is cut as if it stood alone.
-/

namespace QueryTutor.Query.Token
open Text

/-- White space, or a comment that is no hint. -/
inductive IsLayout (t : Token) : Prop where
  | space (isSpace : t.isSpace = true) (isBlank : ∀ c ∈ t.text, isBlank c = true)
  | comment (isComment : t.kind = .comment) (mark : ∃ c ∈ t.text.head?, c ∈ ['-', '#', '/'])

/-- The kinds of white space and comments. -/
def Kind.isLayout (k : Kind) : Bool :=
  k == .blank || k == .lineBreak || k == .comment

/-- The text begins with two given letters, in whatever case. -/
def Begins (c d : Char) (t : List Char) : Prop :=
  ∃ a b r, t = a :: b :: r ∧ a.toLower = c ∧ b.toLower = d

/-- The kinds that tell something about the text of a token. -/
def Kind.isShaped (k : Kind) : Bool :=
  k.isLayout || [.cast, .assignment, .typeName, .zoneShift].contains k

/-- What the kind of a token tells about its text. -/
inductive Shape (t : Token) : Prop where
  | layout (h : IsLayout t)
  | sign (isSign : t.kind = .cast ∨ t.kind = .assignment) (colon : ∃ r, t.text = ':' :: r)
  | typeName (isType : t.kind = .typeName)
      (name : Vocabulary.kindOf t.capitals = .typeName ∨ Begins 'd' 'o' t.text)
  | zoneShift (isShift : t.kind = .zoneShift)
      (phrase : Begins 'a' 't' t.text ∨ ∃ a ∈ t.text.head?, a.toLower = 'w')

/-- The text begins with the token, of which something can be seen, and goes on with the rest. -/
structure Cuts (t : List Char) (x : Token × List Char) : Prop where
  append : x.1.text ++ x.2 = t
  ne_nil : x.1.text ≠ []
  shape : x.1.kind.isShaped = true → Shape x.1

/-- What is cut off the text, if anything, is a token at its front. -/
def Sound (t : List Char) (cut : Cut) : Prop :=
  ∀ x, cut = some x → Cuts t x

lemma Sound.none (t : List Char) : Sound t none :=
  nofun

lemma Sound.orElse {t : List Char} {a b : Cut} (ha : Sound t a) (hb : Sound t b) :
    Sound t (a <|> b) := by
  intro x h
  cases a with
  | none => exact hb x h
  | some y => exact ha x h

lemma Sound.ite {t : List Char} {p : Prop} [Decidable p] {a b : Cut} (ha : Sound t a)
    (hb : Sound t b) : Sound t (if p then a else b) := by
  split_ifs
  · exact ha
  · exact hb

/-- A token of a kind that tells nothing about its text. -/
lemma Sound.plain {t u rest : List Char} {k : Kind} (happend : u ++ rest = t) (hne : u ≠ [])
    (hk : k.isShaped = false) : Sound t (some (⟨k, u⟩, rest)) := by
  rintro x ⟨⟩
  exact ⟨happend, hne, fun h => absurd (hk.symm.trans h) Bool.false_ne_true⟩

lemma sound_block (t : List Char) : Sound t (block? t) := by
  intro x h
  unfold block? at h
  split at h
  case h_1 r =>
    obtain ⟨⟨body, rest⟩, hsplit, rfl⟩ := Option.map_eq_some_iff.1 h
    refine ⟨?_, List.cons_ne_nil _ _, nofun⟩
    change '/' :: '*' :: '+' :: (body ++ rest) = _
    rw [splitThrough?_eq_some hsplit]
  case h_2 r _ =>
    obtain ⟨⟨body, rest⟩, hsplit, rfl⟩ := Option.map_eq_some_iff.1 h
    refine ⟨?_, List.cons_ne_nil _ _, fun _ => .layout (.comment rfl ⟨'/', rfl, by decide⟩)⟩
    change '/' :: '*' :: (body ++ rest) = _
    rw [splitThrough?_eq_some hsplit]
  case h_3 => cases h

lemma throughLine_append (t : List Char) : (throughLine t).1 ++ (throughLine t).2 = t := by
  fun_induction throughLine t with
  | case5 c r _ _ _ line rest h ih =>
    rw [h] at ih
    exact congrArg (c :: ·) ih
  | _ => rfl

lemma sound_line (t : List Char) : Sound t (line? t) := by
  unfold line?
  split
  case h_2 => exact .none _
  case h_1 a b r =>
    rw [Sound]
    intro x h
    split_ifs at h with hmark hplus
    all_goals
      cases h
      refine ⟨congrArg (a :: b :: ·) (throughLine_append r), List.cons_ne_nil _ _, fun hkind => ?_⟩
    · cases hkind
    · have ha : a ∈ ['-', '#', '/'] := by
        simp only [Bool.or_eq_true, Bool.and_eq_true, beq_iff_eq] at hmark
        obtain ⟨rfl, -⟩ | ⟨rfl, -⟩ := hmark
        · exact List.mem_cons_self
        · exact List.mem_cons_of_mem _ List.mem_cons_self
      exact .layout (.comment rfl ⟨a, rfl, ha⟩)

lemma sound_space (t : List Char) : Sound t (space? t) := by
  have blanks : ∀ c ∈ ['\r', '\n'], isBlank c = true :=
    List.forall_mem_cons.2 ⟨rfl, List.forall_mem_singleton.2 rfl⟩
  unfold space?
  split
  case h_1 r =>
    rintro x ⟨⟩
    exact ⟨rfl, List.cons_ne_nil _ _, fun _ => .layout (.space rfl blanks)⟩
  case h_2 c r _ =>
    split_ifs with hbreak hblank
    · rintro x ⟨⟩
      refine ⟨rfl, List.cons_ne_nil _ _,
        fun _ => .layout (.space rfl (List.forall_mem_singleton.2 ?_))⟩
      simp only [Bool.or_eq_true, beq_iff_eq] at hbreak
      obtain rfl | rfl := hbreak <;> rfl
    · rintro x ⟨⟩
      exact ⟨rfl, List.cons_ne_nil _ _,
        fun _ => .layout (.space rfl (List.forall_mem_singleton.2 hblank))⟩
    · exact .none _
  case h_3 => exact .none _

lemma sound_sign (t : List Char) : Sound t (sign? t) := by
  unfold sign?
  split
  case h_1 =>
    rintro x ⟨⟩
    exact ⟨rfl, List.cons_ne_nil _ _, fun _ => .sign (.inr rfl) ⟨_, rfl⟩⟩
  case h_2 =>
    rintro x ⟨⟩
    exact ⟨rfl, List.cons_ne_nil _ _, fun _ => .sign (.inl rfl) ⟨_, rfl⟩⟩
  case h_3 => exact .plain rfl (List.cons_ne_nil _ _) rfl
  case h_4 => exact .none _

lemma quoteBody?_append {q : Char} {escapes : Bool} {t body rest : List Char}
    (h : quoteBody? q escapes t = some (body, rest)) : body ++ rest = t := by
  fun_induction quoteBody? q escapes t generalizing body rest with
  | case1 => cases h
  | case2 => 
    cases h
    rfl
  | case3 => cases h
  | case4 c d r hq body' rest' hbody ih =>
    cases h
    exact congrArg (c :: d :: ·) (ih hbody)
  | case5 c d r hq hnone ih =>
    cases h
    rfl
  | case6 c d r hq hescape body' rest' hbody ih =>
    cases h
    exact congrArg (c :: d :: ·) (ih hbody)
  | case7 => 
    cases h
    rfl
  | case8 =>
    cases h
    rfl
  | case9 c d r _ _ _ ih =>
    obtain ⟨⟨u, v⟩, hbody, heq⟩ := Option.map_eq_some_iff.1 h
    cases heq
    exact congrArg (c :: ·) (ih hbody)

lemma sound_quote {k : Kind} (hk : k.isShaped = false) (q : Char) (escapes : Bool)
    (t : List Char) : Sound t (quote? k q escapes t) := by
  intro x h
  unfold quote? at h
  split at h
  case h_1 => cases h
  case h_2 c r =>
    split_ifs at h
    obtain ⟨⟨body, rest⟩, hbody, heq⟩ := Option.map_eq_some_iff.1 h
    have happend : c :: body ++ rest = c :: r := congrArg (c :: ·) (quoteBody?_append hbody)
    exact Sound.plain happend (List.cons_ne_nil _ _) hk x (congrArg some heq)

lemma takeWhile_append_drop (p : Char → Bool) (t : List Char) :
    t.takeWhile p ++ t.drop (t.takeWhile p).length = t := by
  obtain ⟨v, hv⟩ := List.takeWhile_prefix (l := t) p
  generalize t.takeWhile p = u at hv
  rw [← hv, List.drop_left]

lemma tagName_append_drop (t : List Char) : tagName t ++ t.drop (tagName t).length = t := by
  cases t with
  | nil => rfl
  | cons c t =>
    rw [tagName]
    split_ifs
    · rw [List.cons_append, List.length_cons, List.drop_succ_cons, takeWhile_append_drop]
    · rfl

lemma sound_tagged (before : Option Char) (t : List Char) : Sound t (tagged? before t) := by
  intro x h
  unfold tagged? at h
  split at h
  case h_2 => cases h
  case h_1 r =>
    split_ifs at h
    dsimp only at h
    split at h
    case h_2 => cases h
    case h_1 body hbody =>
      obtain ⟨⟨text, rest⟩, hsplit, heq⟩ := Option.map_eq_some_iff.1 h
      have happend : '$' :: tagName r ++ ['$'] ++ text ++ rest = '$' :: r := by
        rw [List.append_assoc, splitThrough?_eq_some hsplit, List.append_assoc,
          List.singleton_append, ← hbody, List.cons_append, tagName_append_drop]
      exact Sound.plain happend (List.cons_ne_nil _ _) rfl x (congrArg some heq)

lemma sound_bracketed (before : Option Char) (t : List Char) : Sound t (bracketed? before t) := by
  unfold bracketed?
  split
  case h_2 => exact .none _
  case h_1 r =>
    refine .ite (.none _) ?_
    split
    case h_2 => exact .none _
    case h_1 rest htake hdrop =>
      refine .plain ?_ (List.cons_ne_nil _ _) rfl
      rw [List.cons_append, List.cons_append, List.append_assoc, List.singleton_append, ← hdrop,
        List.takeWhile_append_dropWhile]

/-- A part of a text and what follows it. -/
def Splits (t : List Char) (x : List Char × List Char) : Prop :=
  x.1 ++ x.2 = t

lemma looseDigits_append (t : List Char) : Splits t (looseDigits t) := by
  unfold looseDigits
  dsimp only
  split_ifs
  · rw [Splits, List.dropLast_eq_take, ← List.append_assoc, List.take_append_drop,
      List.takeWhile_append_dropWhile]
  · exact List.takeWhile_append_dropWhile

lemma hexDigits?_append {t : List Char} {x : List Char × List Char} (h : hexDigits? t = some x) :
    Splits t x ∧ x.1 ≠ [] := by
  unfold hexDigits? at h
  split at h
  case h_2 => cases h
  case h_1 x' r =>
    split_ifs at h
    cases h
    exact ⟨congrArg ('0' :: x' :: ·) List.takeWhile_append_dropWhile, List.cons_ne_nil _ _⟩

lemma fraction_append (t : List Char) : Splits t (fraction t) := by
  unfold fraction
  split
  case h_1 r =>
    split_ifs
    · exact congrArg ('.' :: ·) List.takeWhile_append_dropWhile
    · rfl
  case h_2 => rfl

lemma exponent?_append {t : List Char} {x : List Char × List Char} (h : exponent? t = some x) :
    Splits t x := by
  unfold exponent? at h
  split at h
  case h_2 => cases h
  case h_1 e r =>
    dsimp only at h
    split_ifs at h
    cases h
    rw [Splits, List.append_assoc, List.takeWhile_append_dropWhile, List.cons_append,
      takeWhile_append_drop]

lemma scientific?_append {t : List Char} {x : List Char × List Char}
    (h : scientific? t = some x) : Splits t x ∧ x.1 ≠ [] := by
  unfold scientific? at h
  have hpoint := fraction_append (t.dropWhile isDigit)
  generalize fraction (t.dropWhile isDigit) = point at h hpoint
  dsimp only at h
  split_ifs at h with hds
  obtain ⟨⟨power, rest⟩, hpower, rfl⟩ := Option.map_eq_some_iff.1 h
  have hrest := exponent?_append hpower
  constructor
  · rw [Splits] at hrest hpoint ⊢
    rw [List.append_assoc, hrest, List.append_assoc, hpoint, List.takeWhile_append_dropWhile]
  · intro hnil
    exact hds (List.isEmpty_iff.2 (List.append_eq_nil_iff.1 (List.append_eq_nil_iff.1 hnil).1).1)

lemma decimal?_append {t : List Char} {x : List Char × List Char} (h : decimal? t = some x) :
    Splits t x ∧ x.1 ≠ [] := by
  unfold decimal? at h
  dsimp only at h
  split at h
  case h_2 => cases h
  case h_1 r hr =>
    have hloose := looseDigits_append r
    generalize looseDigits r = loose at h hloose
    split_ifs at h
    cases h
    constructor
    · rw [Splits] at hloose ⊢
      rw [List.append_assoc, List.cons_append, hloose, ← hr, List.takeWhile_append_dropWhile]
    · exact List.append_ne_nil_of_right_ne_nil _ (List.cons_ne_nil _ _)

lemma whole?_append {t : List Char} {x : List Char × List Char} (h : whole? t = some x) :
    Splits t x ∧ x.1 ≠ [] := by
  unfold whole? at h
  have hloose := looseDigits_append t
  generalize looseDigits t = loose at h hloose
  dsimp only at h
  split_ifs at h with hds
  cases h
  exact ⟨hloose, fun hnil => hds (List.isEmpty_iff.2 hnil)⟩

lemma Sound.map_mk {t : List Char} {k : Kind} (hk : k.isShaped = false)
    {part : Option (List Char × List Char)} (h : ∀ x, part = some x → Splits t x ∧ x.1 ≠ []) :
    Sound t (part.map fun x => (⟨k, x.1⟩, x.2)) := by
  cases part with
  | none => exact .none t
  | some x => exact .plain (h x rfl).1 (h x rfl).2 hk

lemma sound_unsigned (t : List Char) : Sound t (unsigned? t) := by
  refine .orElse (.map_mk rfl fun x => hexDigits?_append) (.orElse (.map_mk rfl fun x =>
    scientific?_append) (.orElse (.map_mk rfl fun x => decimal?_append) (.map_mk rfl fun x =>
      whole?_append)))

lemma unsigned?_isShaped {t : List Char} {x : Token × List Char} (h : unsigned? t = some x) :
    x.1.kind.isShaped = false := by
  simp only [unsigned?, Option.orElse_eq_orElse, Option.orElse_eq_or, Option.or_eq_some_iff,
    Option.map_eq_some_iff] at h
  obtain ⟨_, -, rfl⟩ | ⟨-, ⟨_, -, rfl⟩ | ⟨-, ⟨_, -, rfl⟩ | ⟨-, _, -, rfl⟩⟩⟩ := h <;> rfl

lemma sound_number (t : List Char) : Sound t (number? t) := by
  unfold number?
  split
  case h_2 => exact sound_unsigned _
  case h_1 r =>
    intro x h
    obtain ⟨⟨token, rest⟩, hcut, rfl⟩ := Option.map_eq_some_iff.1 h
    exact Sound.plain (congrArg ('-' :: ·) (sound_unsigned r _ hcut).append) (List.cons_ne_nil _ _)
      (unsigned?_isShaped hcut) _ rfl

lemma splitBy?_eq_some {eq : Char → Char → Bool} {phrase t covered rest : List Char}
    (h : Phrase.splitBy? eq phrase t = some (covered, rest)) :
    Splits t (covered, rest) ∧ (phrase ≠ [] → covered ≠ []) := by
  induction phrase generalizing t covered with
  | nil =>
    cases h
    exact ⟨rfl, fun h => absurd rfl h⟩
  | cons c phrase ih =>
    cases t with
    | nil => cases h
    | cons d t =>
      rw [Phrase.splitBy?] at h
      split_ifs at h
      · obtain ⟨⟨u, v⟩, hsplit, heq⟩ := Option.map_eq_some_iff.1 h
        cases heq
        have happend := (ih hsplit).1
        rw [Splits] at happend ⊢
        refine ⟨?_, fun _ => List.append_ne_nil_of_left_ne_nil (List.cons_ne_nil _ _) _⟩
        rw [List.append_assoc, happend, List.cons_append, List.takeWhile_append_dropWhile]
      · obtain ⟨⟨u, v⟩, hsplit, heq⟩ := Option.map_eq_some_iff.1 h
        cases heq
        exact ⟨congrArg (d :: ·) (ih hsplit).1, fun _ => List.cons_ne_nil _ _⟩

lemma splitBy?_cons {c : Char} (hc : standsAlone c = true ∧ Fold.key c = c ∧ c ≠ ' ')
    {phrase t covered rest : List Char}
    (h : Phrase.splitBy? Fold.same (c :: phrase) t = some (covered, rest)) :
    ∃ a r u, covered = a :: r ∧ a.toLower = c ∧ Phrase.splitBy? Fold.same phrase u = some (r, rest) := by
  obtain ⟨halone, hkey, hspace⟩ := hc
  cases t with
  | nil => cases h
  | cons a t =>
    rw [Phrase.splitBy?, if_neg hspace] at h
    split_ifs at h with hsame
    obtain ⟨⟨r, rest'⟩, h, heq⟩ := Option.map_eq_some_iff.1 h
    cases heq
    exact ⟨a, r, t, rfl, toLower_eq_of_key halone (((same_iff c a).1 hsame).symm.trans hkey), h⟩

lemma begins_of_splitBy? {c d : Char} (hc : standsAlone c = true ∧ Fold.key c = c ∧ c ≠ ' ')
    (hd : standsAlone d = true ∧ Fold.key d = d ∧ d ≠ ' ') {phrase t covered rest : List Char}
    (h : Phrase.splitBy? Fold.same (c :: d :: phrase) t = some (covered, rest)) :
    Begins c d covered := by
  obtain ⟨a, r, u, rfl, ha, h⟩ := splitBy?_cons hc h
  obtain ⟨b, r, u, rfl, hb, -⟩ := splitBy?_cons hd h
  exact ⟨a, b, r, rfl, ha, hb⟩

lemma sound_phrase {table : Char → List (Kind × List String)}
    (htable : ∀ c, ∀ x ∈ table c, (∀ p ∈ x.2, p.toList ≠ []) ∧
      (x.1.isShaped = false ∨ x = (.typeName, ["double precision"])))
    (t : List Char) : Sound t (phrase? table t) := by
  intro x h
  unfold phrase? at h
  obtain ⟨⟨k, ps⟩, hk, h⟩ := List.exists_of_findSome?_eq_some h
  obtain ⟨p, hp, h⟩ := List.exists_of_findSome?_eq_some h
  obtain ⟨⟨covered, rest⟩, hsplit, heq⟩ := Option.map_eq_some_iff.1 h
  obtain ⟨hsplit, -⟩ := Option.filter_eq_some_iff.1 hsplit
  obtain ⟨c, hc⟩ : ∃ c, (k, ps) ∈ table c := by
    cases t with
    | nil => cases hk
    | cons c t => exact ⟨_, hk⟩
  obtain ⟨hne, hshape⟩ := htable c _ hc
  obtain ⟨happend, hcovered⟩ := splitBy?_eq_some hsplit
  obtain hplain | hdouble := hshape
  · exact Sound.plain happend (hcovered (hne p hp)) hplain x (congrArg some heq)
  · cases hdouble
    obtain rfl := List.mem_singleton.1 hp
    have hbegins : Begins 'd' 'o' covered :=
      begins_of_splitBy? (by decide) (by decide) hsplit
    cases heq
    exact ⟨happend, hcovered (hne _ hp), fun _ => .typeName rfl (.inr hbegins)⟩

lemma phrases_spec : ∀ c, ∀ x ∈ phrases c, (∀ p ∈ x.2, p.toList ≠ []) ∧
    (x.1.isShaped = false ∨ x = (.typeName, ["double precision"])) := by
  intro c
  unfold phrases
  split <;> decide

lemma firmKeywords_spec : ∀ c, ∀ x ∈ firmKeywords c, (∀ p ∈ x.2, p.toList ≠ []) ∧
    (x.1.isShaped = false ∨ x = (.typeName, ["double precision"])) := by
  intro c
  unfold firmKeywords
  decide

lemma sound_batchEnd (t : List Char) : Sound t (batchEnd? t) := by
  unfold batchEnd?
  split
  case h_2 => exact .none _
  case h_1 g o c r =>
    refine .ite (.plain ?_ (List.cons_ne_nil _ _) rfl) (.none _)
    exact congrArg (g :: o :: c :: ·) List.takeWhile_append_dropWhile

lemma sound_zoneShift (t : List Char) : Sound t (zoneShift? t) := by
  intro x h
  unfold zoneShift? at h
  obtain ⟨phrase, hphrase, h⟩ := List.exists_of_findSome?_eq_some h
  obtain ⟨⟨covered, rest⟩, hsplit, h⟩ := Option.bind_eq_some_iff.1 h
  obtain ⟨happend, -⟩ := splitBy?_eq_some hsplit
  dsimp only at h
  split at h
  case h_2 => cases h
  case h_1 r behind hbehind =>
    split_ifs at h
    have hzone : r = r.takeWhile (· != '\'') ++ '\'' :: behind := by
      conv_lhs => rw [← List.takeWhile_append_dropWhile (p := (· != '\'')) (l := r)]
      exact congrArg _ hbehind
    have htext : covered ++ '\'' :: r.takeWhile (· != '\'') ++ ['\''] ++ behind = t := by
      rw [List.append_assoc, List.append_assoc, List.singleton_append, List.cons_append, ← hzone]
      exact happend
    cases h
    refine ⟨htext, ?_, fun _ => .zoneShift rfl ?_⟩
    · rw [List.append_assoc]
      exact List.append_ne_nil_of_right_ne_nil _ (List.cons_ne_nil _ _)
    · simp only [List.mem_cons, List.not_mem_nil, or_false] at hphrase
      obtain rfl | rfl := hphrase
      · obtain ⟨a, b, s, rfl, ha, hb⟩ : Begins 'a' 't' covered :=
          begins_of_splitBy? (by decide) (by decide) hsplit
        exact .inl ⟨a, b, _, rfl, ha, hb⟩
      · have hw : standsAlone 'w' = true ∧ Fold.key 'w' = 'w' ∧ 'w' ≠ ' ' := by decide
        obtain ⟨a, s, -, rfl, ha, -⟩ := splitBy?_cons hw hsplit
        exact .inr ⟨a, rfl, ha⟩

lemma sound_markedBody {mark : List Char} (hmark : mark ≠ []) (t : List Char) :
    Sound (mark ++ t) (markedBody? mark t) := by
  unfold markedBody?
  split
  case h_2 => exact .none _
  case h_1 c d r =>
    refine .ite (.plain ?_ (List.append_ne_nil_of_left_ne_nil hmark _) rfl) (.none _)
    rw [List.append_assoc, List.cons_append, List.cons_append, List.takeWhile_append_dropWhile]

lemma sound_marked (t : List Char) : Sound t (marked? t) := by
  unfold marked?
  split
  case h_4 => exact .none _
  all_goals exact sound_markedBody (List.cons_ne_nil _ _) _

lemma sound_placedName (before : Option Char) (t : List Char) :
    Sound t (placedName? before t) := by
  unfold placedName?
  split
  case h_1 => exact .none _
  case h_2 c r =>
    refine .ite (.plain ?_ (List.cons_ne_nil _ _) rfl) (.none _)
    exact congrArg (c :: ·) List.takeWhile_append_dropWhile

lemma sound_placeholder (before : Option Char) (t : List Char) :
    Sound t (placeholder? before t) := by
  unfold placeholder?
  split
  case h_1 => exact .plain rfl (List.cons_ne_nil _ _) rfl
  case h_2 r =>
    dsimp only
    split
    case h_2 => exact .none _
    case h_1 c rest hrest =>
      refine .ite (.plain ?_ (List.cons_ne_nil _ _) rfl) (.none _)
      have hr : r = r.takeWhile isWord ++ ')' :: c :: rest := by
        rw [← hrest, List.takeWhile_append_dropWhile]
      conv_rhs => rw [hr]
      simp
  case h_3 c r _ => exact .ite (.plain rfl (List.cons_ne_nil _ _) rfl) (.none _)
  case h_4 c r _ _ _ =>
    refine .ite (.plain ?_ (List.cons_ne_nil _ _) rfl) (.none _)
    exact congrArg (c :: ·) List.takeWhile_append_dropWhile
  case h_5 => exact .none _

lemma sound_command (t : List Char) : Sound t (command? t) := by
  unfold command?
  split
  case h_2 => exact .none _
  case h_1 r =>
    refine .ite (.plain ?_ (List.cons_ne_nil _ _) rfl) (.none _)
    exact congrArg ('\\' :: ·) List.takeWhile_append_dropWhile

lemma entries_isShaped : ∀ c, ∀ x ∈ Vocabulary.entries c,
    x.1.isShaped = false ∨ x.1 = .typeName := by
  intro c
  unfold Vocabulary.entries
  split <;> decide

/-- A word is a name, or has the kind under which the vocabulary keeps it. -/
lemma kindOf_cases (word : List Char) : Vocabulary.kindOf word = .name ∨
    ∃ c, ∃ x ∈ Vocabulary.entries c, Vocabulary.kindOf word = x.1 ∧ ∃ w ∈ x.2, w.toList = word := by
  have hkind : Vocabulary.kindOf word
      = ((((word.head?.map Vocabulary.entries).getD []).find?
        fun x => x.2.any fun w => w.toList == word).map (·.1)).getD .name := rfl
  rw [hkind]
  cases hfind : ((word.head?.map Vocabulary.entries).getD []).find?
      fun x => x.2.any fun w => w.toList == word with
  | none => exact .inl rfl
  | some x =>
    have hmem := List.mem_of_find?_eq_some hfind
    have hany := List.find?_some hfind
    obtain ⟨w, hw, heq⟩ : ∃ w ∈ x.2, (w.toList == word) = true := List.any_eq_true.1 hany
    cases word with
    | nil => cases hmem
    | cons c word => exact .inr ⟨c, x, hmem, rfl, w, hw, beq_iff_eq.1 heq⟩

lemma kindOf_isShaped (word : List Char) : (Vocabulary.kindOf word).isShaped = false ∨
    Vocabulary.kindOf word = .typeName := by
  obtain hname | ⟨c, x, hmem, hkind, -⟩ := kindOf_cases word
  · exact .inl (by rw [hname]; rfl)
  · rw [hkind]
    exact entries_isShaped c x hmem

lemma sound_word (t : List Char) : Sound t (word? t) := by
  unfold word?
  split
  case h_1 => exact .none _
  case h_2 c r =>
    refine .ite ?_ (.none _)
    have happend : c :: r.takeWhile (fun d => isWord d || d == '$' || d == '#')
        ++ r.dropWhile (fun d => isWord d || d == '$' || d == '#') = c :: r :=
      congrArg (c :: ·) List.takeWhile_append_dropWhile
    obtain hplain | htype := kindOf_isShaped
      (upper (c :: r.takeWhile fun d => isWord d || d == '$' || d == '#'))
    · exact .plain happend (List.cons_ne_nil _ _) hplain
    · rintro x ⟨⟩
      exact ⟨happend, List.cons_ne_nil _ _, fun _ => .typeName htype (.inl htype)⟩

lemma sound_punctuation (t : List Char) : Sound t (punctuation? t) := by
  unfold punctuation?
  split
  case h_1 => exact .none _
  case h_2 c r =>
    dsimp only
    split <;> first | exact .plain rfl (List.cons_ne_nil _ _) rfl | exact .none _

lemma sound_run {k : Kind} (hk : k.isShaped = false) (sort t : List Char) :
    Sound t (run? k sort t) := by
  unfold run?
  dsimp only
  split_ifs with h
  · exact .none t
  · exact .plain List.takeWhile_append_dropWhile (fun hnil => h (List.isEmpty_iff.2 hnil)) hk

lemma sound_arrow (t : List Char) : Sound t (arrow? t) := by
  intro x h
  obtain ⟨a, ha, heq⟩ := Option.map_eq_some_iff.1 h
  have hfront := List.find?_some ha
  obtain ⟨rest, hrest⟩ := Option.isSome_iff_exists.1 hfront
  have happend : a ++ t.drop a.length = t := by
    rw [eq_append_of_stripFront? hrest, List.drop_left]
  have hne : a ≠ [] := by
    have hall : ∀ a ∈ arrows, a ≠ [] := by decide
    exact hall a (List.mem_of_find?_eq_some ha)
  exact Sound.plain happend hne rfl x (congrArg some heq)

lemma sound_operator (t : List Char) : Sound t (operator? t) :=
  .orElse (sound_arrow t) (.orElse (sound_run rfl _ t) (sound_run rfl _ t))

lemma sound_single (t : List Char) : Sound t (single? t) := by
  unfold single?
  split
  case h_1 => exact .none _
  case h_2 => exact .plain rfl (List.cons_ne_nil _ _) rfl

lemma sound_first (before : Option Char) (t : List Char) : Sound t (first? before t) :=
  .orElse (sound_block t) <| .orElse (sound_line t) <| .orElse (sound_space t) <|
    .orElse (sound_sign t) <| .orElse (sound_quote rfl _ _ t) <|
    .orElse (sound_quote rfl _ _ t) <| .orElse (sound_tagged before t) <|
    .orElse (sound_placeholder before t) <| .orElse (sound_command t) <|
    .orElse (sound_phrase firmKeywords_spec t) <| .orElse (sound_marked t) <|
    .orElse (sound_placedName before t) <| .orElse (sound_number t) <|
    .orElse (sound_quote rfl _ _ t) <| .orElse (sound_quote rfl _ _ t) <|
    .orElse (sound_bracketed before t) <| .orElse (sound_phrase phrases_spec t) <|
    .orElse (sound_batchEnd t) <| .orElse (sound_zoneShift t) <| .orElse (sound_word t) <|
    .orElse (sound_punctuation t) <| .orElse (sound_operator t) (sound_single t)

lemma Cuts.length_lt {t : List Char} {x : Token × List Char} (h : Cuts t x) :
    x.2.length < t.length := by
  have hpos := List.length_pos_iff.2 h.ne_nil
  rw [← h.append, List.length_append]
  omega

lemma Shape.isLayout {t : Token} (h : Shape t) (hkind : t.kind.isLayout = true) : IsLayout t := by
  cases h with
  | layout h => exact h
  | sign isSign => obtain h | h := isSign <;> rw [h] at hkind <;> cases hkind
  | typeName isType => rw [isType] at hkind; cases hkind
  | zoneShift isShift => rw [isShift] at hkind; cases hkind

/-- The tokens of a text look like their kinds. -/
lemma shape_of_mem_scanUpTo {n : Nat} {before : Option Char} {t : List Char} {token : Token}
    (h : token ∈ scanUpTo n before t) (hkind : token.kind.isShaped = true) : Shape token := by
  induction n generalizing before t with
  | zero => cases h
  | succ n ih =>
    cases t with
    | nil => cases h
    | cons c t =>
      rw [scanUpTo] at h
      · cases hfirst : first? before (c :: t) with
        | none =>
          rw [hfirst] at h
          cases h
        | some x =>
          rw [hfirst] at h
          obtain rfl | h := List.mem_cons.1 h
          · exact (sound_first _ _ x hfirst).shape hkind
          · exact ih h
      · nofun

lemma isLayout_of_mem_scan {t : List Char} {token : Token} (h : token ∈ scan t)
    (hkind : token.kind.isLayout = true) : IsLayout token :=
  (shape_of_mem_scanUpTo h (Bool.or_eq_true_iff.2 (.inl hkind))).isLayout hkind

lemma first?_isSome (before : Option Char) (c : Char) (t : List Char) :
    (first? before (c :: t)).isSome = true := by
  simp only [first?, single?, Option.orElse_eq_orElse, Option.orElse_eq_or, Option.isSome_or,
    Option.isSome_some, Bool.or_true]

/-- The tokens of a text make up the text. -/
theorem flatMap_text_scan (t : List Char) : (scan t).flatMap (·.text) = t := by
  have upTo : ∀ n before t, t.length ≤ n → (scanUpTo n before t).flatMap (·.text) = t := by
    intro n
    induction n with
    | zero =>
      intro before t h
      rw [List.eq_nil_of_length_eq_zero (Nat.le_zero.1 h)]
      rfl
    | succ n ih =>
      intro before t h
      cases t with
      | nil => rfl
      | cons c t =>
        obtain ⟨x, hx⟩ := Option.isSome_iff_exists.1 (first?_isSome before c t)
        have hcuts := sound_first _ _ x hx
        have hlt := hcuts.length_lt
        rw [List.length_cons] at hlt h
        rw [scanUpTo, hx]
        · rw [List.flatMap_cons, ih _ _ (by omega), hcuts.append]
        · nofun
  exact upTo t.length none t (Nat.le_refl _)

/-- No token looks behind a line break. -/
lemma first?_lineBreak (t : List Char) : first? (some '\n') t = first? none t := by
  have tagged : tagged? (some '\n') t = tagged? none t := by
    unfold tagged?
    split <;> rfl
  have placeholder : placeholder? (some '\n') t = placeholder? none t := by
    unfold placeholder?
    split <;> rfl
  have placedName : placedName? (some '\n') t = placedName? none t := by
    unfold placedName?
    split <;> rfl
  have bracketed : bracketed? (some '\n') t = bracketed? none t := by
    unfold bracketed?
    split <;> rfl
  rw [first?, first?, tagged, placeholder, placedName, bracketed]

/-- Any bound that the text does not exceed cuts it to the same tokens, at the beginning of a text
and of a line. -/
lemma scanUpTo_eq {m n : Nat} {before before' : Option Char} {t : List Char}
    (h : before = before' ∨ before = some '\n' ∧ before' = none) (hm : t.length ≤ m)
    (hn : t.length ≤ n) : scanUpTo m before t = scanUpTo n before' t := by
  induction m generalizing n before before' t with
  | zero =>
    obtain rfl := List.eq_nil_of_length_eq_zero (Nat.le_zero.1 hm)
    cases n <;> rfl
  | succ m ih =>
    cases t with
    | nil => cases n <;> rfl
    | cons c t =>
      cases n with
      | zero => cases hn
      | succ n =>
        have hfirst : first? before (c :: t) = first? before' (c :: t) := by
          obtain rfl | ⟨rfl, rfl⟩ := h
          · rfl
          · exact first?_lineBreak _
        rw [scanUpTo, scanUpTo, hfirst]
        · cases hcut : first? before' (c :: t) with
          | none => rfl
          | some x =>
            have hx := sound_first _ _ x hcut
            have hlt := hx.length_lt
            rw [List.length_cons] at hlt hm hn
            have hlast : x.1.text.getLast?.or before = x.1.text.getLast?.or before' := by
              obtain ⟨d, hd⟩ := Option.isSome_iff_exists.1 (List.getLast?_isSome.2 hx.ne_nil)
              rw [hd]
              rfl
            exact congrArg (x.1 :: ·) (ih (.inl hlast) (by omega) (by omega))
        · nofun
        · nofun

/-- A comment from two dashes to the end of the line, as an editor writes it. -/
def remark (c : List Char) : List Char :=
  '-' :: '-' :: ' ' :: c ++ ['\n']

lemma throughLine_remark {c : List Char} (hc : ∀ d ∈ c, d ≠ '\r' ∧ d ≠ '\n') (t : List Char) :
    throughLine (c ++ '\n' :: t) = (c ++ ['\n'], t) := by
  induction c with
  | nil => rfl
  | cons d c ih =>
    obtain ⟨⟨hr, hn⟩, hc⟩ := List.forall_mem_cons.1 hc
    rw [List.cons_append, throughLine.eq_5, ih hc]
    · rfl
    · rintro r rfl
      exact absurd rfl hr
    · exact hr
    · exact hn

/-- The tokens behind a comment line are those of what follows it. -/
lemma scan_remark {c : List Char} (hc : ∀ d ∈ c, d ≠ '\r' ∧ d ≠ '\n') (t : List Char) :
    scan (remark c ++ t) = ⟨.comment, remark c⟩ :: scan t := by
  have hthrough : throughLine (' ' :: (c ++ '\n' :: t)) = (' ' :: c ++ ['\n'], t) :=
    throughLine_remark (List.forall_mem_cons.2 ⟨⟨by decide, by decide⟩, hc⟩) t
  have hfirst : first? none (remark c ++ t) = some (⟨.comment, remark c⟩, t) := by
    have hline : line? (remark c ++ t) = some (⟨.comment, remark c⟩, t) := by
      have happend : remark c ++ t = '-' :: '-' :: ' ' :: (c ++ '\n' :: t) := by
        simp [remark]
      rw [happend, line?, if_pos (by rfl)]
      dsimp only
      rw [hthrough]
      rfl
    rw [first?, hline]
    rfl
  have hlength : (remark c ++ t).length = (c.length + 3 + t.length) + 1 := by
    simp only [remark, List.length_append, List.length_cons, List.length_nil]
    omega
  have hrest : scanUpTo (c.length + 3 + t.length) (some '\n') t = scan t :=
    scanUpTo_eq (.inr ⟨rfl, rfl⟩) (by omega) (Nat.le_refl _)
  have hlast : (remark c).getLast?.or none = some '\n' := by
    rw [remark, List.getLast?_concat]
    rfl
  rw [scan, hlength, scanUpTo, hfirst]
  · dsimp only
    rw [hlast, hrest]
  · exact List.cons_ne_nil _ _

end QueryTutor.Query.Token
