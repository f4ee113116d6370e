import QueryTutor.Proofs.Query.Deletion
import QueryTutor.Proofs.Text.Spacing

/-!
# Selections of values

A selection without a source is accepted if its list has values only: numbers, strings and the words
that stand for values, with or without aliases.  What is left of the list after strings, aliases and
these words are dropped, one kind after the other, is found item by item, since nothing that is
dropped reaches from one item into another.
-/

namespace QueryTutor.Query
open Text Catalog

variable {t u w rest : List Char} {before : Option Char}

/-! ## Lists -/

/-- The characters that decimal numbers are written with. -/
def figures : List Char :=
  "0123456789.+-".toList

structure Numeral where
  text : List Char
  nonempty : text ≠ []
  numeric : ∀ c ∈ text, c ∈ figures

/-- What stands between the quotes of a string. -/
structure Quotation where
  text : List Char
  unquoted : '\'' ∉ text
  unnested : ∀ c ∈ text, isParenthesis c = false
  sourceless : ¬ NamesWord "from" text

/-- A name that is none of the words. -/
structure Identifier (words : List String) where
  text : List Char
  opens : text.head?.any isNameLetter = true
  solid : ∀ c ∈ text, isWord c = true
  free : ∀ k ∈ words, text ≠ k.toList

inductive Value where
  | number (n : Numeral)
  | string (s : Quotation)
  | word (k : String) (known : k ∈ valueKeywords)
  | name (n : Identifier ("as" :: "from" :: valueKeywords))

/-- A value or a name, with or without an alias. -/
structure Item where
  value : Value
  label : Option (Identifier ["from"])

def Value.text : Value → List Char
  | number n => n.text
  | string s => '\'' :: (s.text ++ ['\''])
  | word k _ => k.toList
  | name n => n.text

def Value.isName : Value → Bool
  | name _ => true
  | _ => false

def Item.isName (i : Item) : Bool :=
  i.value.isName

/-- The alias of an item, behind the word `as`. -/
def Item.aliasText (i : Item) : List Char :=
  match i.label with
  | none => []
  | some a => ' ' :: 'a' :: 's' :: ' ' :: a.text

def Item.text (i : Item) : List Char :=
  i.value.text ++ i.aliasText

/-- The texts of items with commas between them. -/
def commas (f : Item → List Char) (first : Item) (others : List Item) : List Char :=
  f first ++ others.flatMap fun i => ',' :: ' ' :: f i

/-- The selection of the items. -/
def selectList (first : Item) (others : List Item) : List Char :=
  "select ".toList ++ commas Item.text first others

lemma commas_cons (f : Item → List Char) (first i : Item) (others : List Item) :
    commas f first (i :: others) = f first ++ ',' :: ' ' :: commas f i others := by
  rw [commas, commas, List.flatMap_cons, List.cons_append, List.cons_append]

/-- What holds of each item and stays true over a comma holds of the list. -/
lemma commas_induction {P : List Char → Prop} {f : Item → List Char} (item : ∀ i, P (f i))
    (comma : ∀ x y, P x → P y → P (x ++ ',' :: ' ' :: y)) (first : Item) (others : List Item) :
    P (commas f first others) := by
  induction others generalizing first with
  | nil => simpa [commas] using item first
  | cons i others ih =>
    rw [commas_cons]
    exact comma _ _ (item first) (ih i)

/-! ## Item by item -/

/-- The value of an item without its string. -/
def Value.bare : Value → List Char
  | string _ => []
  | v => v.text

/-- What is left of the value of an item in the end. -/
def Value.left : Value → List Char
  | number n => n.text
  | name n => n.text
  | _ => []

/-- What is left of an alias. -/
def Item.gap (i : Item) : List Char :=
  match i.label with
  | none => []
  | some _ => [' ']

/-- A pass over a list makes the second texts of items of the first ones, each for itself. -/
structure Turns (pass : Option Char → List Char → List Char) (f f' : Item → List Char) : Prop where
  item : ∀ i b rest u, b.any isWord = false → rest.head?.any isWord = false →
    (∀ b, pass b rest = u) → pass b (f i ++ rest) = f' i ++ u
  comma : ∀ rest u, pass (some ' ') rest = u →
    ∀ b, pass b (',' :: ' ' :: rest) = ',' :: ' ' :: u
  nil : ∀ b, pass b [] = []

lemma Turns.commas {pass : Option Char → List Char → List Char} {f f' : Item → List Char}
    (h : Turns pass f f') (first : Item) (others : List Item) {b : Option Char}
    (hb : b.any isWord = false) :
    pass b (commas f first others) = Query.commas f' first others := by
  induction others generalizing b first with
  | nil =>
    have hlast := h.item first b [] [] hb rfl h.nil
    simpa [Query.commas] using hlast
  | cons i others ih =>
    rw [commas_cons, commas_cons]
    -- the next item is read from behind the space, whatever the first one ends with
    exact h.item first b _ _ hb rfl (h.comma _ _ (ih i (by decide)))

lemma Value.string_or_bare (v : Value) : (∃ s, v = string s) ∨ v.text = v.bare := by
  cases v <;> simp [text, bare]

section Characters

lemma word_solid {k : String} (hk : k ∈ valueKeywords) : ∀ c ∈ k.toList, isWord c = true := by
  have hall : ∀ k ∈ valueKeywords, k.toList.all isWord = true := by decide
  exact List.all_eq_true.1 (hall k hk)

lemma Identifier.nonempty {words : List String} (n : Identifier words) : n.text ≠ [] := by
  intro h
  have hopens := n.opens
  rw [h] at hopens
  cases hopens

lemma Numeral.not_mem (n : Numeral) {c : Char} (hc : c ∉ figures) : c ∉ n.text :=
  fun h => hc (n.numeric c h)

variable {p : Char → Prop} (hword : ∀ c, isWord c = true → p c)

include hword

/-- Beside strings, values are made of figures and the characters of words. -/
lemma Value.forall_mem_bare (hfigure : ∀ c ∈ figures, p c) (v : Value) : ∀ c ∈ v.bare, p c := by
  cases v with
  | number n => exact fun c hc => hfigure c (n.numeric c hc)
  | string s => nofun
  | word k hk => exact fun c hc => hword c (word_solid hk c hc)
  | name n => exact fun c hc => hword c (n.solid c hc)

lemma Item.forall_mem_aliasText (hspace : p ' ') (i : Item) : ∀ c ∈ i.aliasText, p c := by
  rw [aliasText]
  cases i.label with
  | none => nofun
  | some a =>
    simp only [List.forall_mem_cons]
    exact ⟨hspace, hword _ (by decide), hword _ (by decide), hspace, fun c hc =>
      hword c (a.solid c hc)⟩

end Characters

lemma ne_of_word {c d : Char} (hd : isWord d = false) (hc : isWord c = true) : c ≠ d := by
  rintro rfl
  rw [hd] at hc
  cases hc

lemma not_parenthesis_of_word {c : Char} (hc : isWord c = true) : isParenthesis c = false :=
  Bool.or_eq_false_iff.2 ⟨beq_eq_false_iff_ne.2 (ne_of_word (by decide) hc),
    beq_eq_false_iff_ne.2 (ne_of_word (by decide) hc)⟩

lemma Value.quote_notMem_bare (v : Value) : '\'' ∉ v.bare := fun h =>
  v.forall_mem_bare (p := (· ≠ '\'')) (fun _ => ne_of_word (by decide))
    (forall_mem_of_all (by decide)) _ h rfl

lemma Item.quote_notMem_aliasText (i : Item) : '\'' ∉ i.aliasText := fun h =>
  i.forall_mem_aliasText (p := (· ≠ '\'')) (fun _ => ne_of_word (by decide)) (by decide) _ h rfl

lemma edge_append (ht : t.head?.any isWord = false) (hrest : rest.head?.any isWord = false) :
    (t ++ rest).head?.any isWord = false := by
  rw [any_head?_append]
  split_ifs <;> assumption

lemma Item.edge (i : Item) :
    i.aliasText.head?.any isWord = false ∧ i.gap.head?.any isWord = false := by
  have hspace : isWord ' ' = false := by decide
  rw [aliasText, gap]
  cases i.label with
  | none => exact ⟨rfl, rfl⟩
  | some a => exact ⟨hspace, hspace⟩

/-! ### Strings -/

lemma Value.dropStrings_text (v : Value) (rest : List Char) :
    dropStrings false (v.text ++ rest) = v.bare ++ dropStrings false rest := by
  obtain ⟨s, rfl⟩ | hbare := v.string_or_bare
  · rw [text, List.cons_append, List.append_assoc]
    exact dropStrings_quoted s.unquoted rest
  · rw [hbare]
    exact dropStrings_append v.quote_notMem_bare rest

lemma turns_dropStrings :
    Turns (fun _ => dropStrings false) Item.text (fun i => i.value.bare ++ i.aliasText) where
  item i b rest u _ _ hrest := by
    have hstring : dropStrings false rest = u := hrest b
    rw [Item.text, List.append_assoc, i.value.dropStrings_text,
      dropStrings_append i.quote_notMem_aliasText, hstring, List.append_assoc]
  comma rest u h _ := by
    rw [← h]
    rfl
  nil _ := rfl

/-! ### Aliases -/

section Aliases

variable (hrest : rest.head?.any isWord = false)
  (hu : ∀ b, dropFound aliasAt? b 0 rest = u)

include hrest hu

lemma Value.dropFound_alias_bare (v : Value) :
    dropFound aliasAt? before 0 (v.bare ++ rest) = v.bare ++ u := by
  have word : ∀ {w : List Char}, (∀ c ∈ w, isWord c = true) → w ≠ "as".toList →
      dropFound aliasAt? before 0 (w ++ rest) = w ++ u := fun hw hne =>
    dropFound_word (fun c hc r => (at?_within hc r).1) hw (aliasAt?_eq_none_of_word hw hne hrest) hu
  cases v with
  | number n =>
    refine dropFound_append (fun c hc b r => aliasAt?_eq_none_of_ne ?_ b r) hu before
    rintro rfl
    exact n.not_mem (by decide) hc
  | string s => exact hu before
  | word k hk =>
    have hne : ∀ k ∈ valueKeywords, k.toList ≠ "as".toList := by decide
    exact word (word_solid hk) (hne k hk)
  | name n => exact word n.solid (n.free "as" (by decide))

lemma Item.dropFound_aliasText (i : Item) (b : Option Char) :
    dropFound aliasAt? b 0 (i.aliasText ++ rest) = i.gap ++ u := by
  rw [aliasText, gap]
  cases i.label with
  | none => exact hu b
  | some a =>
    -- the space before `as` stays, the rest goes
    have hspace := aliasAt?_eq_none_of_ne (c := ' ') (by decide) b
    have hfound := aliasAt?_as a.solid a.nonempty hrest
    have hdrop := dropFound_found (w := 'a' :: 's' :: ' ' :: a.text) (List.cons_ne_nil _ _)
      hfound hu
    rw [List.cons_append, dropFound, hspace]
    exact congrArg _ hdrop

end Aliases

lemma turns_aliases : Turns (fun b => dropFound aliasAt? b 0)
    (fun i => i.value.bare ++ i.aliasText) (fun i => i.value.bare ++ i.gap) where
  item i b rest u _ hrest hu := by
    rw [List.append_assoc, List.append_assoc]
    exact i.value.dropFound_alias_bare (edge_append i.edge.1 hrest)
      (i.dropFound_aliasText hrest hu)
  comma _ _ h := dropFound_comma (aliasAt?_eq_none_of_ne (by decide))
    (aliasAt?_eq_none_of_ne (by decide)) h
  nil _ := rfl

/-! ### Words that stand for values -/

lemma Value.dropFound_value_bare (v : Value) (hb : before.any isWord = false)
    (hrest : rest.head?.any isWord = false) (hu : ∀ b, dropFound valueAt? b 0 rest = u) :
    dropFound valueAt? before 0 (v.bare ++ rest) = v.left ++ u := by
  cases v with
  | number n =>
    refine dropFound_append (fun c hc b r => valueAt?_eq_none_of_ne ?_ b r) hu before
    intro hletter
    have hnone : ∀ c ∈ ['t', 'f', 'n'], c ∉ figures := forall_mem_of_all (by decide)
    exact n.not_mem (hnone c hletter) hc
  | string s => exact hu before
  | word k hk =>
    have hne : ∀ k ∈ valueKeywords, k.toList ≠ [] := by decide
    refine dropFound_found (hne k hk) ?_ hu
    exact (valueAt?_word hb (word_solid hk) hrest).trans (if_pos ⟨k, hk, rfl⟩)
  | name n =>
    refine dropFound_word (fun c hc r => (at?_within hc r).2) n.solid ?_ hu
    refine (valueAt?_word hb n.solid hrest).trans (if_neg ?_)
    rintro ⟨k, hk, heq⟩
    exact n.free k (List.mem_cons_of_mem _ (List.mem_cons_of_mem _ hk)) heq

lemma Item.dropFound_gap (i : Item) (hu : ∀ b, dropFound valueAt? b 0 rest = u)
    (b : Option Char) : dropFound valueAt? b 0 (i.gap ++ rest) = i.gap ++ u := by
  refine dropFound_append (fun c hc b r => valueAt?_eq_none_of_ne ?_ b r) hu b
  rw [gap] at hc
  cases h : i.label with
  | none => simp [h] at hc
  | some a =>
    simp only [h, List.mem_singleton] at hc
    rw [hc]
    decide

lemma turns_values : Turns (fun b => dropFound valueAt? b 0)
    (fun i => i.value.bare ++ i.gap) (fun i => i.value.left ++ i.gap) where
  item i b rest u hb hrest hu := by
    rw [List.append_assoc, List.append_assoc]
    exact i.value.dropFound_value_bare hb (edge_append i.edge.2 hrest) (i.dropFound_gap hu)
  comma _ _ h := dropFound_comma (valueAt?_eq_none_of_ne (by decide))
    (valueAt?_eq_none_of_ne (by decide)) h
  nil _ := rfl

/-! ## What is left -/

lemma Value.any_left (v : Value) : v.left.any isNameLetter = v.isName := by
  cases v with
  | number n =>
    have hnone : ∀ c ∈ figures, isNameLetter c = false := forall_mem_of_all (by decide)
    simpa [left, isName] using fun c hc => hnone c (n.numeric c hc)
  | string s => rfl
  | word k hk => rfl
  | name n =>
    obtain ⟨c, hc, hletter⟩ := (Option.any_eq_true _ _).1 n.opens
    exact List.any_eq_true.2 ⟨c, List.mem_of_mem_head? hc, hletter⟩

lemma Item.any_left (i : Item) : (i.value.left ++ i.gap).any isNameLetter = i.isName := by
  have hgap : i.gap.any isNameLetter = false := by
    rw [gap]
    cases i.label with
    | none => rfl
    | some a => exact (by decide : [' '].any isNameLetter = false)
  rw [List.any_append, hgap, Bool.or_false, Value.any_left, isName]

/-- What is left of a list has the letters of its names, and no others. -/
lemma any_left (first : Item) (others : List Item) :
    (commas (fun i => i.value.left ++ i.gap) first others).any isNameLetter
      = (first :: others).any Item.isName := by
  have hcomma : isNameLetter ',' = false := by decide
  have hspace : isNameLetter ' ' = false := by decide
  induction others generalizing first with
  | nil => simpa [commas] using first.any_left
  | cons i others ih =>
    rw [commas_cons, List.any_append, first.any_left, List.any_cons, List.any_cons, hcomma, hspace,
      Bool.false_or, Bool.false_or, ih, List.any_cons, List.any_cons, List.any_cons]

/-! ## The other rules -/

/-- The text is not empty and has no white space at its ends. -/
structure IsTrimmed (t : List Char) : Prop where
  nonempty : t ≠ []
  start : startsBlank t = false
  last : ∀ c ∈ t.getLast?, isBlank c = false

namespace IsTrimmed

lemma of_solid (hne : t ≠ []) (h : ∀ c ∈ t, isBlank c = false) : IsTrimmed t where
  nonempty := hne
  start := by
    obtain ⟨c, t, rfl⟩ := List.exists_cons_of_ne_nil hne
    exact h c List.mem_cons_self
  last c hc := h c (List.mem_of_getLast? hc)

lemma append (ht : IsTrimmed t) (hu : IsTrimmed u) (m : List Char) : IsTrimmed (t ++ (m ++ u)) where
  nonempty := List.append_ne_nil_of_left_ne_nil ht.nonempty _
  start := by
    obtain ⟨c, t, rfl⟩ := List.exists_cons_of_ne_nil ht.nonempty
    exact ht.start
  last := by
    rw [← List.append_assoc, List.getLast?_append_of_ne_nil _ hu.nonempty]
    exact hu.last

lemma trim (ht : IsTrimmed t) : Text.trim t = t := by
  rw [trim_of_not_startsBlank ht.start, dropTrailing_eq_self_iff.2 ht.last]

end IsTrimmed

lemma Value.isTrimmed (v : Value) : IsTrimmed v.text := by
  have hsolid := v.forall_mem_bare (p := (isBlank · = false)) (fun _ => not_blank_of_word)
    (forall_mem_of_all (by decide))
  cases v with
  | number n => exact .of_solid n.nonempty hsolid
  | string s =>
    have hquote : IsTrimmed ['\''] :=
      .of_solid (List.cons_ne_nil _ _) (forall_mem_of_all (by decide))
    exact hquote.append hquote s.text
  | word k hk =>
    have hne : ∀ k ∈ valueKeywords, k.toList ≠ [] := by decide
    exact .of_solid (hne k hk) hsolid
  | name n => exact .of_solid n.nonempty hsolid

lemma Item.isTrimmed (i : Item) : IsTrimmed i.text := by
  rw [text, aliasText]
  cases i.label with
  | none =>
    rw [List.append_nil]
    exact i.value.isTrimmed
  | some a =>
    have ha : IsTrimmed a.text :=
      .of_solid a.nonempty fun c hc => not_blank_of_word (a.solid c hc)
    exact i.value.isTrimmed.append ha [' ', 'a', 's', ' ']

lemma isTrimmed_commas (first : Item) (others : List Item) :
    IsTrimmed (commas Item.text first others) :=
  commas_induction Item.isTrimmed (fun _ _ hx hy => hx.append hy [',', ' ']) first others

lemma Value.even_count_quote (v : Value) : Even (v.text.count '\'') := by
  obtain ⟨s, rfl⟩ | hbare := v.string_or_bare
  · have htwo : (string s).text.count '\'' = 2 := by
      simp [text, List.count_eq_zero.2 s.unquoted]
    rw [htwo]
    exact ⟨1, rfl⟩
  · rw [hbare, List.count_eq_zero.2 v.quote_notMem_bare]
    exact ⟨0, rfl⟩

lemma Item.even_count_quote (i : Item) : Even (i.text.count '\'') := by
  rw [text, List.count_append, List.count_eq_zero.2 i.quote_notMem_aliasText, Nat.add_zero]
  exact i.value.even_count_quote

/-- The quotes of a list come in pairs. -/
lemma even_count_quote (first : Item) (others : List Item) :
    Even ((commas Item.text first others).count '\'') := by
  refine commas_induction (P := fun t => Even (t.count '\'')) Item.even_count_quote
    (fun x y hx hy => ?_) first others
  simpa using hx.add hy

lemma Item.parentheses_text (i : Item) : parentheses i.text = [] := by
  have hvalue : ∀ c ∈ i.value.text, isParenthesis c = false := by
    obtain ⟨s, hs⟩ | hbare := i.value.string_or_bare
    · rw [hs]
      simpa [Value.text, or_imp, forall_and, isParenthesis] using s.unnested
    · rw [hbare]
      exact i.value.forall_mem_bare (fun _ => not_parenthesis_of_word)
        (forall_mem_of_all (by decide))
  have halias := i.forall_mem_aliasText (p := (isParenthesis · = false))
    (fun _ => not_parenthesis_of_word) (by decide)
  exact List.filter_eq_nil_iff.2 fun c hc =>
    Bool.eq_false_iff.1 (List.forall_mem_append.2 ⟨hvalue, halias⟩ c hc)

lemma parentheses_commas (first : Item) (others : List Item) :
    parentheses (commas Item.text first others) = [] := by
  refine commas_induction (P := fun t => parentheses t = []) Item.parentheses_text
    (fun x y hx hy => ?_) first others
  rw [parentheses] at hx hy ⊢
  rw [List.filter_append, hx]
  exact hy

/-- The word behind which sources stand. -/
lemma isWordKind_from : IsWordKind (· = "from".toList) := by
  rintro w rfl
  exact ⟨by decide, forall_mem_of_all (by decide)⟩

lemma namesWord_apart_iff {s : List Char} (hne : s ≠ []) (hs : ∀ c ∈ s, isWord c = false) :
    NamesWord "from" (t ++ (s ++ u)) ↔ NamesWord "from" t ∨ NamesWord "from" u :=
  hasWhole_apart_iff isWordKind_from hne hs

lemma not_namesWord_of_solid (hw : ∀ c ∈ w, isWord c = true) (hne : w ≠ "from".toList) :
    ¬ NamesWord "from" w :=
  (hasWhole_iff_of_forall hw).not.2 hne

lemma Value.not_namesWord (v : Value) : ¬ NamesWord "from" v.text := by
  cases v with
  | number n =>
    rintro ⟨a, w, b, heq, rfl, -⟩
    have hf : 'f' ∈ n.text := by
      rw [show n.text = _ from heq]
      simp
    exact n.not_mem (by decide) hf
  | string s =>
    have hquote : ∀ c ∈ ['\''], isWord c = false := forall_mem_of_all (by decide)
    have hempty : ¬ NamesWord "from" [] := not_namesWord_of_solid nofun (by decide)
    have hfront := namesWord_apart_iff (t := []) (u := s.text ++ ['\'']) (List.cons_ne_nil _ _)
      hquote
    have hback := namesWord_apart_iff (t := s.text) (u := []) (List.cons_ne_nil _ _) hquote
    rw [List.append_nil] at hback
    change ¬ NamesWord "from" ([] ++ (['\''] ++ (s.text ++ ['\''])))
    rw [hfront, hback]
    simp [hempty, s.sourceless]
  | word k hk =>
    have hne : ∀ k ∈ valueKeywords, k.toList ≠ "from".toList := by decide
    exact not_namesWord_of_solid (word_solid hk) (hne k hk)
  | name n => exact not_namesWord_of_solid n.solid (n.free "from" (by decide))

lemma Item.not_namesWord (i : Item) : ¬ NamesWord "from" i.text := by
  rw [text, aliasText]
  cases i.label with
  | none =>
    rw [List.append_nil]
    exact i.value.not_namesWord
  | some a =>
    have hspace : ∀ c ∈ [' '], isWord c = false := forall_mem_of_all (by decide)
    have has : ¬ NamesWord "from" ['a', 's'] :=
      not_namesWord_of_solid (forall_mem_of_all (by decide)) (by decide)
    have ha : ¬ NamesWord "from" a.text :=
      not_namesWord_of_solid a.solid (a.free "from" List.mem_cons_self)
    change ¬ NamesWord "from" (i.value.text ++ ([' '] ++ (['a', 's'] ++ ([' '] ++ a.text))))
    rw [namesWord_apart_iff (List.cons_ne_nil _ _) hspace,
      namesWord_apart_iff (List.cons_ne_nil _ _) hspace]
    simp [i.value.not_namesWord, has, ha]

lemma not_namesWord_commas (first : Item) (others : List Item) :
    ¬ NamesWord "from" (commas Item.text first others) := by
  refine commas_induction (P := fun t => ¬ NamesWord "from" t) Item.not_namesWord
    (fun x y hx hy => ?_) first others
  have hsigns : ∀ c ∈ [',', ' '], isWord c = false := forall_mem_of_all (by decide)
  have happ := namesWord_apart_iff (t := x) (u := y) (List.cons_ne_nil _ _) hsigns
  exact happ.not.2 (not_or.2 ⟨hx, hy⟩)

/-! ## Decision -/

section Selection

variable (first : Item) (others : List Item)

lemma selectList_eq : selectList first others
    = "select".toList ++ ([' '] ++ commas Item.text first others) := by
  have hsplit : "select ".toList = "select".toList ++ [' '] := by decide
  calc selectList first others = ("select".toList ++ [' ']) ++ commas Item.text first others :=
        congrArg (· ++ commas Item.text first others) hsplit
    _ = _ := List.append_assoc _ _ _

lemma isTrimmed_selectList : IsTrimmed (selectList first others) := by
  have hselect : IsTrimmed "select".toList := .of_solid (by decide) (forall_mem_of_all (by decide))
  rw [selectList_eq]
  exact hselect.append (isTrimmed_commas first others) [' ']

lemma checkParentheses_selectList : checkParentheses 0 (selectList first others) = none := by
  have hselect : parentheses "select".toList = [] := by decide
  have hnone : parentheses (selectList first others) = [] := by
    have hlist := parentheses_commas first others
    rw [parentheses] at hselect hlist ⊢
    rw [selectList_eq, List.filter_append, hselect]
    exact hlist
  rw [checkParentheses_eq_none_iff, hnone]
  exact .nil

lemma even_count_quote_selectList : Even ((selectList first others).count '\'') := by
  have hselect : ("select".toList ++ [' ']).count '\'' = 0 := by decide
  rw [selectList_eq, ← List.append_assoc, List.count_append, hselect, Nat.zero_add]
  exact even_count_quote first others

lemma opensStatement_selectList : opensStatement (selectList first others) = true := by
  refine opensStatement_iff.2 ⟨"select", by decide, _, selectList_eq first others, ?_⟩
  exact (by decide : isWord ' ' = false)

lemma namesSource_selectList : namesSource (selectList first others) = false := by
  have hspace : ∀ c ∈ [' '], isWord c = false := forall_mem_of_all (by decide)
  have hselect : ¬ NamesWord "from" "select".toList :=
    not_namesWord_of_solid (forall_mem_of_all (by decide)) (by decide)
  rw [← Bool.not_eq_true, namesSource_iff, selectList_eq,
    namesWord_apart_iff (List.cons_ne_nil _ _) hspace]
  exact not_or.2 ⟨hselect, not_namesWord_commas first others⟩

/-- The list has values only if none of its items is a name. -/
lemma listsValues_selectList :
    listsValues (selectList first others) = !(first :: others).any Item.isName := by
  have hlist := isTrimmed_commas first others
  have hdrop : (selectList first others).drop 6 = ' ' :: commas Item.text first others := by
    rw [selectList_eq]
    rfl
  have htrim : trim (' ' :: commas Item.text first others) = commas Item.text first others := by
    rw [trim_eq, trimLeft_cons (by decide), ← trim_eq, hlist.trim]
  have hne : (commas Item.text first others).isEmpty = false := by
    simpa using hlist.nonempty
  have hstrings := turns_dropStrings.commas (b := none) first others rfl
  have haliases := turns_aliases.commas (b := none) first others rfl
  have hvalues := turns_values.commas (b := none) first others rfl
  rw [listsValues, hdrop, htrim, hne, hstrings, haliases, hvalues, any_left]
  rfl

/-- A selection without a source is accepted if its list has numbers, strings and words that stand
for values only, and turned away for its missing source if some item is a name. -/
theorem precheck_selectList :
    precheck none (selectList first others)
      = if (first :: others).any Item.isName then some .noSource else none := by
  have htrimmed := isTrimmed_selectList first others
  have hne : (selectList first others).isEmpty = false := by
    simpa using htrimmed.nonempty
  have hquotes : (selectList first others).count '\'' % 2 = 0 :=
    Nat.even_iff.1 (even_count_quote_selectList first others)
  have hfront : hasFront (· == ·) "select".toList (selectList first others) = true :=
    hasFront_iff.2 ⟨_, (selectList_eq first others).symm⟩
  rw [precheck, htrimmed.trim, hne, if_neg Bool.false_ne_true, Option.filter_none]
  simp only [checkParentheses_selectList, hquotes, opensStatement_selectList, hfront,
    namesSource_selectList, listsValues_selectList]
  cases (first :: others).any Item.isName <;> rfl

end Selection

end QueryTutor.Query
