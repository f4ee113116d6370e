import QueryTutor.Analysis.Column
import QueryTutor.Proofs.Text.Phrase

/-!
# A grammar of selections

What a query can select: columns, calls around columns and around the wildcard, with and without
aliases, and wildcards.  A selection has a text, and each of its items is about a column or none.
-/

namespace QueryTutor.Analysis
open Text Phrase

/-! ## Names -/

/-- A character that a name can begin with: a small letter of ASCII or the underscore. -/
def opensName (c : Char) : Bool :=
  c == '_' || c.isLower

/-- A character that a name can go on with. -/
def isNamePart (c : Char) : Bool :=
  opensName c || c.isDigit

/-- Words that are no names, since they have a meaning in a selection or open and join clauses. -/
def reservedWords : List (List Char) :=
  ["as", "by", "distinct", "end", "select", "from", "where", "group", "having", "order", "limit",
    "union", "intersect", "except", "natural", "inner", "left", "right", "full", "cross", "outer",
    "join"].map String.toList

/-- The text is a name. -/
def isName (w : List Char) : Bool :=
  w.head?.any opensName && w.all isNamePart && !reservedWords.contains w

/-- A name of a column, a table, a function or an alias. -/
abbrev Name :=
  { w : List Char // isName w = true }

/-! ## Selections -/

/-- A text behind a qualifier, if there is one. -/
def qualified (qualifier : Option Name) (t : List Char) : List Char :=
  match qualifier with
  | none => t
  | some q => q.1 ++ '.' :: t

/-- A text with `distinct` before it or without. -/
def withDistinct (distinct : Bool) (t : List Char) : List Char :=
  if distinct then ['d', 'i', 's', 't', 'i', 'n', 'c', 't'] ++ ' ' :: t else t

/-- A call of a function with one argument. -/
def callOf (f : Name) (argument : List Char) : List Char :=
  f.1 ++ '(' :: (argument ++ [')'])

/-- A column, or calls around a column or around the wildcard. -/
inductive Term where
  | path (qualifier : Option Name) (column : Name)
  | overAll (f : Name) (distinct : Bool)
  | call (f : Name) (distinct : Bool) (e : Term)

namespace Term

/-- How a term is written. -/
def text : Term → List Char
  | path q c => qualified q c.1
  | overAll f d => callOf f (withDistinct d ['*'])
  | call f d e => callOf f (withDistinct d e.text)

/-- The column inside the calls, or the innermost function if they are around the wildcard. -/
def column : Term → Name
  | path _ c => c
  | overAll f _ => f
  | call _ _ e => e.column

end Term

/-- Another name for what is selected, behind `as` or not. -/
structure Alias where
  behindAs : Bool
  name : Name

/-- How an alias is written, with the space before it. -/
def Alias.text (a : Alias) : List Char :=
  if a.behindAs then ' ' :: 'a' :: 's' :: ' ' :: a.name.1 else ' ' :: a.name.1

/-- One of the things that are selected: all columns, those of a table, or a term. -/
inductive Item where
  | all (qualifier : Option Name)
  | term (e : Term) (alias? : Option Alias)

namespace Item

/-- How an item is written. -/
def text : Item → List Char
  | all q => qualified q ['*']
  | term e a => e.text ++ (a.map Alias.text).getD []

/-- The column that an item is about; wildcards are about none. -/
def column? : Item → Option (List Char)
  | all _ => none
  | term e _ => some e.column.1

end Item

/-- What a query selects: at least one item. -/
structure Selection where
  distinct : Bool
  first : Item
  rest : List Item

namespace Selection

/-- The items of a selection in order. -/
def items (s : Selection) : List Item :=
  s.first :: s.rest

/-- How a selection is written. -/
def text (s : Selection) : List Char :=
  withDistinct s.distinct ([',', ' '].intercalate (s.items.map Item.text))

/-- A query of a selection, where anything may follow the word `from`. -/
def query (s : Selection) (r : List Char) : List Char :=
  ['s', 'e', 'l', 'e', 'c', 't', ' '] ++ s.text ++ [' ', 'f', 'r', 'o', 'm', ' '] ++ r

end Selection

/-! ## Characters of names -/

/-- What a character of a name is to those who look for words, aliases, white space and letters. -/
@[mk_iff]
structure NamePart (c : Char) : Prop where
  isWord : isWord c = true
  isAliasPart : isAliasPart c = true
  isBlank : isBlank c = false
  key : Fold.key c = c

instance (c : Char) : Decidable (NamePart c) :=
  decidable_of_iff' _ (namePart_iff c)

lemma namePart {c : Char} (h : isNamePart c = true) : NamePart c := by
  have hc : c.toNat < 128 := by
    rw [isNamePart, opensName, Bool.or_eq_true, Bool.or_eq_true, beq_iff_eq] at h
    obtain (rfl | h) | h := h
    · decide
    · have hhigh : c.toNat ≤ 122 :=
        UInt32.le_iff_toNat_le.1 (of_decide_eq_true (Bool.and_eq_true_iff.1 h).2)
      omega
    · have hhigh : c.toNat ≤ 57 :=
        UInt32.le_iff_toNat_le.1 (of_decide_eq_true (Bool.and_eq_true_iff.1 h).2)
      omega
  exact forall_ascii (P := fun c => isNamePart c = true → NamePart c) (by decide) hc h

/-- A character that stands between words in a selection. -/
def isMark (c : Char) : Bool :=
  [' ', ',', '.', '*', '(', ')'].contains c

/-- What a mark is to those who look for words and letters. -/
@[mk_iff]
structure Mark (c : Char) : Prop where
  isWord : isWord c = false
  isAliasPart : isAliasPart c = false
  key : Fold.key c = c
  not_isLower : c.isLower = false
  ne_quote : c ≠ '\''

instance (c : Char) : Decidable (Mark c) :=
  decidable_of_iff' _ (mark_iff c)

lemma mark {c : Char} (h : isMark c = true) : Mark c := by
  have hmem := List.contains_iff_mem.1 h
  simp only [List.mem_cons, List.not_mem_nil, or_false] at hmem
  obtain rfl | rfl | rfl | rfl | rfl | rfl := hmem <;> decide

/-- The text has characters of names only. -/
def IsWordly (w : List Char) : Prop :=
  ∀ c ∈ w, isNamePart c = true

/-- The text begins with a mark, if with anything: no word goes on in it. -/
def EndsWord (u : List Char) : Prop :=
  ∀ c ∈ u.head?, isMark c = true

lemma endsWord_nil : EndsWord [] := nofun

lemma endsWord_cons {c : Char} (hc : isMark c = true) (u : List Char) : EndsWord (c :: u) := by
  rintro d ⟨⟩
  exact hc

lemma EndsWord.append {s u : List Char} (hs : EndsWord s) (hu : EndsWord u) : EndsWord (s ++ u) := by
  cases s with
  | nil => exact hu
  | cons c s => exact endsWord_cons (hs c rfl) _

lemma EndsWord.startsWithWord {u : List Char} (hu : EndsWord u) : startsWithWord u = false := by
  cases u with
  | nil => rfl
  | cons c u => exact (mark (hu c rfl)).isWord

/-! ## Names as texts -/

namespace Name

lemma exists_cons (n : Name) : ∃ c r, n.1 = c :: r ∧ opensName c = true := by
  obtain ⟨w, hw⟩ := n
  rw [isName, Bool.and_eq_true, Bool.and_eq_true] at hw
  cases w with
  | nil => cases hw.1.1
  | cons c r => exact ⟨c, r, rfl, hw.1.1⟩

lemma ne_nil (n : Name) : n.1 ≠ [] := by
  obtain ⟨c, r, h, -⟩ := n.exists_cons
  rw [h]
  exact List.cons_ne_nil c r

lemma isWordly (n : Name) : IsWordly n.1 := by
  have hw := n.2
  rw [isName, Bool.and_eq_true, Bool.and_eq_true] at hw
  exact List.all_eq_true.1 hw.1.2

lemma not_mem_reservedWords (n : Name) : n.1 ∉ reservedWords := by
  have hw := n.2
  rw [isName, Bool.and_eq_true, Bool.not_eq_true'] at hw
  exact fun hmem => Bool.false_ne_true (hw.2.symm.trans (List.contains_iff_mem.2 hmem))

lemma ne_of_mem (n : Name) {w : List Char} (h : w ∈ reservedWords) : n.1 ≠ w := by
  rintro rfl
  exact n.not_mem_reservedWords h

end Name

/-! ## Words taken off a text -/

section Words

variable {w u : List Char}

lemma IsWordly.isWord (hw : IsWordly w) : ∀ c ∈ w, isWord c = true :=
  fun c hc => (namePart (hw c hc)).isWord

lemma IsWordly.isAliasPart (hw : IsWordly w) : ∀ c ∈ w, isAliasPart c = true :=
  fun c hc => (namePart (hw c hc)).isAliasPart

lemma IsWordly.isBlank (hw : IsWordly w) : ∀ c ∈ w, Text.isBlank c = false :=
  fun c hc => (namePart (hw c hc)).isBlank

lemma EndsWord.isWord (hu : EndsWord u) : ∀ c ∈ u.head?, Text.isWord c = false :=
  fun c hc => (mark (hu c hc)).isWord

lemma EndsWord.isAliasPart (hu : EndsWord u) : ∀ c ∈ u.head?, Analysis.isAliasPart c = false :=
  fun c hc => (mark (hu c hc)).isAliasPart

/-- The front of a text up to the first character without the property. -/
lemma takeWhile_append_of_head {p : Char → Bool} (hw : ∀ c ∈ w, p c = true)
    (hu : ∀ c ∈ u.head?, p c = false) : (w ++ u).takeWhile p = w := by
  rw [List.takeWhile_append_of_pos hw]
  cases u with
  | nil => rw [List.takeWhile_nil, List.append_nil]
  | cons c u =>
    rw [List.takeWhile_cons_of_neg (Bool.eq_false_iff.1 (hu c rfl)), List.append_nil]

/-- The rest of a text from the first character without the property. -/
lemma dropWhile_append_of_head {p : Char → Bool} (hw : ∀ c ∈ w, p c = true)
    (hu : ∀ c ∈ u.head?, p c = false) : (w ++ u).dropWhile p = u := by
  rw [List.dropWhile_append_of_pos hw]
  cases u with
  | nil => rfl
  | cons c u => exact List.dropWhile_cons_of_neg (Bool.eq_false_iff.1 (hu c rfl))

lemma dropWhile_isBlank_word (hw : IsWordly w) (hne : w ≠ []) (u : List Char) :
    (w ++ u).dropWhile isBlank = w ++ u := by
  obtain ⟨c, w, rfl⟩ := List.exists_cons_of_ne_nil hne
  have hc := (namePart (hw c List.mem_cons_self)).isBlank
  exact List.dropWhile_cons_of_neg (by simp [hc])

/-- The first word of a phrase, taken off a text that begins with a word, is that word, if the phrase
goes on with white space or nothing of a word is left. -/
lemma eq_of_strip? {k p rest : List Char} (hk : k.all Char.isLower = true)
    (hp : (∃ p', p = ' ' :: p') ∨ (p = [] ∧ startsWithWord rest = false)) (hw : IsWordly w)
    (hu : EndsWord u) (h : strip? (k ++ p) (w ++ u) = some rest) : k = w := by
  induction k generalizing w with
  | nil =>
    cases w with
    | nil => rfl
    | cons c w =>
      have hc := namePart (hw c List.mem_cons_self)
      obtain ⟨p', rfl⟩ | ⟨rfl, hrest⟩ := hp
      · obtain ⟨b, r, hbr, hb, -⟩ := strip?_space_eq_some.1 h
        obtain ⟨rfl, -⟩ := List.cons.inj hbr
        exact absurd (hb.symm.trans hc.isBlank) nofun
      · obtain rfl := Option.some.inj h
        exact absurd (hrest.symm.trans hc.isWord) nofun
  | cons a k ih =>
    rw [List.all_cons, Bool.and_eq_true] at hk
    obtain ⟨ha, hk⟩ := hk
    rw [List.cons_append] at h
    obtain ⟨d, r, hdr, -, hkey, hrest⟩ := (strip?_letter_eq_some ha).1 h
    cases w with
    | nil =>
      -- a mark is no letter
      obtain rfl : u = d :: r := hdr
      have hd := mark (hu d rfl)
      rw [hd.key] at hkey
      rw [← hkey, hd.not_isLower] at ha
      cases ha
    | cons c w =>
      obtain ⟨rfl, rfl⟩ := List.cons.inj hdr
      rw [(namePart (hw c List.mem_cons_self)).key] at hkey
      rw [hkey, ih hk (fun d hd => hw d (List.mem_cons_of_mem c hd)) hrest]

/-- A word of small letters is taken off a text that begins with it. -/
lemma strip?_self {k : List Char} (hk : k.all Char.isLower = true) (t : List Char) :
    strip? k (k ++ t) = some t := by
  induction k with
  | nil => rfl
  | cons a k ih =>
    rw [List.all_cons, Bool.and_eq_true] at hk
    obtain ⟨hkey, hblank⟩ := spec_of_isLower hk.1
    exact (strip?_letter_eq_some hk.1).2 ⟨a, k ++ t, rfl, hblank, hkey, ih hk.2⟩

end Words

end QueryTutor.Analysis
