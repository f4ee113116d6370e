import QueryTutor.Analysis.TopLevel
import QueryTutor.Proofs.Analysis.Table
import QueryTutor.Proofs.Text.Occurrence
import QueryTutor.Proofs.Text.SmallWord
import QueryTutor.Query.Canonical

/-!
# References to tables

Each table of a text is named behind one of four words, wherever the word stands: the search takes
no notice of parentheses, so what stands behind the word in a call is a table as well.
-/

namespace QueryTutor.Analysis
open Text Phrase

variable {k : String} {u v w word space name rest t q : List Char}

/-! ## Names and the words before them -/

/-- The words that the name of a table follows. -/
def tableWords : List String :=
  ["from", "join", "into", "update"]

/-- Behind `u` stand one of the table words, white space and the name of a table, which `rest`
follows.  What is locked by `for update` is no table. -/
structure Refers (k : String) (u word space name rest : List Char) : Prop where
  mem : k ∈ tableWords
  word : word.map Fold.key = k.toList
  before : continuesWord u.getLast? = false
  update : k = "update" → followsFor u.reverse = false
  space : space ≠ [] ∧ ∀ c ∈ space, isBlank c = true
  name : tableName? (name ++ rest) = some (name, rest)

lemma tableWord_of_keyword : ∀ keyword ∈ tableKeywords, ∃ k ∈ tableWords,
    keyword.toList = k.toList ++ [' '] ∧ (k = "update" → keyword = "update ") := by
  decide

lemma isLower_of_mem_tableWords : ∀ k ∈ tableWords, ∀ c ∈ k.toList, c.isLower = true := by
  have hall : ∀ k ∈ tableWords, k.toList.all Char.isLower = true := by decide
  exact fun k hk => List.all_eq_true.1 (hall k hk)

lemma isWord_of_isNameHead {c : Char} (h : isNameHead c = true) : isWord c = true := by
  rw [isNameHead, Bool.or_eq_true, beq_iff_eq] at h
  obtain rfl | h := h
  · decide
  · exact isWord_of_isLower_key h

lemma tablePart?_eq_some (h : tablePart? t = some (name, rest)) :
    t = name ++ rest ∧ ∀ c ∈ name, isTablePart c = true := by
  cases t with
  | nil => cases h
  | cons c t =>
    rw [tablePart?] at h
    split_ifs at h with hc
    cases h
    refine ⟨by rw [List.cons_append, List.takeWhile_append_dropWhile], fun d hd => ?_⟩
    obtain rfl | hd := List.mem_cons.1 hd
    · rw [isTablePart, isWord_of_isNameHead hc, Bool.true_or]
    · exact List.mem_takeWhile_imp hd

/-- A name is made of the characters of names, and points. -/
lemma tableName?_eq_some (h : tableName? t = some (name, rest)) :
    t = name ++ rest ∧ ∀ c ∈ name, isTablePart c = true ∨ c = '.' := by
  rw [tableName?, Option.map_eq_some_iff] at h
  obtain ⟨⟨part, r⟩, hpart, h⟩ := h
  obtain ⟨rfl, hchars⟩ := tablePart?_eq_some hpart
  dsimp only at h
  split at h
  case h_2 =>
    cases h
    exact ⟨rfl, fun c hc => .inl (hchars c hc)⟩
  case h_1 r =>
    split at h
    case h_2 =>
      cases h
      exact ⟨rfl, fun c hc => .inl (hchars c hc)⟩
    case h_1 part' rest' hpart' =>
      cases h
      obtain ⟨rfl, hchars'⟩ := tablePart?_eq_some hpart'
      refine ⟨by rw [List.append_assoc, List.cons_append], fun c hc => ?_⟩
      obtain hc | hc := List.mem_append.1 hc
      · exact .inl (hchars c hc)
      · obtain rfl | hc := List.mem_cons.1 hc
        · exact .inr rfl
        · exact .inl (hchars' c hc)

/-- What is named here stands behind one of the table words. -/
lemma exists_refers (h : tableAt? u.reverse t = some (name, rest)) :
    ∃ k word space, t = word ++ (space ++ (name ++ rest)) ∧ Refers k u word space name rest := by
  obtain ⟨hbefore, hfirst⟩ := tableAt?_eq_some.1 h
  obtain ⟨keyword, hkeyword, hhere⟩ := List.exists_of_findSome?_eq_some hfirst
  obtain ⟨k, hk, hsplit, hupdate⟩ := tableWord_of_keyword keyword hkeyword
  split_ifs at hhere with hfor
  obtain ⟨r, hr, hname⟩ := Option.bind_eq_some_iff.1 hhere
  rw [hsplit, strip?, stripBy?_append_phrase] at hr
  obtain ⟨x, hx, hspace⟩ := Option.bind_eq_some_iff.1 hr
  obtain ⟨word, rfl, hword⟩ := (strip?_word_eq_some (isLower_of_mem_tableWords k hk)).1 hx
  obtain ⟨b, y, rfl, hb, hy⟩ := strip?_space_eq_some.1 hspace
  obtain rfl : y.dropWhile isBlank = r := Option.some.inj hy
  obtain ⟨hsplit, -⟩ := tableName?_eq_some hname
  rw [hsplit] at hname
  rw [List.head?_reverse] at hbefore
  refine ⟨k, word, b :: y.takeWhile isBlank, ?_, hk, hword, hbefore, fun hk => ?_,
    ⟨List.cons_ne_nil _ _, ?_⟩, hname⟩
  · rw [List.cons_append, ← hsplit, List.takeWhile_append_dropWhile]
  · simpa [hupdate hk] using hfor
  · exact List.forall_mem_cons.2 ⟨hb, fun c => List.mem_takeWhile_imp⟩

namespace Refers

lemma strip? (h : Refers k u word space name rest) (t : List Char) :
    Phrase.strip? k.toList (word ++ t) = some t :=
  (strip?_word_eq_some (isLower_of_mem_tableWords k h.mem)).2 ⟨word, rfl, h.word⟩

/-- The word stands behind `u` as a whole word. -/
lemma wholeAt? (h : Refers k u word space name rest) :
    (Phrase.wholeAt? k.toList u.getLast? (word ++ (space ++ (name ++ rest)))).isSome = true := by
  obtain ⟨hne, hblank⟩ := h.space
  obtain ⟨b, space, rfl⟩ := List.exists_cons_of_ne_nil hne
  have hword : startsWithWord (b :: space ++ (name ++ rest)) = false :=
    (letterless (hblank b List.mem_cons_self)).isWord
  rw [wholeAt?_eq_some.2 ⟨h.before, h.strip? _, hword⟩]
  rfl

lemma isLower_key (h : Refers k u word space name rest) :
    ∀ c ∈ word, (Fold.key c).isLower = true := by
  intro c hc
  have hkey := List.mem_map_of_mem (f := Fold.key) hc
  rw [h.word] at hkey
  exact isLower_of_mem_tableWords k h.mem _ hkey

lemma word_ne_nil (h : Refers k u word space name rest) : word ≠ [] := by
  rintro rfl
  have hne : ∀ k ∈ tableWords, k.toList ≠ [] := by decide
  exact hne k h.mem h.word.symm

end Refers

/-! ## All references -/

/-- Each table of a text stands behind one of the table words. -/
lemma exists_refers_of_mem {skip : Nat} (h : name ∈ tablesFrom u.reverse skip t) :
    ∃ v k word space rest, t = v ++ (word ++ (space ++ (name ++ rest))) ∧
      Refers k (u ++ v) word space name rest := by
  induction t generalizing u skip with
  | nil =>
    rw [tablesFrom] at h
    cases h
  | cons c t ih =>
    have behind : ∀ {skip}, name ∈ tablesFrom (c :: u.reverse) skip t →
        ∃ v k word space rest, c :: t = v ++ (word ++ (space ++ (name ++ rest))) ∧
          Refers k (u ++ v) word space name rest := by
      intro skip h
      have hreverse : c :: u.reverse = (u ++ [c]).reverse := by simp
      rw [hreverse] at h
      obtain ⟨v, k, word, space, rest, rfl, hrefers⟩ := ih h
      exact ⟨c :: v, k, word, space, rest, rfl, by simpa using hrefers⟩
    cases skip with
    | succ skip =>
      rw [tablesFrom] at h
      exact behind h
    | zero =>
      rw [tablesFrom] at h
      split at h
      case h_1 name' rest hhere =>
        obtain rfl | h := List.mem_cons.1 h
        · obtain ⟨k, word, space, heq, hrefers⟩ := exists_refers hhere
          exact ⟨[], k, word, space, rest, heq, by rwa [List.append_nil]⟩
        · exact behind h
      case h_2 => exact behind h

/-! ## Parentheses -/

/-- The sign is neither white space nor a letter, nor part of a name. -/
structure PartsReferences (c : Char) : Prop where
  isBlank : isBlank c = false
  isLower : (Fold.key c).isLower = false
  isTablePart : isTablePart c = false
  ne_point : c ≠ '.'

lemma partsReferences_parenthesis : PartsReferences '(' :=
  ⟨by decide, by decide, by decide, by decide⟩

lemma Refers.not_mem {c : Char} (h : Refers k u word space name rest) (hc : PartsReferences c) :
    c ∉ word ++ (space ++ name) := by
  rw [List.mem_append, List.mem_append]
  rintro (hmem | hmem | hmem)
  · have := h.isLower_key c hmem
    rw [hc.isLower] at this
    cases this
  · have := h.space.2 c hmem
    rw [hc.isBlank] at this
    cases this
  · obtain ⟨-, hchars⟩ := tableName?_eq_some h.name
    obtain hpart | hpoint := hchars c hmem
    · rw [hc.isTablePart] at hpart
      cases hpart
    · exact hc.ne_point hpoint

/-- A reference ends before the next sign that is no part of one. -/
lemma Refers.exists_rest {c : Char} (h : Refers k u word space name rest) (hc : PartsReferences c)
    (heq : v ++ c :: t = word ++ (space ++ (name ++ rest))) :
    ∃ x, v = word ++ (space ++ (name ++ x)) ∧ rest = x ++ c :: t := by
  have heq : v ++ c :: t = (word ++ (space ++ name)) ++ rest := by simpa using heq
  obtain ⟨x, hx, hrest⟩ | ⟨x, rfl, hrest⟩ := List.append_eq_append_iff.1 heq
  · cases x with
    | nil => exact ⟨[], by simpa using hx.symm, hrest.symm⟩
    | cons d x =>
      obtain ⟨rfl, -⟩ := List.cons.inj hrest
      refine absurd ?_ (h.not_mem hc)
      rw [hx]
      simp
  · exact ⟨x, by simp, hrest⟩

/-- No reference to a table goes on across the sign, and the search goes on behind it whatever has
been found before. -/
lemma exists_tablesFrom_append {c : Char} (hc : PartsReferences c) {skip : Nat}
    (hskip : skip ≤ v.length) : ∃ found, tablesFrom u.reverse skip (v ++ c :: t)
      = found ++ tablesFrom (u ++ v ++ [c]).reverse 0 t := by
  induction v generalizing u skip with
  | nil =>
    obtain rfl : skip = 0 := Nat.le_zero.1 hskip
    refine ⟨[], ?_⟩
    have hhere : tableAt? u.reverse (c :: t) = none := by
      cases h : tableAt? u.reverse (c :: t) with
      | none => rfl
      | some a =>
        obtain ⟨k, word, space, heq, hrefers⟩ := exists_refers h
        obtain ⟨x, hx, -⟩ := hrefers.exists_rest (v := []) hc heq
        have hspace := (List.append_eq_nil_iff.1 (List.append_eq_nil_iff.1 hx.symm).2).1
        exact absurd hspace hrefers.space.1
    rw [List.nil_append, tablesFrom, hhere]
    simp
  | cons d v ih =>
    have behind : ∀ {skip}, skip ≤ v.length → ∃ found,
        tablesFrom (d :: u.reverse) skip (v ++ c :: t)
          = found ++ tablesFrom (u ++ d :: v ++ [c]).reverse 0 t := by
      intro skip hskip
      have := ih (u := u ++ [d]) hskip
      simpa using this
    cases skip with
    | succ skip =>
      rw [List.cons_append, tablesFrom]
      exact behind (Nat.le_of_succ_le_succ hskip)
    | zero =>
      rw [List.cons_append, tablesFrom]
      split
      case h_2 => exact behind (Nat.zero_le _)
      case h_1 name rest hhere =>
        obtain ⟨k, word, space, heq, hrefers⟩ := exists_refers hhere
        obtain ⟨x, -, rfl⟩ := hrefers.exists_rest (v := d :: v) hc heq
        have hlength : (v ++ c :: t).length - (x ++ c :: t).length ≤ v.length := by
          simp only [List.length_append]
          omega
        obtain ⟨found, hfound⟩ := behind hlength
        exact ⟨name :: found, by rw [hfound, List.cons_append]⟩

/-- No table is named at white space. -/
lemma tableAt?_blank (t : List Char) : tableAt? u.reverse (' ' :: t) = none := by
  cases h : tableAt? u.reverse (' ' :: t) with
  | none => rfl
  | some a =>
    obtain ⟨k, word, space, heq, hrefers⟩ := exists_refers h
    obtain ⟨c, word, rfl⟩ := List.exists_cons_of_ne_nil hrefers.word_ne_nil
    obtain ⟨rfl, -⟩ := List.cons.inj heq
    exact absurd (hrefers.isLower_key ' ' List.mem_cons_self) (by decide)

/-- A table that is named before a space is named behind a table word that stands before it. -/
lemma Refers.occurs (h : Refers k (u ++ v) word space name rest)
    (heq : w ++ ' ' :: t = word ++ (space ++ (name ++ rest))) :
    Phrase.occurs k.toList (v ++ w) = true := by
  have hbefore : continuesWord v.getLast? = false := by
    have := h.before
    rw [List.getLast?_append] at this
    cases hlast : v.getLast? with
    | none => rfl
    | some c => rwa [hlast] at this
  obtain ⟨x, rfl, hrest⟩ : ∃ x, w = word ++ x ∧ space ++ (name ++ rest) = x ++ ' ' :: t := by
    obtain ⟨x, hx, hrest⟩ | ⟨x, rfl, hrest⟩ := List.append_eq_append_iff.1 heq
    · cases x with
      | nil => exact ⟨[], by simpa using hx.symm, hrest.symm⟩
      | cons d x =>
        obtain ⟨rfl, -⟩ := List.cons.inj hrest
        exact absurd (h.isLower_key ' ' (by rw [hx]; simp)) (by decide)
    · exact ⟨x, rfl, hrest⟩
  have hword : startsWithWord x = false := by
    cases x with
    | nil => rfl
    | cons d x =>
      obtain ⟨b, space, rfl⟩ := List.exists_cons_of_ne_nil h.space.1
      obtain ⟨rfl, -⟩ := List.cons.inj hrest
      exact (letterless (h.space.2 b List.mem_cons_self)).isWord
  refine occurs_iff.2 ⟨v, word ++ x, rfl, ?_⟩
  rw [wholeAt?_eq_some.2 ⟨hbefore, h.strip? x, hword⟩]
  rfl

/-- Where no table is found, the search goes on. -/
lemma tablesFrom_append_of_none
    (h : ∀ x y, v = x ++ y → y ≠ [] → tableAt? (u ++ x).reverse (y ++ t) = none) :
    tablesFrom u.reverse 0 (v ++ t) = tablesFrom (u ++ v).reverse 0 t := by
  induction v generalizing u with
  | nil => rw [List.append_nil, List.nil_append]
  | cons c v ih =>
    have hhere : tableAt? u.reverse (c :: (v ++ t)) = none := by
      have := h [] (c :: v) rfl (List.cons_ne_nil c v)
      rwa [List.append_nil] at this
    have hlater : tablesFrom (u ++ [c]).reverse 0 (v ++ t)
        = tablesFrom (u ++ [c] ++ v).reverse 0 t := by
      apply ih
      rintro x y rfl hne
      have := h (c :: x) y rfl hne
      rwa [List.append_assoc]
    rw [List.cons_append, tablesFrom, hhere]
    rw [List.reverse_concat, List.append_assoc] at hlater
    exact hlater

/-- Where no table word stands, no table is named before the next space. -/
lemma tablesFrom_wordless (hwords : ∀ k ∈ tableWords, occurs k.toList (v ++ w) = false) :
    tablesFrom (u ++ v).reverse 0 (w ++ ' ' :: t)
      = tablesFrom (u ++ (v ++ w)).reverse 0 (' ' :: t) := by
  rw [← List.append_assoc]
  apply tablesFrom_append_of_none
  rintro x y rfl -
  cases h : tableAt? (u ++ v ++ x).reverse (y ++ ' ' :: t) with
  | none => rfl
  | some a =>
    obtain ⟨k, word, space, heq, hrefers⟩ := exists_refers h
    rw [List.append_assoc u] at hrefers
    have := hrefers.occurs heq
    rw [List.append_assoc, hwords k hrefers.mem] at this
    cases this

lemma startsBlank_of_tableName? {a : List Char × List Char} (h : tableName? t = some a) :
    startsBlank t = false := by
  rw [tableName?, Option.map_eq_some_iff] at h
  obtain ⟨b, hb, -⟩ := h
  cases t with
  | nil => cases hb
  | cons c t =>
    rw [tablePart?] at hb
    split_ifs at hb with hc
    by_contra hblank
    have hblank : isBlank c = true := by simpa [startsBlank] using hblank
    exact absurd (endsName hblank).isNameHead (by simp [hc])

/-- A name behind `from` is that of a table. -/
lemma tableAt?_from (h : tableName? (name ++ rest) = some (name, rest)) (before : List Char) :
    tableAt? (' ' :: before) ("from ".toList ++ (name ++ rest)) = some (name, rest) := by
  have hstrip : strip? "from ".toList ("from ".toList ++ (name ++ rest)) = some (name ++ rest) := by
    have hname : (name ++ rest).dropWhile isBlank = name ++ rest :=
      trimLeft_of_not_startsBlank (startsBlank_of_tableName? h)
    change strip? [] ((name ++ rest).dropWhile isBlank) = _
    rw [hname]
    rfl
  refine tableAt?_eq_some.2 ⟨rfl, ?_⟩
  rw [tableKeywords, List.findSome?_cons, hstrip, Option.bind_some, h]
  rfl

lemma mem_tablesFrom (h : tableAt? u.reverse t = some (name, rest)) :
    name ∈ tablesFrom u.reverse 0 t := by
  cases t with
  | nil =>
    obtain ⟨k, word, space, heq, hrefers⟩ := exists_refers h
    exact absurd (List.append_eq_nil_iff.1 heq.symm).1 hrefers.word_ne_nil
  | cons c t =>
    rw [tablesFrom, h]
    exact List.mem_cons_self

/-- A name behind a `from` in parentheses is that of a table, if no table word stands before the
`from` there. -/
lemma mem_tableNames_parenthesis (hwords : ∀ k ∈ tableWords, occurs k.toList v = false)
    (hname : tableName? (name ++ rest) = some (name, rest)) :
    name ∈ tableNames (u ++ '(' :: (v ++ ' ' :: ("from ".toList ++ (name ++ rest)))) := by
  have hspace : name ∈ tablesFrom (u ++ ['('] ++ v).reverse 0
      (' ' :: ("from ".toList ++ (name ++ rest))) := by
    have hreverse : ' ' :: (u ++ ['('] ++ v).reverse = (u ++ ['('] ++ v ++ [' ']).reverse := by simp
    have hfrom := tableAt?_from hname (u ++ ['('] ++ v).reverse
    rw [tablesFrom, tableAt?_blank]
    rw [hreverse] at hfrom ⊢
    exact mem_tablesFrom hfrom
  have hparenthesis : name ∈ tablesFrom (u ++ ['(']).reverse 0
      (v ++ ' ' :: ("from ".toList ++ (name ++ rest))) := by
    have hskip := tablesFrom_wordless (u := u ++ ['(']) (v := []) (w := v)
      (t := "from ".toList ++ (name ++ rest)) hwords
    rw [List.append_nil, List.nil_append] at hskip
    rwa [hskip]
  obtain ⟨found, hfound⟩ := exists_tablesFrom_append (u := []) (v := u)
    (t := v ++ ' ' :: ("from ".toList ++ (name ++ rest))) partsReferences_parenthesis
    (Nat.zero_le _)
  have hmem : name ∈ tableReferences
      (u ++ '(' :: (v ++ ' ' :: ("from ".toList ++ (name ++ rest)))) := by
    rw [tableReferences, ← List.reverse_nil, hfound]
    exact List.mem_append_right _ hparenthesis
  exact mem_firstSeen_of_mem hmem

/-- The place is outside parentheses and literals. -/
def AtTop (q : List Char) (i : Nat) : Prop :=
  (topLevel q)[i]? = some true

/-- Each table of a text is named behind one of the table words, which is outside parentheses and
literals if all table words of the text are.  What a `from` in parentheses names is a table as well,
if no table word stands before it there. -/
theorem tableNames_at_any_depth (q : List Char) :
    (∀ name ∈ tableNames q, ∃ u k word space rest,
      q = u ++ (word ++ (space ++ (name ++ rest))) ∧ Refers k u word space name rest ∧
      ((∀ v w, q = v ++ w → ∀ k ∈ tableWords, (wholeAt? k.toList v.getLast? w).isSome = true →
          AtTop q v.length) → AtTop q u.length)) ∧
    (∀ u v name rest, q = u ++ '(' :: (v ++ ' ' :: ("from ".toList ++ (name ++ rest))) →
      (∀ k ∈ tableWords, occurs k.toList v = false) →
      tableName? (name ++ rest) = some (name, rest) → name ∈ tableNames q) := by
  refine ⟨fun name hname => ?_, ?_⟩
  · obtain ⟨u, k, word, space, rest, rfl, hrefers⟩ :=
      exists_refers_of_mem (u := []) (mem_of_mem_firstSeenBy hname)
    rw [List.nil_append] at hrefers
    exact ⟨u, k, word, space, rest, rfl, hrefers,
      fun htop => htop u _ rfl k hrefers.mem hrefers.wholeAt?⟩
  · rintro u v name rest rfl hwords hname
    exact mem_tableNames_parenthesis hwords hname

/-- A column in a call, and a table behind a word outside parentheses. -/
theorem tableNames_of_call_and_delete :
    let q := "select extract(year from created_at) from orders".toList
    let q' := "delete from users where id in (1, 2)".toList
    ((∀ k ∈ tableWords, occurs k.toList "year".toList = false) ∧
        tableName? ("created_at".toList ++ ") from orders".toList)
          = some ("created_at".toList, ") from orders".toList) ∧
        "created_at".toList ∈ tableNames q) ∧
      ("users".toList ∈ tableNames q' ∧
        (∀ v w, q' = v ++ w → ∀ k ∈ tableWords, (wholeAt? k.toList v.getLast? w).isSome = true →
          AtTop q' v.length) ∧
        ∃ u k word space rest, q' = u ++ (word ++ (space ++ ("users".toList ++ rest))) ∧
          Refers k u word space "users".toList rest ∧ AtTop q' u.length) := by
  intro q q'
  have hwords : ∀ k ∈ tableWords, occurs k.toList "year".toList = false := by decide
  have hname : tableName? ("created_at".toList ++ ") from orders".toList)
      = some ("created_at".toList, ") from orders".toList) := by decide
  have hsplit : q = "select extract".toList ++ '(' :: ("year".toList ++ ' ' ::
      ("from ".toList ++ ("created_at".toList ++ ") from orders".toList))) := by decide
  have husers : "users".toList ∈ tableNames q' := by decide
  have htop : ∀ v w, q' = v ++ w → ∀ k ∈ tableWords,
      (wholeAt? k.toList v.getLast? w).isSome = true → AtTop q' v.length := by
    have hall : ∀ i < q'.length + 1, ∀ k ∈ tableWords,
        (wholeAt? k.toList (q'.take i).getLast? (q'.drop i)).isSome = true →
          (topLevel q')[i]? = some true := by decide
    intro v w heq k hk hwhole
    clear_value q'
    subst heq
    refine hall v.length (by rw [List.length_append]; omega) k hk ?_
    rwa [List.take_left, List.drop_left]
  obtain ⟨u, k, word, space, rest, heq, hrefers, hplace⟩ :=
    (tableNames_at_any_depth q').1 _ husers
  have hcall := (tableNames_at_any_depth q).2 _ _ _ _ hsplit hwords hname
  exact ⟨⟨hwords, hname, hcall⟩, husers, htop, u, k, word, space, rest, heq, hrefers, hplace htop⟩

/-- A column that a call takes a part from is a table, though no table word outside the parentheses
stands before it. -/
theorem created_at_as_table :
    let q := "select extract(year from created_at) from orders".toList
    Query.canonical q = q ∧ '\'' ∉ q ∧
      occurs "select".toList "year from created_at".toList = false ∧
      "created_at".toList ∈ tableNames q ∧
      ∀ u k word space rest, q = u ++ (word ++ (space ++ ("created_at".toList ++ rest))) →
        Refers k u word space "created_at".toList rest → ¬ AtTop q u.length := by
  intro q
  refine ⟨by decide, by decide, by decide, by decide, ?_⟩
  -- outside the parentheses, a table word stands only behind the column
  have hplace : ∀ i < q.length, (topLevel q)[i]? = some true → ∀ k ∈ tableWords,
      (wholeAt? k.toList (q.take i).getLast? (q.drop i)).isSome = true → 37 ≤ i := by decide
  have hname : ∀ i < q.length, 37 ≤ i → ¬ "created_at".toList <+: q.drop i := by decide
  intro u k word space rest heq hrefers htop
  clear_value q
  have heq' : q = (u ++ (word ++ space)) ++ ("created_at".toList ++ rest) := by simp [heq]
  have hne : "created_at".toList ≠ [] := by decide
  have hlength := List.length_pos_of_ne_nil hne
  have hu : 37 ≤ u.length := by
    refine hplace u.length ?_ htop k hrefers.mem ?_
    · simp only [heq, List.length_append]
      omega
    · rw [heq, List.take_left, List.drop_left]
      exact hrefers.wholeAt?
  refine hname (u ++ (word ++ space)).length ?_ ?_ ?_
  · simp only [heq', List.length_append]
    omega
  · rw [List.length_append]
    omega
  · rw [heq', List.drop_left]
    exact List.prefix_append _ _

end QueryTutor.Analysis
