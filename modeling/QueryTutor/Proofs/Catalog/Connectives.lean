import QueryTutor.Proofs.Catalog.WholeWord

/-!
# Mixed connectives

A condition that mixes `and` and `or` outside brackets is detected, whichever of them comes first
and however many there are.  Each of two patterns goes from a word `where` up to the first of one
connective, and from there to the other.
-/

namespace QueryTutor.Catalog
open Pattern Text Mistake

/-! ## Words at places -/

/-- A whole piece of the kind goes from one place of the text to the other, and no word goes on
before or behind it. -/
def Spans (P : List Char → Prop) (x : List Char) (i j : Nat) : Prop :=
  ∃ u w v, x = u ++ (w ++ v) ∧ i = u.length ∧ j = (u ++ w).length ∧ P w ∧
    u.getLast?.any isWord = false ∧ v.head?.any isWord = false

/-- A whole piece of the kind begins at the place. -/
def StandsAt (P : List Char → Prop) (x : List Char) (i : Nat) : Prop :=
  ∃ j, Spans P x i j

/-- What reads as the word has no characters but those of words. -/
def IsSolid (word : String) : Prop :=
  ∀ w, Reads word w → ∀ c ∈ w, isWord c = true

lemma isSolid_of_firm {word : String} (cs : List Char) (h : word.toList = cs.map Fold.key)
    (hcs : cs.all isFirm = true) : IsSolid word := by
  intro w hw
  have hmet : MetBy cs w := (metBy_iff_reads h).2 hw
  clear hw h
  induction hmet with
  | nil => exact nofun
  | @cons c d cs w hcd _ ih =>
    obtain ⟨hc, hcs⟩ := Bool.and_eq_true_iff.1 hcs
    exact List.forall_mem_cons.2 ⟨isWord_of_meets hc hcd, ih hcs⟩

lemma isSolid_where : IsSolid "where" :=
  isSolid_of_firm ['w', 'h', 'e', 'r', 'e'] (by decide) (by decide)

namespace Spans

variable {P Q : List Char → Prop} {word other : String} {x : List Char} {i j k l : Nat}

lemma le (h : Spans P x i j) : i ≤ j ∧ j ≤ x.length := by
  obtain ⟨u, w, v, rfl, rfl, rfl, -⟩ := h
  simp only [List.length_append]
  omega

/-- No word stands right before a whole piece. -/
lemma not_word_before (h : Spans P x (i + 1) j) {c : Char} (hc : x[i]? = some c) :
    isWord c = false := by
  obtain ⟨u, w, v, rfl, hi, rfl, -, hu, -⟩ := h
  rw [List.getElem?_append_left (by omega)] at hc
  rw [List.getLast?_eq_getElem?, ← hi, Nat.add_sub_cancel, hc] at hu
  exact hu

/-- No word stands right behind a whole piece. -/
lemma not_word_behind (h : Spans P x i j) {c : Char} (hc : x[j]? = some c) :
    isWord c = false := by
  obtain ⟨u, w, v, rfl, rfl, rfl, -, -, hv⟩ := h
  rw [← List.append_assoc, List.getElem?_append_right le_rfl, Nat.sub_self,
    ← List.head?_eq_getElem?] at hc
  rw [hc] at hv
  exact hv

/-- Within a word there are no characters but those of words. -/
lemma word_within (hword : IsSolid word) (h : Spans (Reads word) x i j) {k : Nat} (hik : i ≤ k)
    (hkj : k < j) : ∃ c, x[k]? = some c ∧ isWord c = true := by
  obtain ⟨u, w, v, rfl, rfl, rfl, hw, -, -⟩ := h
  rw [List.length_append] at hkj
  have hlt : k - u.length < w.length := by omega
  refine ⟨w[k - u.length], ?_, hword w hw _ (List.getElem_mem hlt)⟩
  rw [List.getElem?_append_right hik, List.getElem?_append_left hlt, List.getElem?_eq_getElem hlt]

/-- A whole piece that begins behind the beginning of a word begins behind its end. -/
lemma le_of_lt (hword : IsSolid word) (h : Spans (Reads word) x i j) (h' : Spans P x k l)
    (hik : i < k) : j ≤ k := by
  by_contra hkj
  obtain ⟨k, rfl⟩ : ∃ n, k = n + 1 := ⟨k - 1, by omega⟩
  obtain ⟨c, hc, hin⟩ := h.word_within hword (k := k) (by omega) (by omega)
  rw [h'.not_word_before hc] at hin
  cases hin

/-- Two whole words that begin at one place are the same. -/
lemma word_unique (hword : IsSolid word) (hother : IsSolid other) (h : Spans (Reads word) x i j)
    (h' : Spans (Reads other) x i l) : word = other := by
  have le : ∀ {a b : String} {m n : Nat}, IsSolid b → Spans (Reads a) x i m →
      Spans (Reads b) x i n → n ≤ m := by
    intro a b m n hb ha hspan
    by_contra hlt
    obtain ⟨c, hc, hin⟩ := hspan.word_within hb ha.le.1 (by omega : m < n)
    rw [ha.not_word_behind hc] at hin
    cases hin
  obtain rfl := Nat.le_antisymm (le hword h' h) (le hother h h')
  obtain ⟨u, w, v, rfl, rfl, rfl, hw, -, -⟩ := h
  obtain ⟨u', w', v', hx, hu, hlen, hw', -, -⟩ := h'
  obtain ⟨rfl, hrest⟩ := List.append_inj hx hu
  rw [List.length_append, List.length_append, Nat.add_left_cancel_iff] at hlen
  obtain ⟨rfl, -⟩ := List.append_inj hrest hlen
  exact String.toList_inj.1 (hw.symm.trans hw')

lemma or_iff : Spans (fun w => P w ∨ Q w) x i j ↔ Spans P x i j ∨ Spans Q x i j := by
  constructor
  · rintro ⟨u, w, v, hx, hi, hj, hP | hQ, hends⟩
    · exact .inl ⟨u, w, v, hx, hi, hj, hP, hends⟩
    · exact .inr ⟨u, w, v, hx, hi, hj, hQ, hends⟩
  · rintro (⟨u, w, v, hx, hi, hj, hP, hends⟩ | ⟨u, w, v, hx, hi, hj, hQ, hends⟩)
    · exact ⟨u, w, v, hx, hi, hj, .inl hP, hends⟩
    · exact ⟨u, w, v, hx, hi, hj, .inr hQ, hends⟩

end Spans

lemma standsAt_or_iff {P Q : List Char → Prop} {x : List Char} {i : Nat} :
    StandsAt (fun w => P w ∨ Q w) x i ↔ StandsAt P x i ∨ StandsAt Q x i := by
  simp only [StandsAt, Spans.or_iff, exists_or]

/-! ## Ways without -/

/-- What is not to be met stands nowhere from the one place up to the other. -/
def Clear (S : Nat → Prop) (i j : Nat) : Prop :=
  i ≤ j ∧ ∀ k, i ≤ k → k < j → ¬ S k

namespace Clear

variable {S T : Nat → Prop} {i j k : Nat}

lemma trans (h : Clear S i j) (h' : Clear S j k) : Clear S i k := by
  refine ⟨h.1.trans h'.1, fun n hin hnk => ?_⟩
  obtain hnj | hjn := Nat.lt_or_ge n j
  · exact h.2 n hin hnj
  · exact h'.2 n hjn hnk

/-- A way without is one from anywhere on it to anywhere on it. -/
lemma within (h : Clear S i k) {i' k' : Nat} (hi : i ≤ i') (hle : i' ≤ k') (hk : k' ≤ k) :
    Clear S i' k' :=
  ⟨hle, fun n hn hlt => h.2 n (hi.trans hn) (Nat.lt_of_lt_of_le hlt hk)⟩

lemma imp (hTS : ∀ k, T k → S k) (h : Clear S i j) : Clear T i j :=
  ⟨h.1, fun k hik hkj hT => h.2 k hik hkj (hTS k hT)⟩

/-- On a way without the one to the other, there is a way to the first of the other. -/
lemma exists_first (h : Clear S i k) (hk : T k) : ∃ j, Clear S i j ∧ Clear T i j ∧ T j := by
  classical
  have hsome : ∃ j, i ≤ j ∧ T j := ⟨k, h.1, hk⟩
  obtain ⟨hle, hT⟩ := Nat.find_spec hsome
  refine ⟨Nat.find hsome, h.within le_rfl hle (Nat.find_min' hsome ⟨h.1, hk⟩), ⟨hle, ?_⟩, hT⟩
  exact fun n hin hlt hTn => Nat.find_min hsome hlt ⟨hin, hTn⟩

end Clear

/-! ## Conditions -/

/-- A bracket or a semicolon stands at the place. -/
def ClosesAt (x : List Char) (i : Nat) : Prop :=
  ∃ c, x[i]? = some c ∧ (c = '(' ∨ c = ')' ∨ c = ';')

/-- The condition in the text ends at the place, at a bracket, a semicolon or a word `where`. -/
def EndsAt (x : List Char) (i : Nat) : Prop :=
  ClosesAt x i ∨ StandsAt (Reads "where") x i

/-- The condition that begins at the place has the whole word in it. -/
def Holds (word : String) (x : List Char) (i : Nat) : Prop :=
  ∃ j, Clear (EndsAt x) i j ∧ StandsAt (Reads word) x j

/-- A condition behind a word `where` has both connectives in it. -/
def MixesConnectives (x : List Char) : Prop :=
  ∃ i j, Spans (Reads "where") x i j ∧ Holds "and" x j ∧ Holds "or" x j

/-- Words do not end the condition that they stand in. -/
lemma Spans.clear {word : String} (hword : IsSolid word) (hne : word ≠ "where") {x : List Char}
    {i j : Nat} (h : Spans (Reads word) x i j) : Clear (EndsAt x) i j := by
  have hsigns : ∀ c, c = '(' ∨ c = ')' ∨ c = ';' → isWord c = false := by
    rintro c (rfl | rfl | rfl) <;> decide
  refine ⟨h.le.1, fun k hik hkj => ?_⟩
  rintro (⟨c, hc, hsign⟩ | ⟨l, hwhere⟩)
  · obtain ⟨d, hd, hin⟩ := h.word_within hword hik hkj
    obtain rfl := Option.some.inj (hc.symm.trans hd)
    rw [hsigns c hsign] at hin
    cases hin
  · obtain rfl | hlt := Nat.eq_or_lt_of_le hik
    · exact hne (h.word_unique hword isSolid_where hwhere)
    · exact absurd (h.le_of_lt hword hwhere hlt) (by omega)

/-! ## Patterns -/

/-- Patterns between edges of words. -/
def whole (body : List Pattern) : List Pattern :=
  edge :: (body ++ [edge])

/-- Characters that end no condition, up to where the pattern is met. -/
def condition (greed : Greed) (p : Pattern) : Pattern :=
  many greed 0 none (seq (ahead false p) (set true [.range 40 40, .range 41 41, .range 59 59]))

/-- The letters `WHERE`. -/
def whereLetters : List Pattern :=
  ['W', 'H', 'E', 'R', 'E'].map char

/-- The pattern of conditions with two connectives, the first of which is the first in them. -/
def mixed (first second : List Char) : Pattern :=
  ofList (whole whereLetters
    ++ condition .greedy (ofList (whole [alt (ofList (first.map char)) (ofList whereLetters)]))
      :: (whole (first.map char)
    ++ condition .lazy (ofList (whole whereLetters)) :: whole (second.map char)))

/-- From the place, characters that end no condition lead to the first piece of the one kind, and
from there to one of the other. -/
def Leads (P Q : List Char → Prop) (x : List Char) (i : Nat) : Prop :=
  ∃ j k, Clear (fun n => (StandsAt P x n ∨ StandsAt (Reads "where") x n) ∨ ClosesAt x n) i j ∧
    Spans P x j k ∧
    ∃ l, Clear (fun n => StandsAt (Reads "where") x n ∨ ClosesAt x n) k l ∧ StandsAt Q x l

section Meetings

variable {body body' : List Pattern} {P Q : List Char → Prop} {x : List Char} {i : Nat}

/-- One of two lists of patterns is met by the pieces of either kind. -/
lemma Describes.or (h : Describes body P) (h' : Describes body' Q) :
    Describes [alt (ofList body) (ofList body')] (fun w => P w ∨ Q w) where
  groupless := by
    rw [List.forall_mem_singleton]
    exact Bool.and_eq_true_iff.2 ⟨groupless_ofList h.groupless, groupless_ofList h'.groupless⟩
  piece u w v := or_congr (h.piece u w v) (h'.piece u w v)
  ends w hw := hw.elim (h.ends w) (h'.ends w)

/-- Between edges of words, the patterns are met along the whole pieces. -/
lemma Describes.meets_whole_iff (h : Describes body P) (hi : i ≤ x.length) {t : Spot} :
    (ofList (whole body)).Meets detectionMode (spotAt x i) t ↔
      ∃ j, Spans P x i j ∧ t = spotAt x j := by
  have hg : (ofList (whole body)).groupless = true := by
    apply groupless_ofList
    simp only [whole, List.forall_mem_cons, List.forall_mem_append, List.not_mem_nil, false_imp_iff,
      implies_true, and_true]
    exact ⟨rfl, h.groupless, rfl⟩
  constructor
  · intro ht
    obtain ⟨w, hw⟩ := ht.apart
    obtain ⟨v, hv, rfl⟩ := eq_between_of_apart hw (ht.groups_eq hg)
    have hx : x = x.take i ++ (w ++ v) := by rw [← hv, List.take_append_drop]
    have hlen : i = (x.take i).length := by rw [List.length_take, Nat.min_eq_left hi]
    have hpiece : (ofList (whole body)).MeetsPiece (x.take i) w v := by rwa [MeetsPiece, ← hv]
    obtain ⟨hP, hu, hv⟩ := h.meetsPiece_whole.1 hpiece
    refine ⟨_, ⟨x.take i, w, v, hx, hlen, rfl, hP, hu, hv⟩, ?_⟩
    rw [← spotAt_append, List.append_assoc, ← hx]
  · rintro ⟨_, ⟨u, w, v, rfl, rfl, rfl, hP, hu, hv⟩, rfl⟩
    rw [spotAt_append, ← List.append_assoc, spotAt_append]
    exact h.meetsPiece_whole.2 ⟨hP, hu, hv⟩

lemma Describes.exists_meets_whole_iff (h : Describes body P) (hi : i ≤ x.length) :
    (∃ t, (ofList (whole body)).Meets detectionMode (spotAt x i) t) ↔ StandsAt P x i := by
  simp only [h.meets_whole_iff hi, StandsAt]
  constructor
  · rintro ⟨_, j, hj, -⟩
    exact ⟨j, hj⟩
  · rintro ⟨j, hj⟩
    exact ⟨_, j, hj, rfl⟩

/-- A whole piece is followed by what is met from its end. -/
lemma Describes.from_whole_iff (h : Describes body P) (hi : i ≤ x.length) (qs : List Pattern) :
    From (whole body ++ qs) x i ↔ ∃ j, Spans P x i j ∧ From qs x j := by
  constructor
  · rintro ⟨t, ht⟩
    obtain ⟨u, hu, ht⟩ := meets_ofList_append.1 ht
    obtain ⟨j, hj, rfl⟩ := (h.meets_whole_iff hi).1 hu
    exact ⟨j, hj, t, ht⟩
  · rintro ⟨j, hj, t, ht⟩
    exact ⟨t, meets_ofList_append.2 ⟨_, (h.meets_whole_iff hi).2 ⟨j, hj, rfl⟩, ht⟩⟩

/-- A character of a condition is any that does not end it. -/
lemma meetsSet_condition {c : Char} :
    detectionMode.meetsSet true [.range 40 40, .range 41 41, .range 59 59] c = true ↔
      ¬ (c = '(' ∨ c = ')' ∨ c = ';') := by
  have hopen := meetsItem_only (c := c) (d := '(') (by decide) (by decide)
  have hclose := meetsItem_only (c := c) (d := ')') (by decide) (by decide)
  have hend := meetsItem_only (c := c) (d := ';') (by decide) (by decide)
  rw [← hopen, ← hclose, ← hend]
  simp [Mode.meetsSet]

/-- The characters of a condition lead to anywhere up to where it ends or the pattern is met. -/
lemma from_condition_iff {greed : Greed} {p : Pattern} {S : Nat → Prop}
    (hp : ∀ k ≤ x.length, (∃ t, p.Meets detectionMode (spotAt x k) t) ↔ S k) (hi : i ≤ x.length)
    (qs : List Pattern) :
    From (condition greed p :: qs) x i ↔
      ∃ j, j ≤ x.length ∧ Clear (fun k => S k ∨ ClosesAt x k) i j ∧ From qs x j := by
  have step : ∀ k t, k ≤ x.length →
      ((seq (ahead false p) (set true [.range 40 40, .range 41 41, .range 59 59])).Meets
          detectionMode (spotAt x k) t ↔
        ¬ (S k ∨ ClosesAt x k) ∧ k < x.length ∧ t = spotAt x (k + 1)) := by
    intro k t hk
    rw [not_or, ← hp k hk]
    constructor
    · rintro ⟨u, ⟨rfl, hlook⟩, ht⟩
      obtain ⟨⟨c, hc, hset⟩, rfl⟩ := (step?_spotAt hk).1 ht
      refine ⟨⟨fun h => absurd (hlook.2 h) Bool.false_ne_true, ?_⟩,
        (List.getElem?_eq_some_iff.1 hc).1, rfl⟩
      rintro ⟨d, hd, hsign⟩
      obtain rfl := Option.some.inj (hc.symm.trans hd)
      exact meetsSet_condition.1 hset hsign
    · rintro ⟨⟨hnone, hopen⟩, hlt, rfl⟩
      refine ⟨_, ⟨rfl, ⟨nofun, fun h => absurd h hnone⟩⟩, (step?_spotAt hk).2 ⟨?_, rfl⟩⟩
      have hc : x[k]? = some x[k] := List.getElem?_eq_getElem hlt
      exact ⟨x[k], hc, meetsSet_condition.2 fun hsign => hopen ⟨x[k], hc, hsign⟩⟩
  rw [condition, from_many step hi]
  refine exists_congr fun j => ⟨?_, ?_⟩
  · rintro ⟨hij, hj, hall, h⟩
    exact ⟨hj, ⟨hij, hall⟩, h⟩
  · rintro ⟨hj, ⟨hij, hall⟩, h⟩
    exact ⟨hij, hj, hall, h⟩

end Meetings

/-- The pattern is met if some word `where` leads to both connectives in this order. -/
lemma occurs_mixed_iff {first second : List Char} {P Q : List Char → Prop} {x : List Char}
    (hfirst : Describes (first.map char) P) (hsecond : Describes (second.map char) Q)
    (hplain : (mixed first second).isPlain = true) :
    (mixed first second).occurs detectionMode x = true ↔
      ∃ i j, Spans (Reads "where") x i j ∧ Leads P Q x j := by
  have hwhere : Describes whereLetters (Reads "where") := .word (by decide) rfl rfl
  have hor : ∀ k ≤ x.length,
      (∃ t, (ofList (whole [alt (ofList (first.map char)) (ofList whereLetters)])).Meets
          detectionMode (spotAt x k) t) ↔
        StandsAt P x k ∨ StandsAt (Reads "where") x k := fun k hk => by
    rw [(hfirst.or hwhere).exists_meets_whole_iff hk, standsAt_or_iff]
  rw [mixed, occurs_ofList_iff hplain, from_anyText (Nat.zero_le _)]
  constructor
  · rintro ⟨i, -, hi, h⟩
    obtain ⟨j, hij, h⟩ := (hwhere.from_whole_iff hi _).1 h
    obtain ⟨k, hk, hjk, h⟩ := (from_condition_iff hor hij.le.2 _).1 h
    obtain ⟨l, hkl, h⟩ := (hfirst.from_whole_iff hk _).1 h
    obtain ⟨m, hm, hlm, h⟩ :=
      (from_condition_iff (fun _ => hwhere.exists_meets_whole_iff) hkl.le.2 _).1 h
    exact ⟨i, j, hij, k, l, hjk, hkl, m, hlm, (hsecond.exists_meets_whole_iff hm).1 h⟩
  · rintro ⟨i, j, hij, k, l, hjk, hkl, m, hlm, n, hmn⟩
    have hk := hkl.le.1.trans hkl.le.2
    have hm := hmn.le.1.trans hmn.le.2
    refine ⟨i, Nat.zero_le i, hij.le.1.trans hij.le.2, (hwhere.from_whole_iff ?_ _).2 ⟨j, hij, ?_⟩⟩
    · exact hij.le.1.trans hij.le.2
    refine (from_condition_iff hor hij.le.2 _).2 ⟨k, hk, hjk, ?_⟩
    refine (hfirst.from_whole_iff hk _).2 ⟨l, hkl, ?_⟩
    refine (from_condition_iff (fun _ => hwhere.exists_meets_whole_iff) hkl.le.2 _).2
      ⟨m, hm, hlm, ?_⟩
    exact (hsecond.exists_meets_whole_iff hm).2 ⟨n, hmn⟩

/-! ## Both orders -/

section Orders

variable {first second : String} {x : List Char} {i j k l : Nat}

/-- Both words stand in a condition that leads from the one to the other. -/
lemma Leads.holds (hfirst : IsSolid first) (hne : first ≠ "where")
    (h : Leads (Reads first) (Reads second) x i) : Holds first x i ∧ Holds second x i := by
  obtain ⟨j, k, hij, hjk, l, hkl, hl⟩ := h
  have upTo : Clear (EndsAt x) i j := hij.imp fun n hn => hn.elim .inr fun h => .inl (.inr h)
  have behind : Clear (EndsAt x) k l := hkl.imp fun _ => Or.symm
  exact ⟨⟨j, upTo, k, hjk⟩, l, (upTo.trans (hjk.clear hfirst hne)).trans behind, hl⟩

/-- A condition leads from the first place of the one word to any later place of the other. -/
lemma leads_of_lt (hfirst : IsSolid first) (hik : Clear (EndsAt x) i k)
    (hnone : Clear (StandsAt (Reads first) x) i k) (hk : StandsAt (Reads first) x k)
    (hil : Clear (EndsAt x) i l) (hl : StandsAt (Reads second) x l) (hkl : k < l) :
    Leads (Reads first) (Reads second) x i := by
  obtain ⟨m, hkm⟩ := hk
  obtain ⟨n, hln⟩ := hl
  refine ⟨k, m, ⟨hik.1, fun p hip hpk => ?_⟩, hkm, l, ?_, n, hln⟩
  · rintro ((hp | hp) | hp)
    · exact hnone.2 p hip hpk hp
    · exact hik.2 p hip hpk (.inr hp)
    · exact hik.2 p hip hpk (.inl hp)
  · have hml : m ≤ l := hkm.le_of_lt hfirst hln hkl
    exact (hil.within (hik.1.trans hkm.le.1) hml le_rfl).imp fun _ => Or.symm

/-- A condition with two words in it leads from the one to the other or back. -/
lemma leads_or_leads (hfirst : IsSolid first) (hsecond : IsSolid second) (hne : first ≠ second)
    (h : Holds first x i) (h' : Holds second x i) :
    Leads (Reads first) (Reads second) x i ∨ Leads (Reads second) (Reads first) x i := by
  obtain ⟨k, hik, hk⟩ := h
  obtain ⟨l, hil, hl⟩ := h'
  obtain ⟨k, hik, hnone, hk⟩ := hik.exists_first hk
  obtain ⟨l, hil, hnone', hl⟩ := hil.exists_first hl
  obtain hlt | rfl | hlt := Nat.lt_trichotomy k l
  · exact .inl (leads_of_lt hfirst hik hnone hk hil hl hlt)
  · obtain ⟨m, hm⟩ := hk
    obtain ⟨n, hn⟩ := hl
    exact absurd (hm.word_unique hfirst hsecond hn) hne
  · exact .inr (leads_of_lt hsecond hil hnone' hl hik hk hlt)

end Orders

lemma patterns_andOrPrecedence {x : List Char} :
    Pattern.anyOccursIn detectionMode x Standard.andOrPrecedence.patterns
      = .ok ((mixed ['A', 'N', 'D'] ['O', 'R']).occurs detectionMode x
        || (mixed ['O', 'R'] ['A', 'N', 'D']).occurs detectionMode x) :=
  anyOccursIn_cons (occursIn_of_parsesTo (by decide) _ _)
    (anyOccursIn_singleton (occursIn_of_parsesTo (by decide) _ _))

lemma isSolid_and : IsSolid "and" :=
  isSolid_of_firm ['a', 'n', 'd'] (by decide) (by decide +kernel)

lemma isSolid_or : IsSolid "or" :=
  isSolid_of_firm ['o', 'r'] (by decide) (by decide +kernel)

/-- One of the patterns is met in the texts with mixed connectives. -/
lemma anyOccursIn_andOrPrecedence_iff {x : List Char} :
    Pattern.anyOccursIn detectionMode x Standard.andOrPrecedence.patterns = .ok true ↔
      MixesConnectives x := by
  have hand : Describes (['A', 'N', 'D'].map char) (Reads "and") := .word (by decide) rfl rfl
  have hor : Describes (['O', 'R'].map char) (Reads "or") := .word (by decide) rfl rfl
  rw [patterns_andOrPrecedence, Except.ok.injEq, Bool.or_eq_true, occurs_mixed_iff hand hor rfl,
    occurs_mixed_iff hor hand rfl]
  constructor
  · rintro (⟨i, j, hij, h⟩ | ⟨i, j, hij, h⟩)
    · exact ⟨i, j, hij, h.holds isSolid_and (by decide)⟩
    · exact ⟨i, j, hij, (h.holds isSolid_or (by decide)).symm⟩
  · rintro ⟨i, j, hij, hboth⟩
    obtain h | h := leads_or_leads isSolid_and isSolid_or (by decide) hboth.1 hboth.2
    · exact .inl ⟨i, j, hij, h⟩
    · exact .inr ⟨i, j, hij, h⟩

/-- Mixed connectives are detected in exactly the texts in which a word `where` is followed, up to
the next bracket, semicolon or word `where`, by both a word `and` and a word `or`. -/
theorem mem_detect_andOrPrecedence_iff (q : List Char) (heuristics : Bool) (enabled : List String) :
    ∃ ms, standard.detect q heuristics enabled = .ok ms ∧
      (Standard.andOrPrecedence ∈ ms ↔ MixesConnectives q) := by
  obtain ⟨ms, hms, hmem⟩ := exists_detect_standard q heuristics enabled
  refine ⟨ms, hms, ?_⟩
  rw [hmem _ (by simp [standard, Standard.all]) rfl, anyOccursIn_andOrPrecedence_iff]

end QueryTutor.Catalog
