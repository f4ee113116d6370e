import Mathlib.Data.List.Forall2
import QueryTutor.Proofs.Catalog.Standard
import QueryTutor.Proofs.Pattern.FirstMeeting

/-!
# Whole words

What the detection patterns of words in capitals are met by: the words in whatever case, between the
edges of words, anywhere in a text.
-/

namespace QueryTutor.Catalog
open Pattern Text

/-- A text has a piece of a kind in it, before and behind which no word goes on. -/
def HasWhole (P : List Char → Prop) (x : List Char) : Prop :=
  ∃ u w v, x = u ++ (w ++ v) ∧ P w ∧ u.getLast?.any isWord = false ∧ v.head?.any isWord = false

lemma HasWhole.imp {P Q : List Char → Prop} (hPQ : ∀ w, P w → Q w) {x : List Char}
    (h : HasWhole P x) : HasWhole Q x := by
  obtain ⟨u, w, v, hx, hP, hu, hv⟩ := h
  exact ⟨u, w, v, hx, hPQ w hP, hu, hv⟩

/-- The pieces of the kind are words: not empty, and of the characters of words. -/
def IsWordKind (P : List Char → Prop) : Prop :=
  ∀ w, P w → w ≠ [] ∧ ∀ c ∈ w, isWord c = true

section Words

variable {P : List Char → Prop} {x y : List Char}

/-- What is decided of each character of a list holds of all of them. -/
lemma forall_mem_of_all {p : Char → Prop} [DecidablePred p]
    (h : (x.all fun c => decide (p c)) = true) : ∀ c ∈ x, p c := by
  -- the characters are finitely many, and to decide the conclusion would be to go through all
  simpa using h

lemma any_head?_append (f : Char → Bool) (x y : List Char) :
    (x ++ y).head?.any f = if x = [] then y.head?.any f else x.head?.any f := by
  cases x <;> rfl

lemma any_getLast?_append (f : Char → Bool) (x y : List Char) :
    (x ++ y).getLast?.any f = if y = [] then x.getLast?.any f else y.getLast?.any f := by
  rw [← List.head?_reverse, List.reverse_append, any_head?_append, List.head?_reverse,
    List.head?_reverse]
  simp only [List.reverse_eq_nil_iff]

lemma any_head?_of_append {f : Char → Bool} (h : (x ++ y).head?.any f = false) :
    x.head?.any f = false := by
  cases x with
  | nil => rfl
  | cons c x => exact h

lemma any_getLast?_of_append {f : Char → Bool} (h : (x ++ y).getLast?.any f = false) :
    y.getLast?.any f = false := by
  rw [← List.head?_reverse] at h ⊢
  rw [List.reverse_append] at h
  exact any_head?_of_append h

lemma any_head?_of_forall {f : Char → Bool} (hne : x ≠ []) (h : ∀ c ∈ x, f c = true) :
    x.head?.any f = true := by
  obtain ⟨c, x, rfl⟩ := List.exists_cons_of_ne_nil hne
  exact h c List.mem_cons_self

lemma any_getLast?_of_forall {f : Char → Bool} (hne : x ≠ []) (h : ∀ c ∈ x, f c = true) :
    x.getLast?.any f = true := by
  rw [List.getLast?_eq_getLast_of_ne_nil hne]
  exact h _ (List.getLast_mem hne)

/-- A word stands whole in a text of two parts, between which no word goes on, if it does in one of
them. -/
lemma hasWhole_append_iff (hP : IsWordKind P)
    (hxy : x.getLast?.any isWord = false ∨ y.head?.any isWord = false) :
    HasWhole P (x ++ y) ↔ HasWhole P x ∨ HasWhole P y := by
  constructor
  · rintro ⟨u, w, v, heq, hw, hu, hv⟩
    obtain ⟨hne, hword⟩ := hP w hw
    obtain ⟨a, rfl, hy⟩ | ⟨a, rfl, hwv⟩ := List.append_eq_append_iff.1 heq
    · exact .inr ⟨a, w, v, hy, hw, any_getLast?_of_append hu, hv⟩
    obtain ⟨b, rfl, rfl⟩ | ⟨b, rfl, rfl⟩ := List.append_eq_append_iff.1 hwv
    · exact .inl ⟨u, w, b, rfl, hw, hu, any_head?_of_append hv⟩
    · -- the word begins in the one part and ends in the other
      obtain ⟨ha, hb⟩ := List.forall_mem_append.1 hword
      obtain rfl | hane := eq_or_ne a []
      · exact .inr ⟨[], b, v, rfl, hw, rfl, hv⟩
      obtain rfl | hbne := eq_or_ne b []
      · exact .inl ⟨u, a, [], by simp, by simpa using hw, hu, rfl⟩
      rw [any_getLast?_append, if_neg hane, any_getLast?_of_forall hane ha, any_head?_append,
        if_neg hbne, any_head?_of_forall hbne hb] at hxy
      exact absurd hxy (by decide)
  · rintro (⟨u, w, v, rfl, hw, hu, hv⟩ | ⟨u, w, v, rfl, hw, hu, hv⟩)
    · refine ⟨u, w, v ++ y, by simp, hw, hu, ?_⟩
      obtain ⟨hne, hword⟩ := hP w hw
      rw [any_head?_append]
      split_ifs with hvnil
      · rw [hvnil, List.append_nil, any_getLast?_append, if_neg hne,
          any_getLast?_of_forall hne hword] at hxy
        exact hxy.resolve_left (by decide)
      · exact hv
    · refine ⟨x ++ u, w, v, by simp, hw, ?_, hv⟩
      obtain ⟨hne, hword⟩ := hP w hw
      rw [any_getLast?_append]
      split_ifs with hunil
      · rw [hunil, List.nil_append, any_head?_append, if_neg hne,
          any_head?_of_forall hne hword] at hxy
        exact hxy.resolve_right (by decide)
      · exact hu

/-- In a text of the characters of words, only the text itself stands whole. -/
lemma hasWhole_iff_of_forall (hx : ∀ c ∈ x, isWord c = true) :
    HasWhole P x ↔ P x := by
  constructor
  · rintro ⟨u, w, v, rfl, hw, hu, hv⟩
    simp only [List.forall_mem_append] at hx
    obtain ⟨hxu, -, hxv⟩ := hx
    obtain rfl : u = [] := by
      by_contra hne
      rw [any_getLast?_of_forall hne hxu] at hu
      cases hu
    obtain rfl : v = [] := by
      by_contra hne
      rw [any_head?_of_forall hne hxv] at hv
      cases hv
    simpa using hw
  · exact fun h => ⟨[], x, [], by simp, h, rfl, rfl⟩

/-- In a text without characters of words, no word stands. -/
lemma not_hasWhole_of_forall (hP : IsWordKind P) (hx : ∀ c ∈ x, isWord c = false) :
    ¬ HasWhole P x := by
  rintro ⟨u, w, v, rfl, hw, -, -⟩
  obtain ⟨hne, hword⟩ := hP w hw
  obtain ⟨c, w, rfl⟩ := List.exists_cons_of_ne_nil hne
  have hc := hx c (by simp)
  rw [hword c List.mem_cons_self] at hc
  cases hc

/-- On both sides of what has no characters of words, words stand whole for themselves. -/
lemma hasWhole_apart_iff (hP : IsWordKind P) {s : List Char} (hne : s ≠ [])
    (hs : ∀ c ∈ s, isWord c = false) :
    HasWhole P (x ++ (s ++ y)) ↔ HasWhole P x ∨ HasWhole P y := by
  have hhead : (s ++ y).head?.any isWord = false := by
    obtain ⟨c, s, rfl⟩ := List.exists_cons_of_ne_nil hne
    exact hs c List.mem_cons_self
  have hlast : s.getLast?.any isWord = false := by
    rw [List.getLast?_eq_getLast_of_ne_nil hne]
    exact hs _ (List.getLast_mem hne)
  rw [hasWhole_append_iff hP (.inr hhead), hasWhole_append_iff hP (.inl hlast)]
  exact or_congr_right (or_iff_right (not_hasWhole_of_forall hP hs))

end Words

/-- The piece is the word, with letters of ASCII in any case. -/
def Spells (word w : List Char) : Prop :=
  w.map Char.toLower = word.map Char.toLower

/-- The piece is the word, in whatever case. -/
def Reads (word : String) (w : List Char) : Prop :=
  w.map Fold.key = word.toList

/-- The piece is white space. -/
def IsSpace (w : List Char) : Prop :=
  1 ≤ w.length ∧ ∀ c ∈ w, isBlank c = true

lemma isSpace_singleton : IsSpace [' '] :=
  ⟨le_rfl, List.forall_mem_singleton.2 (by decide)⟩

lemma IsSpace.ne_nil {w : List Char} (hw : IsSpace w) : w ≠ [] :=
  List.ne_nil_of_length_pos hw.1

lemma not_word_of_space {w : List Char} (hw : IsSpace w) : ∀ c ∈ w, isWord c = false :=
  fun c hc => (letterless (hw.2 c hc)).isWord

/-- The piece is two words with white space between them. -/
def ReadsPair (first second : String) (w : List Char) : Prop :=
  ∃ a b c, w = a ++ (b ++ c) ∧ Reads first a ∧ IsSpace b ∧ Reads second c

/-- The piece begins and ends with a word. -/
def WordEnds (w : List Char) : Prop :=
  w.head?.any isWord = true ∧ w.getLast?.any isWord = true

/-! ## Letters -/

/-- Characters that are met one by one. -/
def MetBy (cs w : List Char) : Prop :=
  List.Forall₂ (fun c d => detectionMode.meets c d = true) cs w

/-- The letters of a pattern are met by what reads the same. -/
lemma metBy_iff {cs w : List Char} : MetBy cs w ↔ w.map Fold.key = cs.map Fold.key := by
  have hmeets : ∀ c d, detectionMode.meets c d = true ↔ Fold.key c = Fold.key d := same_iff
  simp only [MetBy, hmeets]
  rw [eq_comm, ← List.forall₂_eq_eq_eq, List.forall₂_map_left_iff, List.forall₂_map_right_iff]

lemma metBy_iff_reads {cs w : List Char} {word : String} (h : word.toList = cs.map Fold.key) :
    MetBy cs w ↔ Reads word w := by
  rw [metBy_iff, Reads, h]

lemma reads_of_spells {cs w : List Char} {word : String} (h : word.toList = cs.map Fold.key)
    (hw : Spells cs w) : Reads word w := by
  have hkey : ∀ l : List Char, l.map Fold.key = (l.map Char.toLower).map Fold.key := by
    intro l
    rw [List.map_map]
    exact List.map_congr_left fun c _ => key_congr (toLower_toLower c).symm
  rw [Reads, h, hkey w, hw, ← hkey]

lemma toLower_eq_of_meets {c d : Char} (hc : standsAlone (Fold.key c) = true)
    (h : detectionMode.meets c d = true) : d.toLower = Fold.key c :=
  toLower_eq_of_key hc ((same_iff c d).1 h).symm

/-- A word of letters that stand alone is met by itself only, in any case. -/
lemma map_toLower_of_metBy {cs w : List Char}
    (hcs : (cs.all fun c => standsAlone (Fold.key c)) = true) (h : MetBy cs w) :
    w.map Char.toLower = cs.map Fold.key := by
  induction h with
  | nil => rfl
  | @cons c d cs w hcd _ ih =>
    rw [List.all_cons, Bool.and_eq_true_iff] at hcs
    obtain ⟨hc, hcs⟩ := hcs
    rw [List.map_cons, List.map_cons, toLower_eq_of_meets hc hcd, ih hcs]

/-- A letter that none outside ASCII counts as the same with. -/
def isFirm (c : Char) : Bool :=
  standsAlone (Fold.key c) && isWord (Fold.key c)

lemma isWord_of_meets {c d : Char} (hc : isFirm c = true) (h : detectionMode.meets c d = true) :
    isWord d = true := by
  obtain ⟨halone, hword⟩ := Bool.and_eq_true_iff.1 hc
  rw [← isWord_congr (toLower_toLower d), toLower_eq_of_meets halone h]
  exact hword

/-- A word that begins with a firm letter is met by what begins with a word. -/
lemma startsWord_of_metBy {cs w : List Char} (hcs : cs.head?.any isFirm = true) (h : MetBy cs w) :
    w.head?.any isWord = true := by
  obtain _ | ⟨hcd, h⟩ := h
  · cases hcs
  · exact isWord_of_meets hcs hcd

/-- A word that ends with a firm letter is met by what ends with a word. -/
lemma endsWord_of_metBy {cs w : List Char} (hcs : cs.getLast?.any isFirm = true) (h : MetBy cs w) :
    w.getLast?.any isWord = true := by
  rw [← List.head?_reverse] at hcs ⊢
  exact startsWord_of_metBy hcs (List.forall₂_reverse_iff.2 h)

lemma WordEnds.append {w v : List Char} (hw : w.head?.any isWord = true)
    (hv : v.getLast?.any isWord = true) : WordEnds (w ++ v) := by
  obtain ⟨c, hc, hwc⟩ := (Option.any_eq_true _ _).1 hw
  obtain ⟨d, hd, hwd⟩ := (Option.any_eq_true _ _).1 hv
  refine ⟨?_, ?_⟩
  · rwa [List.head?_append, hc]
  · rwa [List.getLast?_append, hd]

lemma startsWord_append {w : List Char} (hw : w.head?.any isWord = true) (v : List Char) :
    (w ++ v).head?.any isWord = true := by
  obtain ⟨c, hc, hwc⟩ := (Option.any_eq_true _ _).1 hw
  rwa [List.head?_append, hc]

lemma endsWord_append (w : List Char) {v : List Char} (hv : v.getLast?.any isWord = true) :
    (w ++ v).getLast?.any isWord = true := by
  obtain ⟨d, hd, hwd⟩ := (Option.any_eq_true _ _).1 hv
  rwa [List.getLast?_append, hd]

/-! ## Patterns -/

/-- The edge of a word. -/
def edge : Pattern :=
  place .wordEdge

/-- Any text. -/
def anyText : Pattern :=
  many .greedy 0 none any

/-- White space. -/
def spaces : Pattern :=
  many .greedy 1 none (set false [.category .blank false])

/-- Patterns behind any text, between edges of words. -/
def wholeAnywhere (body : List Pattern) : Pattern :=
  ofList (anyText :: edge :: (body ++ [edge]))

deriving instance DecidableEq for Pattern

/-- The characters are read as the pattern. -/
def parsesTo (l : List Char) (p : Pattern) : Bool :=
  match Pattern.parse l with
  | .ok q => q == p
  | .error _ => false

/-- A source whose characters are read as a pattern occurs where the pattern does. -/
lemma occursIn_of_parsesTo {l : List Char} {p : Pattern} (h : parsesTo l p = true) (m : Mode)
    (x : List Char) : Pattern.occursIn (String.ofList l) m x = .ok (p.occurs m x) := by
  rw [parsesTo] at h
  rw [Pattern.occursIn, String.toList_ofList]
  cases hp : Pattern.parse l with
  | ok q =>
    rw [hp] at h
    rw [← beq_iff_eq.1 h]
    rfl
  | error e =>
    rw [hp] at h
    cases h

lemma anyOccursIn_singleton {source : String} {m : Mode} {x : List Char} {b : Bool}
    (h : Pattern.occursIn source m x = .ok b) : Pattern.anyOccursIn m x [source] = .ok b := by
  rw [Pattern.anyOccursIn, h]
  cases b <;> rfl

lemma anyOccursIn_cons {source : String} {sources : List String} {m : Mode} {x : List Char}
    {b c : Bool} (h : Pattern.occursIn source m x = .ok b)
    (hs : Pattern.anyOccursIn m x sources = .ok c) :
    Pattern.anyOccursIn m x (source :: sources) = .ok (b || c) := by
  rw [Pattern.anyOccursIn, h]
  cases b with
  | false => exact hs
  | true => rfl

/-- A character without letters that stands before them is met by itself only. -/
lemma meetsItem_only {c d : Char} (hd : Letterless d) (hlt : d.toNat < 65) :
    detectionMode.meetsItem c (detectionMode.variants c) (.range d.toNat d.toNat) = true ↔
      c = d := by
  rw [← mem_variants_iff hd hlt, Mode.meetsItem, List.any_eq_true,
    show detectionMode.variants c = Fold.variants c from rfl]
  constructor
  · rintro ⟨n, hn, hle⟩
    simp only [Bool.and_eq_true, decide_eq_true_eq] at hle
    rwa [Nat.le_antisymm hle.1 hle.2]
  · exact fun h => ⟨_, h, by simp⟩

lemma meetsPiece_edge {u w v : List Char} :
    edge.MeetsPiece u w v ↔
      w = [] ∧ (u.getLast?.any isWord != v.head?.any isWord) = true := by
  have hedge : ∀ u v : List Char, (Spot.between u v).isAt detectionMode .wordEdge
      = (u.getLast?.any isWord != v.head?.any isWord) := by
    intro u v
    rw [← List.head?_reverse]
    rfl
  rw [edge, meetsPiece_place, hedge]

lemma meetsPiece_anyText {u w v : List Char} : anyText.MeetsPiece u w v := by
  refine (meetsPiece_many (f := fun _ => true) ?_).2 ⟨Nat.zero_le _, fun _ _ => rfl⟩
  exact fun _ _ => Iff.rfl

lemma meetsPiece_spaces {u w v : List Char} : spaces.MeetsPiece u w v ↔ IsSpace w := by
  have hf : ∀ c, detectionMode.meetsSet false [.category .blank false] c = isBlank c := by
    intro c
    have : detectionMode.meetsSet false [.category .blank false] c
        = ((((isBlank c && true) != false) || false) != false) := rfl
    rw [this]
    cases isBlank c <;> rfl
  rw [spaces, meetsPiece_many (f := isBlank), IsSpace]
  intro s t
  rw [← show (fun c => detectionMode.meetsSet false [.category .blank false] c) = isBlank from
    funext hf]
  exact Iff.rfl

lemma groupless_ofList {ps : List Pattern} (h : ∀ p ∈ ps, p.groupless = true) :
    (ofList ps).groupless = true := by
  induction ps with
  | nil => rfl
  | cons p ps ih =>
    obtain ⟨hp, hps⟩ := List.forall_mem_cons.1 h
    cases ps with
    | nil => exact hp
    | cons q ps => exact Bool.and_eq_true_iff.2 ⟨hp, ih hps⟩

lemma groupless_chars (cs : List Char) : ∀ p ∈ cs.map char, p.groupless = true := by
  simp [groupless]

/-! ## Pieces of a kind -/

/-- The patterns are met by the pieces of a kind, wherever these stand, and the pieces begin and end
with a word. -/
structure Describes (body : List Pattern) (P : List Char → Prop) : Prop where
  groupless : ∀ p ∈ body, p.groupless = true
  piece : ∀ u w v, (ofList body).MeetsPiece u w v ↔ P w
  ends : ∀ w, P w → WordEnds w

namespace Describes

variable {body : List Pattern} {P : List Char → Prop}

/-- The letters of a word are met by the word, in whatever case. -/
lemma word {cs : List Char} {word : String} (h : word.toList = cs.map Fold.key)
    (hfirst : cs.head?.any isFirm = true) (hlast : cs.getLast?.any isFirm = true) :
    Describes (cs.map char) (Reads word) where
  groupless := groupless_chars cs
  piece _ _ _ := meetsPiece_chars.trans (metBy_iff_reads h)
  ends w hw := by
    have hmet : MetBy cs w := (metBy_iff_reads h).2 hw
    exact ⟨startsWord_of_metBy hfirst hmet, endsWord_of_metBy hlast hmet⟩

/-- The letters of two words with white space between them are met by the two words. -/
lemma pair {cs ds : List Char} {first second : String} (hc : first.toList = cs.map Fold.key)
    (hd : second.toList = ds.map Fold.key) (hfirst : cs.head?.any isFirm = true)
    (hlast : ds.getLast?.any isFirm = true) :
    Describes (cs.map char ++ (spaces :: ds.map char)) (ReadsPair first second) where
  groupless := by
    simp only [List.forall_mem_append, List.forall_mem_cons]
    exact ⟨groupless_chars cs, rfl, groupless_chars ds⟩
  piece u w v := by
    rw [meetsPiece_append (groupless_chars cs)]
    simp only [meetsPiece_cons (p := spaces) rfl, meetsPiece_spaces, meetsPiece_chars]
    constructor
    · rintro ⟨a, _, rfl, ha, b, c, rfl, hb, hw⟩
      exact ⟨a, b, c, rfl, (metBy_iff_reads hc).1 ha, hb, (metBy_iff_reads hd).1 hw⟩
    · rintro ⟨a, b, c, rfl, ha, hb, hw⟩
      exact ⟨a, _, rfl, (metBy_iff_reads hc).2 ha, b, c, rfl, hb, (metBy_iff_reads hd).2 hw⟩
  ends w hw := by
    obtain ⟨a, b, c, rfl, ha, -, hw⟩ := hw
    refine .append (startsWord_of_metBy hfirst ((metBy_iff_reads hc).2 ha)) (endsWord_append b ?_)
    exact endsWord_of_metBy hlast ((metBy_iff_reads hd).2 hw)

/-- Between edges of words, the patterns are met by the pieces before and behind which no word goes
on. -/
lemma meetsPiece_whole (h : Describes body P) {u w v : List Char} :
    (ofList (edge :: (body ++ [edge]))).MeetsPiece u w v ↔
      P w ∧ u.getLast?.any isWord = false ∧ v.head?.any isWord = false := by
  rw [meetsPiece_cons rfl]
  constructor
  · rintro ⟨e, w, rfl, he, hw⟩
    obtain ⟨rfl, hu⟩ := meetsPiece_edge.1 he
    obtain ⟨w, e', rfl, hw, he'⟩ := (meetsPiece_append h.groupless).1 hw
    obtain ⟨rfl, hv⟩ := meetsPiece_edge.1 he'
    have hP := (h.piece _ _ _).1 hw
    obtain ⟨hfirst, hlast⟩ := h.ends w hP
    simp only [List.nil_append, List.append_nil] at hu hv ⊢
    rw [startsWord_append hfirst] at hu
    rw [endsWord_append u hlast] at hv
    exact ⟨hP, by simpa using hu, by simpa using hv⟩
  · rintro ⟨hP, hu, hv⟩
    obtain ⟨hfirst, hlast⟩ := h.ends w hP
    refine ⟨[], w, rfl, meetsPiece_edge.2 ⟨rfl, ?_⟩, (meetsPiece_append h.groupless).2 ?_⟩
    · rw [hu, startsWord_append hfirst]
      rfl
    · refine ⟨w, [], (List.append_nil w).symm, (h.piece _ _ _).2 hP, meetsPiece_edge.2 ⟨rfl, ?_⟩⟩
      rw [List.append_nil, endsWord_append u hlast, hv]
      rfl

/-- The patterns are met behind any text, between edges of words, exactly where the text has such a
piece. -/
lemma meets_wholeAnywhere (h : Describes body P) (x : List Char) :
    (∃ t, (wholeAnywhere body).Meets detectionMode (spotAt x 0) t) ↔ HasWhole P x := by
  have hg : (wholeAnywhere body).groupless = true := by
    apply groupless_ofList
    simp only [List.forall_mem_cons, List.forall_mem_append, List.not_mem_nil, false_imp_iff,
      implies_true, and_true]
    exact ⟨rfl, rfl, h.groupless, rfl⟩
  rw [show spotAt x 0 = .between [] x from rfl, exists_meets_iff hg, wholeAnywhere]
  simp only [meetsPiece_cons (p := anyText) rfl, meetsPiece_anyText, true_and, h.meetsPiece_whole]
  constructor
  · rintro ⟨_, v, rfl, u, w, rfl, hP, hu, hv⟩
    exact ⟨u, w, v, List.append_assoc _ _ _, hP, hu, hv⟩
  · rintro ⟨u, w, v, rfl, hP, hu, hv⟩
    exact ⟨u ++ w, v, (List.append_assoc _ _ _).symm, u, w, rfl, hP, hu, hv⟩

end Describes

end QueryTutor.Catalog
