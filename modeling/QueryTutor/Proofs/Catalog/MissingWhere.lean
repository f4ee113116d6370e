import QueryTutor.Proofs.Catalog.WholeWord
import QueryTutor.Proofs.Validation.Accepted
import QueryTutor.Proofs.Validation.Solution

/-!
# Missing conditions

A query that deletes or updates rows, and nowhere in its raw text has the word `where`, is never
valid, whatever it is held to.
-/

namespace QueryTutor.Catalog
open Pattern Text

/-- The piece names what is updated, by words, points and quotation marks. -/
def IsTarget (w : List Char) : Prop :=
  1 ≤ w.length ∧ ∀ c ∈ w, isWord c = true ∨ c = '.' ∨ c = '\x22'

/-- The piece is `delete from`. -/
def IsDelete (w : List Char) : Prop :=
  ∃ d b f, w = d ++ (b ++ f) ∧ Spells ['d', 'e', 'l', 'e', 't', 'e'] d ∧ IsSpace b ∧
    Spells ['f', 'r', 'o', 'm'] f

/-- The piece is `update … set`, with one target between. -/
def IsUpdate (w : List Char) : Prop :=
  ∃ k b t b' s, w = k ++ (b ++ (t ++ (b' ++ s))) ∧ Spells ['u', 'p', 'd', 'a', 't', 'e'] k ∧
    IsSpace b ∧ IsTarget t ∧ IsSpace b' ∧ Spells ['s', 'e', 't'] s

/-- The word `WHERE` stands nowhere. -/
def nowhereWhere : Pattern :=
  ahead false (wholeAnywhere (['W', 'H', 'E', 'R', 'E'].map char))

/-- The pattern of a statement with this body and without the word `WHERE`. -/
def withoutWhere (body : List Pattern) : Pattern :=
  ofList [place .lineStart, nowhereWhere, ahead true (wholeAnywhere body), anyText, place .lineEnd]

/-- The words `DELETE FROM`. -/
def deleteBody : List Pattern :=
  ['D', 'E', 'L', 'E', 'T', 'E'].map char ++ (spaces :: ['F', 'R', 'O', 'M'].map char)

/-- The characters of targets: those of words, the point and the quotation mark. -/
def targetItems : List SetItem :=
  [.category .word false, .range 46 46, .range 34 34]

/-- What is updated. -/
def target : Pattern :=
  many .greedy 1 none (set false targetItems)

/-- The words `UPDATE … SET`. -/
def updateBody : List Pattern :=
  ['U', 'P', 'D', 'A', 'T', 'E'].map char
    ++ (spaces :: target :: spaces :: ['S', 'E', 'T'].map char)

/-- The piece is `update … set` in whatever case, with one target between. -/
def ReadsUpdate (w : List Char) : Prop :=
  ∃ k b t b' s, w = k ++ (b ++ (t ++ (b' ++ s))) ∧ Reads "update" k ∧ IsSpace b ∧ IsTarget t ∧
    IsSpace b' ∧ Reads "set" s

lemma describes_where : Describes (['W', 'H', 'E', 'R', 'E'].map char) (Reads "where") :=
  .word (by decide) rfl rfl

lemma describes_delete : Describes deleteBody (ReadsPair "delete" "from") :=
  .pair (by decide) (by decide) rfl rfl

lemma meetsSet_target {c : Char} :
    detectionMode.meetsSet false targetItems c = true ↔
      isWord c = true ∨ c = '.' ∨ c = '\x22' := by
  have hpoint := meetsItem_only (c := c) (d := '.') (by decide) (by decide)
  have hquote := meetsItem_only (c := c) (d := '\x22') (by decide) (by decide)
  have hword : detectionMode.meetsItem c (detectionMode.variants c) (.category .word false)
      = isWord c := by
    rw [Mode.meetsItem, show detectionMode.belongs c .word = isWord c from rfl]
    cases isWord c <;> rfl
  rw [← hpoint, ← hquote, ← hword]
  simp [Mode.meetsSet, targetItems]

lemma meetsPiece_target {u w v : List Char} : target.MeetsPiece u w v ↔ IsTarget w := by
  rw [target, meetsPiece_many (fun _ _ => Iff.rfl)]
  simp only [meetsSet_target]
  rfl

lemma describes_update : Describes updateBody ReadsUpdate where
  groupless := by simp [updateBody, spaces, target, groupless]
  piece u w v := by
    rw [updateBody, meetsPiece_append (groupless_chars _)]
    simp only [meetsPiece_chars, meetsPiece_cons (p := spaces) rfl, meetsPiece_spaces,
      meetsPiece_cons (p := target) rfl, meetsPiece_target]
    constructor
    · rintro ⟨k, _, rfl, hk, b, _, rfl, hb, t, _, rfl, ht, b', s, rfl, hb', hs⟩
      exact ⟨k, b, t, b', s, rfl, (metBy_iff_reads (by decide)).1 hk, hb, ht, hb',
        (metBy_iff_reads (by decide)).1 hs⟩
    · rintro ⟨k, b, t, b', s, rfl, hk, hb, ht, hb', hs⟩
      exact ⟨k, _, rfl, (metBy_iff_reads (by decide)).2 hk, b, _, rfl, hb, t, _, rfl, ht, b', s,
        rfl, hb', (metBy_iff_reads (by decide)).2 hs⟩
  ends w hw := by
    obtain ⟨k, b, t, b', s, rfl, hk, -, -, -, hs⟩ := hw
    have hfirst : MetBy ['U', 'P', 'D', 'A', 'T', 'E'] k := (metBy_iff_reads (by decide)).2 hk
    have hlast : MetBy ['S', 'E', 'T'] s := (metBy_iff_reads (by decide)).2 hs
    refine .append (startsWord_of_metBy rfl hfirst) ?_
    exact endsWord_append b (endsWord_append t (endsWord_append b' (endsWord_of_metBy rfl hlast)))

/-- The pattern of a statement without the word `WHERE` is met by the texts that have such a
statement in them and have the word nowhere. -/
lemma occurs_withoutWhere_iff {body : List Pattern} {P : List Char → Prop} (h : Describes body P)
    (hplain : (withoutWhere body).isPlain = true) {x : List Char} :
    (withoutWhere body).occurs detectionMode x = true ↔
      ¬ HasWhole (Reads "where") x ∧ HasWhole P x := by
  -- both looks are made at the beginning of the text, so that they see all of it
  have hrest : From [anyText, place .lineEnd] x 0 := by
    refine (from_anyText (Nat.zero_le _) _).2 ⟨x.length, Nat.zero_le _, le_rfl, _, ?_, rfl⟩
    simp [spotAt, Spot.isAt, Spot.between]
  rw [withoutWhere, occurs_anchored_iff hplain, nowhereWhere, from_ahead, from_ahead,
    describes_where.meets_wholeAnywhere, h.meets_wholeAnywhere]
  simp [hrest]

/-- A word in small letters of ASCII that none outside ASCII counts as is read where it is spelled.
-/
lemma spells_where_of_reads {w : List Char} (h : Reads "where" w) :
    Spells ['w', 'h', 'e', 'r', 'e'] w := by
  have hmet : MetBy ['w', 'h', 'e', 'r', 'e'] w := (metBy_iff_reads (by decide)).2 h
  exact (map_toLower_of_metBy rfl hmet).trans (by decide)

lemma readsPair_of_isDelete {w : List Char} (h : IsDelete w) : ReadsPair "delete" "from" w := by
  obtain ⟨d, b, f, rfl, hd, hb, hf⟩ := h
  exact ⟨d, b, f, rfl, reads_of_spells (by decide) hd, hb, reads_of_spells (by decide) hf⟩

lemma readsUpdate_of_isUpdate {w : List Char} (h : IsUpdate w) : ReadsUpdate w := by
  obtain ⟨k, b, t, b', s, rfl, hk, hb, ht, hb', hs⟩ := h
  exact ⟨k, b, t, b', s, rfl, reads_of_spells (by decide) hk, hb, ht, hb',
    reads_of_spells (by decide) hs⟩

lemma patterns_missingWhere {x : List Char} :
    Pattern.anyOccursIn detectionMode x Mistake.Standard.missingWhere.patterns
      = .ok ((withoutWhere deleteBody).occurs detectionMode x
        || (withoutWhere updateBody).occurs detectionMode x) :=
  anyOccursIn_cons (occursIn_of_parsesTo (by decide) _ _)
    (anyOccursIn_singleton (occursIn_of_parsesTo (by decide) _ _))

/-- A query that is met by the patterns of missing conditions has a mistake that is critical. -/
lemma missingWhere_mem_detect {x : List Char} {heuristics : Bool} {enabled : List String}
    {ms : List Mistake}
    (hx : Pattern.anyOccursIn detectionMode x Mistake.Standard.missingWhere.patterns = .ok true)
    (h : standard.detect x heuristics enabled = .ok ms) : Mistake.Standard.missingWhere ∈ ms :=
  (Detection.mem_detect_iff (List.mem_cons_of_mem _ List.mem_cons_self) rfl h).2 hx

/-- A query is not valid if its raw text deletes or updates rows and has the word `where` nowhere,
comments included. -/
theorem isValid_eq_false_of_missing_where (rules : Validation.Rules) (raw : String) (e : Exercise)
    (hwhere : ¬ HasWhole (Spells ['w', 'h', 'e', 'r', 'e']) raw.toList)
    (hraw : HasWhole IsDelete raw.toList ∨ HasWhole IsUpdate raw.toList) :
    (validate standard rules.options raw e).isValid = false := by
  have hx : Pattern.anyOccursIn detectionMode raw.toList Mistake.Standard.missingWhere.patterns
      = .ok true := by
    rw [patterns_missingWhere]
    have hnowhere := mt (HasWhole.imp fun _ => spells_where_of_reads) hwhere
    obtain h | h := hraw
    · rw [(occurs_withoutWhere_iff describes_delete rfl).2
        ⟨hnowhere, h.imp fun _ => readsPair_of_isDelete⟩, Bool.true_or]
    · rw [(occurs_withoutWhere_iff describes_update rfl).2
        ⟨hnowhere, h.imp fun _ => readsUpdate_of_isUpdate⟩, Bool.or_true]
  rw [Validation.validate_eq]
  cases Validation.rejection? rules raw.toList with
  | some r => rfl
  | none =>
    dsimp only
    cases hf : Validation.findings standard rules raw.toList e with
    | error x => rfl
    | ok f =>
      obtain ⟨hd, -⟩ := Validation.findings_eq_ok hf
      rw [Bool.eq_false_iff]
      intro hvalid
      obtain ⟨-, hcrit⟩ := (Validation.passes_iff _ _ _).1 hvalid
      exact hcrit _ (missingWhere_mem_detect hx hd) rfl

/-- A text without the first letter of a word has no such word. -/
lemma not_hasWhole {a : Char} {word x : List Char}
    (h : (x.any fun c => c.toLower == a.toLower) = false) :
    ¬ HasWhole (Spells (a :: word)) x := by
  rintro ⟨u, w, v, rfl, hw, -, -⟩
  obtain _ | ⟨c, w⟩ := w
  · cases hw
  · have hc : c ∈ u ++ (c :: w ++ v) := List.mem_append_right _ List.mem_cons_self
    exact List.any_eq_false.1 h c hc (beq_iff_eq.2 (List.cons.inj hw).1)

/-- Deleting all orders is not valid. -/
theorem isValid_delete_orders :
    ¬ HasWhole (Spells ['w', 'h', 'e', 'r', 'e']) "DELETE FROM orders;".toList ∧
      HasWhole IsDelete "DELETE FROM orders;".toList ∧
      (validate standard (Validation.Rules.mk false 70 none).options "DELETE FROM orders;"
        { solution := "DELETE FROM orders" }).isValid = false := by
  have hwhere : ¬ HasWhole (Spells ['w', 'h', 'e', 'r', 'e']) "DELETE FROM orders;".toList :=
    not_hasWhole (by decide +kernel)
  have hdelete : HasWhole IsDelete "DELETE FROM orders;".toList := by
    refine ⟨[], ['D', 'E', 'L', 'E', 'T', 'E', ' ', 'F', 'R', 'O', 'M'],
      [' ', 'o', 'r', 'd', 'e', 'r', 's', ';'], by decide +kernel, ?_, rfl, by decide +kernel⟩
    exact ⟨['D', 'E', 'L', 'E', 'T', 'E'], [' '], ['F', 'R', 'O', 'M'], rfl, rfl,
      ⟨le_rfl, List.forall_mem_singleton.2 (by decide)⟩, rfl⟩
  exact ⟨hwhere, hdelete, isValid_eq_false_of_missing_where _ _ _ hwhere (.inl hdelete)⟩

/-! ## What the search does not see -/

/-- The canonical form is that of a deletion or an update, and has the word `where` nowhere. -/
structure ChangesAll (q : List Char) : Prop where
  changes : "delete from".toList <+: q ∨ "update".toList <+: q
  unconditional : ¬ HasWhole (Spells ['w', 'h', 'e', 'r', 'e']) q

lemma changesAll_of_letterless {q : List Char}
    (hfront : ("delete from".toList.isPrefixOf q || "update".toList.isPrefixOf q) = true)
    (hletter : (q.any fun c => c.toLower == 'w') = false) : ChangesAll q where
  changes := by simpa using hfront
  unconditional := not_hasWhole hletter

/-- A query that changes all rows, and is valid as its own solution by the standard rules. -/
structure PassesUnseen (raw : String) : Prop where
  changesAll : ChangesAll (Query.prepared raw.toList)
  isValid : (validate standard Validation.standardRules.options raw { solution := raw }).isValid
    = true

/-- A query in which nothing is detected is valid as its own solution if it has a feature. -/
lemma isValid_of_misses {raw : String} {q : List Char} (h : Validation.ComesTo raw.toList q)
    (hlength : raw.toList.length ≤ 10000)
    (hcheck : (Query.precheck (some (.whole 10000)) q).isNone = true)
    (hfeatures : (Check.features q).isEmpty = false)
    (hmisses : ∀ l ∈ standardTexts.1, misses raw.toList l = true) :
    (validate standard Validation.standardRules.options raw { solution := raw }).isValid = true := by
  have hflawless : Validation.IsFlawless standard Validation.standardRules raw.toList
      { solution := raw } :=
    ⟨h.accepted hlength hcheck, detect_of_misses hmisses .., rfl, rfl⟩
  have hscore : Validation.scoreOf raw.toList { solution := raw } ⟨[], []⟩
      = if Check.features (Query.prepared raw.toList) = [] then 60 else 100 :=
    Validation.scoreOf_of_same rfl rfl rfl
  rw [h.prepared, if_neg (List.isEmpty_eq_false_iff.1 hfeatures)] at hscore
  rw [Validation.validate_of_isFlawless hflawless, Validation.isValid_iff_of_flawless, hscore]
  decide

lemma passesUnseen_of_misses {raw : String} {x q : List Char} (hraw : raw.toList = x)
    (h : Validation.ComesTo x q) (hlength : x.length ≤ 10000)
    (hcheck : (Query.precheck (some (.whole 10000)) q).isNone = true)
    (hfeatures : (Check.features q).isEmpty = false)
    (hmisses : ∀ l ∈ standardTexts.1, misses x l = true) (hq : ChangesAll q) :
    PassesUnseen raw := by
  subst hraw
  exact ⟨h.prepared.symm ▸ hq, isValid_of_misses h hlength hcheck hfeatures hmisses⟩

/-- The raw query is searched.  So the word `where` in a comment hides that a deletion has no
condition, a comment parts the words of a deletion, and an alias those of an update. -/
theorem passesUnseen_comment_and_alias :
    PassesUnseen "DELETE FROM orders -- where" ∧ PassesUnseen "DELETE /* all */ FROM orders" ∧
      PassesUnseen "UPDATE orders o SET paid = 1" := by
  have hdelete : ChangesAll "delete from orders".toList :=
    changesAll_of_letterless (by decide +kernel) (by decide +kernel)
  have hupdate : ChangesAll "update orders o set paid = 1".toList :=
    changesAll_of_letterless (by decide +kernel) (by decide +kernel)
  refine ⟨?_, ?_, ?_⟩
  · exact passesUnseen_of_misses String.toList_ofList
      (Validation.comesTo_of_scan rfl (by decide +kernel)) (by decide +kernel) (by decide +kernel)
      (by decide +kernel) (by decide +kernel) hdelete
  · exact passesUnseen_of_misses String.toList_ofList
      (Validation.comesTo_of_scan rfl (by decide +kernel)) (by decide +kernel) (by decide +kernel)
      (by decide +kernel) (by decide +kernel) hdelete
  · exact passesUnseen_of_misses String.toList_ofList
      (Validation.comesTo_of_scan rfl (by decide +kernel)) (by decide +kernel) (by decide +kernel)
      (by decide +kernel) (by decide +kernel) hupdate

end QueryTutor.Catalog
