import QueryTutor.Proofs.Query.Length
import QueryTutor.Proofs.Validation.Accepted

/-!
# The limit of length

A query is called too long if its raw text is, and also if its canonical form is, which can be the
longer one of the two.
-/

namespace QueryTutor.Validation
open Text

variable {rules : Rules}

/-- The report turns a query away because it is longer than some limit. -/
def SaysTooLong (r : Report) : Prop :=
  r.wellFormed = false ∧ ∃ i l, r.issue = some i ∧ i.issue = (Query.Rejection.tooLong l).message

/-! ## Messages -/

lemma toList_prefix_append (a b c : String) : a.toList <+: (a ++ b ++ c).toList := by
  rw [String.toList_append, String.toList_append, List.append_assoc]
  exact List.prefix_append _ _

lemma prefix_message (l : Quantity) :
    "Query too long (max ".toList <+: (Query.Rejection.tooLong l).message.toList :=
  toList_prefix_append ..

/-- A report on a query that is turned away says that it is too long for no other reason. -/
lemma saysTooLong_rejection_iff (r : Query.Rejection) (impact : String) :
    SaysTooLong (.rejection r.message impact) ↔ ∃ l, r = .tooLong l := by
  constructor
  · rintro ⟨-, i, l, hi, hmessage⟩
    cases hi
    have hfront : "Query too long (max ".toList <+: r.message.toList := by
      rw [show r.message = (Query.Rejection.tooLong l).message from hmessage]
      exact prefix_message l
    cases r
    case tooLong l => exact ⟨l, rfl⟩
    all_goals exact absurd hfront (by decide)
  · rintro ⟨l, rfl⟩
    exact ⟨rfl, _, l, rfl, rfl⟩

lemma not_saysTooLong_internalError : ¬ SaysTooLong .internalError := by
  rintro ⟨-, i, l, hi, hmessage⟩
  have hfront := prefix_message l
  rw [← hmessage, ← Option.some.inj hi] at hfront
  exact absurd hfront (by decide)

/-! ## Limits -/

/-- A limit that the length of a text is above. -/
lemma lt_whole_iff {l : Quantity} (hl : rules.longest = some l) (n : Nat) :
    l.lt (.whole n) = true ↔ ∃ m, rules.limit = some m ∧ m < n := by
  obtain ⟨m, hm, rfl⟩ := Option.map_eq_some_iff.1 hl
  rw [hm]
  simp [Quantity.lt]

lemma checkLength_tooLong_iff {raw : List Char} :
    (∃ l, Query.checkLength rules.longest raw = some (.tooLong l)) ↔
      ∃ n, rules.limit = some n ∧ isBlankText raw = false ∧ n < raw.length := by
  cases hl : rules.longest with
  | none =>
    have hnone : rules.limit = none := Option.map_eq_none_iff.1 hl
    simp [Query.checkLength, hnone]
  | some l =>
    rw [Query.checkLength]
    split_ifs with hlong
    · rw [Bool.and_eq_true, Bool.not_eq_true', lt_whole_iff hl] at hlong
      obtain ⟨⟨n, hn, hlt⟩, hblank⟩ := hlong
      exact ⟨fun _ => ⟨n, hn, hblank, hlt⟩, fun _ => ⟨l, rfl⟩⟩
    · constructor
      · rintro ⟨l, h⟩
        cases h
      · rintro ⟨n, hn, hblank, hlt⟩
        rw [Bool.and_eq_true, Bool.not_eq_true', lt_whole_iff hl] at hlong
        exact absurd ⟨⟨n, hn, hlt⟩, hblank⟩ hlong

lemma checkLength_eq_none_or (limit : Option Quantity) (raw : List Char) :
    Query.checkLength limit raw = none ∨ ∃ l, Query.checkLength limit raw = some (.tooLong l) := by
  cases limit with
  | none => exact .inl rfl
  | some l =>
    rw [Query.checkLength]
    split_ifs
    · exact .inr ⟨l, rfl⟩
    · exact .inl rfl

lemma checkParentheses_ne (depth : Nat) (t : List Char) (l : Quantity) :
    Query.checkParentheses depth t ≠ some (.tooLong l) := by
  fun_induction Query.checkParentheses depth t <;> first | assumption | nofun

/-- The canonical form is turned away for its length if it has text and is above the limit, since no
rule but the one of empty texts comes before. -/
lemma precheck_tooLong_iff {q : List Char} (hq : trim q = q) :
    (∃ l, Query.precheck rules.longest q = some (.tooLong l)) ↔
      ∃ n, rules.limit = some n ∧ q ≠ [] ∧ n < q.length := by
  unfold Query.precheck
  dsimp only
  rw [hq]
  by_cases hempty : q = []
  · subst hempty
    constructor
    · rintro ⟨l, h⟩
      cases h
    · rintro ⟨n, -, h, -⟩
      exact absurd rfl h
  · rw [if_neg (by simpa using hempty)]
    cases hlong : rules.longest.filter (·.lt (.whole q.length)) with
    | some l =>
      obtain ⟨hl, hlt⟩ := Option.filter_eq_some_iff.1 hlong
      obtain ⟨n, hn, hlt⟩ := (lt_whole_iff hl _).1 hlt
      exact ⟨fun _ => ⟨n, hn, hempty, hlt⟩, fun _ => ⟨l, rfl⟩⟩
    | none =>
      constructor
      · rintro ⟨l, h⟩
        dsimp only at h
        split at h
        case h_1 r hr =>
          rw [Option.some.inj h] at hr
          exact absurd hr (checkParentheses_ne 0 q l)
        case h_2 => split_ifs at h <;> cases h
      · rintro ⟨n, hn, -, hlt⟩
        have hl : rules.longest = some (.whole n) := by rw [Rules.longest, hn, Option.map_some]
        rw [hl, Option.filter_some, if_pos ((lt_whole_iff hl _).2 ⟨n, hn, hlt⟩)] at hlong
        cases hlong

/-- A raw text is too long to be graded exactly if it has text and is above the limit, or its
canonical form is. -/
lemma rejection?_tooLong_iff {raw : List Char} :
    (∃ l, rejection? rules raw = some (.tooLong l)) ↔ ∃ n, rules.limit = some n ∧
      (isBlankText raw = false ∧ n < raw.length
        ∨ Query.prepared raw ≠ [] ∧ n < (Query.prepared raw).length) := by
  have hprepared : trim (Query.prepared raw) = Query.prepared raw := trim_trim _
  simp only [and_or_left, exists_or]
  rw [← checkLength_tooLong_iff, ← precheck_tooLong_iff hprepared, rejection?]
  obtain hnone | ⟨l, hl⟩ := checkLength_eq_none_or rules.longest raw
  · rw [hnone]
    simp
  · rw [hl]
    simp

lemma saysTooLong_validate (c : Catalog) (rules : Rules) (raw : String) (e : Exercise) :
    SaysTooLong (validate c rules.options raw e) ↔
      ∃ l, rejection? rules raw.toList = some (.tooLong l) := by
  rw [validate_eq]
  cases rejection? rules raw.toList with
  | some r =>
    dsimp only
    rw [saysTooLong_rejection_iff]
    simp
  | none =>
    dsimp only
    cases findings c rules raw.toList e with
    | error x => exact ⟨fun h => absurd h not_saysTooLong_internalError, nofun⟩
    | ok f => exact ⟨fun h => (nomatch h.1), nofun⟩

/-- A report calls a query too long exactly if there is a limit, and either the raw text is above
it or its canonical form is, which may have up to four times as many characters as the text without
comments. -/
theorem saysTooLong_validate_iff (c : Catalog) (rules : Rules) (raw : String) (e : Exercise) :
    (SaysTooLong (validate c rules.options raw e) ↔ ∃ n, rules.limit = some n ∧
      (isBlankText raw.toList = false ∧ n < raw.toList.length
        ∨ Query.prepared raw.toList ≠ [] ∧ n < (Query.prepared raw.toList).length)) ∧
      (Query.prepared raw.toList).length ≤ 4 * (Query.withoutComments raw.toList).length :=
  ⟨(saysTooLong_validate ..).trans rejection?_tooLong_iff, Query.length_canonical_le _⟩

lemma scan_pair : Query.Token.scan "SELECT a,b FROM t".toList
    = [⟨.manipulation, "SELECT".toList⟩, ⟨.blank, [' ']⟩, ⟨.name, ['a']⟩, ⟨.other, [',']⟩,
      ⟨.name, ['b']⟩, ⟨.blank, [' ']⟩, ⟨.keyword, "FROM".toList⟩, ⟨.blank, [' ']⟩, ⟨.name, ['t']⟩] := by
  decide +kernel

/-- A query can be called too long where it has as many characters as the limit allows: its
canonical form has a space behind the comma. -/
theorem saysTooLong_pair : "SELECT a,b FROM t".toList.length = 17 ∧
    SaysTooLong (validate .standard (Rules.mk false 70 (some 17)).options "SELECT a,b FROM t"
      { solution := "SELECT a, b FROM t" }) := by
  have h : ComesTo "SELECT a,b FROM t".toList "select a, b from t".toList :=
    comesTo_of_scan scan_pair (by decide)
  refine ⟨rfl, (saysTooLong_validate ..).2 (rejection?_tooLong_iff.2 ⟨17, rfl, .inr ?_⟩)⟩
  rw [h.prepared]
  exact ⟨by decide, by decide⟩

end QueryTutor.Validation
