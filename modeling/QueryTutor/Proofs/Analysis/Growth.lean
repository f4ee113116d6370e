import QueryTutor.Analysis.Basic
import QueryTutor.Proofs.Analysis.Clause
import QueryTutor.Proofs.Analysis.Table
import QueryTutor.Proofs.Text.Occurrence

/-!
# Analyses of texts that go on

A text that goes on with white space has all that it had.
-/

namespace QueryTutor

/-- The place of a degree of complexity, from the least one. -/
def Complexity.rank : Complexity → Nat
  | simple => 0
  | moderate => 1
  | complex => 2

namespace Analysis
open Text Phrase

variable {t s : List Char}

/-- What the first analysis tells of a query holds by the second one too: features are there, tables
come first, the columns are the same if there are any, and the query is no less involved. -/
structure Grows (a b : Analysis) : Prop where
  hasSelect : a.hasSelect = true → b.hasSelect = true
  hasFrom : a.hasFrom = true → b.hasFrom = true
  hasWhere : a.hasWhere = true → b.hasWhere = true
  hasJoin : a.hasJoin = true → b.hasJoin = true
  hasGroupBy : a.hasGroupBy = true → b.hasGroupBy = true
  hasOrderBy : a.hasOrderBy = true → b.hasOrderBy = true
  hasLimit : a.hasLimit = true → b.hasLimit = true
  hasAggregate : a.hasAggregate = true → b.hasAggregate = true
  tables : a.tables <+: b.tables
  columns : a.columns ≠ [] → b.columns = a.columns
  complexity : a.complexity.rank ≤ b.complexity.rank

/-! ## Aggregates -/

lemma isSome_aggregateAt? {before : Option Char} : (aggregateAt? before t).isSome = true ↔
    continuesWord before = false ∧ ∃ f ∈ aggregates, ∃ rest r,
      strip? f.toList t = some rest ∧ rest.dropWhile isBlank = '(' :: r := by
  rw [aggregateAt?]
  split_ifs with hbefore
  · exact ⟨nofun, fun h => absurd hbefore (Bool.eq_false_iff.1 h.1)⟩
  · rw [List.findSome?_isSome_iff, and_iff_right (Bool.eq_false_iff.2 hbefore)]
    refine exists_congr fun f => and_congr_right fun _ => ?_
    cases hstrip : strip? f.toList t with
    | none => exact ⟨nofun, nofun⟩
    | some rest =>
      rw [Option.bind_some]
      split
      case h_1 r hopen => exact ⟨fun _ => ⟨rest, r, rfl, hopen⟩, fun _ => rfl⟩
      case h_2 hnot =>
        refine ⟨nofun, ?_⟩
        rintro ⟨rest', r, hrest, hopen⟩
        cases hrest
        exact absurd hopen (hnot r)

/-- A call of an aggregate that begins here does so when the text goes on. -/
lemma isSome_aggregateAt?_append {before : Option Char} (h : (aggregateAt? before t).isSome = true)
    (s : List Char) : (aggregateAt? before (t ++ s)).isSome = true := by
  obtain ⟨hbefore, f, hf, rest, r, hstrip, hopen⟩ := isSome_aggregateAt?.1 h
  have hne : rest ≠ [] := by
    rintro rfl
    cases hopen
  refine isSome_aggregateAt?.2
    ⟨hbefore, f, hf, rest ++ s, r ++ s, stripBy?_append hstrip (.inl hne) s, ?_⟩
  rw [dropWhile_append_of_ne_nil (by rw [hopen]; nofun), hopen, List.cons_append]

lemma callsAggregate_append (h : callsAggregate t = true) (s : List Char) :
    callsAggregate (t ++ s) = true :=
  isSome_findFrom_append (f := aggregateAt?) (fun _ _ hu => isSome_aggregateAt?_append hu s) h

/-! ## Complexity -/

/-- A phrase stands at no fewer places when the text goes on with white space. -/
lemma countFrom_append {p : List Char} (hp : p.getLast? ≠ some ' ') (hs : startsBlank s = true)
    (before : Option Char) : countFrom p before t ≤ countFrom p before (t ++ s) := by
  induction t generalizing before with
  | nil => exact Nat.zero_le _
  | cons c t ih =>
    rw [List.cons_append, countFrom, countFrom]
    refine Nat.add_le_add ?_ (ih _)
    cases hhere : wholeAt? p before (c :: t) with
    | none => exact Nat.zero_le _
    | some rest =>
      rw [← List.cons_append, wholeAt?_append hp (startsWithWord_of_startsBlank hs) hhere]
      rfl

lemma pointsFor_mono (points : Nat) {p q : Bool} (h : p = true → q = true) :
    pointsFor points p ≤ pointsFor points q := by
  cases p with
  | false => exact Nat.zero_le _
  | true => rw [h rfl]

/-- More points make a query no less involved. -/
lemma rank_mono {m n : Nat} (h : m ≤ n) :
    Complexity.rank (if 4 ≤ m then .complex else if 2 ≤ m then .moderate else .simple)
      ≤ Complexity.rank (if 4 ≤ n then .complex else if 2 ≤ n then .moderate else .simple) := by
  split_ifs <;> first | omega | decide

/-- More features make a query no less involved. -/
lemma rank_estimate_mono {join join' groupBy groupBy' aggregate aggregate' nested nested' : Bool}
    {count count' : Int} (hjoin : join = true → join' = true)
    (hgroupBy : groupBy = true → groupBy' = true)
    (haggregate : aggregate = true → aggregate' = true) (hnested : nested = true → nested' = true)
    (hcount : count ≤ count') :
    (estimate join groupBy aggregate nested count).rank
      ≤ (estimate join' groupBy' aggregate' nested' count').rank := by
  have hmany : decide (count > 2) = true → decide (count' > 2) = true := by
    simp only [decide_eq_true_eq]
    omega
  exact rank_mono (Nat.add_le_add (Nat.add_le_add (Nat.add_le_add (Nat.add_le_add
    (pointsFor_mono 2 hjoin) (pointsFor_mono 1 hgroupBy)) (pointsFor_mono 1 haggregate))
    (pointsFor_mono 2 hnested)) (pointsFor_mono 1 hmany))

/-! ## Analyses -/

/-- What is told of a text is told of it when it goes on with white space. -/
lemma grows_append (hs : startsBlank s = true) (q : List Char) :
    Grows (ofText q) (ofText (q ++ s)) := by
  have stays : ∀ phrase : String, phrase.toList.getLast? ≠ some ' ' →
      occurs phrase.toList q = true → occurs phrase.toList (q ++ s) = true :=
    fun phrase hp => occurs_append hp (startsWithWord_of_startsBlank hs)
  have hjoin := stays "join" (by decide)
  have hgroupBy := stays "group by" (by decide)
  have haggregate : callsAggregate q = true → callsAggregate (q ++ s) = true :=
    fun h => callsAggregate_append h s
  have hnested : decide (countFrom "select".toList none q > 1) = true →
      decide (countFrom "select".toList none (q ++ s) > 1) = true := by
    have := countFrom_append (t := q) (p := "select".toList) (by decide) hs none
    simp only [decide_eq_true_eq]
    omega
  have htables := tableNames_append hs q
  exact {
    hasSelect := stays "select" (by decide)
    hasFrom := stays "from" (by decide)
    hasWhere := stays "where" (by decide)
    hasJoin := hjoin
    hasGroupBy := hgroupBy
    hasOrderBy := stays "order by" (by decide)
    hasLimit := stays "limit" (by decide)
    hasAggregate := haggregate
    tables := htables.map _
    columns := fun h => congrArg (List.map String.ofList)
      (columnNames_append hs fun hnil => h (congrArg (List.map String.ofList) hnil))
    complexity := rank_estimate_mono hjoin hgroupBy haggregate hnested
      (by exact_mod_cast htables.length_le) }

end Analysis

end QueryTutor
