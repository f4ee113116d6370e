import QueryTutor.Feedback.ExecutionStep
import QueryTutor.Proofs.Analysis.Extraction
import QueryTutor.Proofs.Query.Occurrence
import QueryTutor.Query.Precheck

/-!
# Clauses of execution steps

A step is shown for each keyword that stands in the prepared form of a query, and its clause is cut
out of the form that is displayed.  On one text, finding the keyword and cutting out its clause
agree.  The two forms agree on where keywords stand, except behind a capital I with a dot.
-/

namespace QueryTutor.Feedback
open Text Phrase

variable {q raw : List Char} {s : ExecutionStep}

/-! ## Keywords -/

namespace Operation

/-- The keyword of the clause that an operation works on, in small letters. -/
def keyword : Operation → String
  | source => "from"
  | join => "join"
  | filter => "where"
  | group => "group by"
  | select => "select"
  | sort => "order by"
  | limit => "limit"

/-- A clause is present if its keyword stands in the text. -/
lemma isPresent_ofText (o : Operation) (q : List Char) :
    o.isPresent (Analysis.ofText q) = occurs o.keyword.toList q := by
  cases o <;> rfl

lemma keyword_mem (o : Operation) : o.keyword ∈ Analysis.clauseKeywords := by
  cases o <;> decide

lemma clauseKind_keyword (o : Operation) :
    Analysis.clauseKind o.keyword.toList = o.keyword.toList := by
  cases o <;> decide

/-- The name of an operation is its keyword in capitals. -/
lemma clauseKind_name (o : Operation) :
    Analysis.clauseKind o.name.toList = o.keyword.toList := by
  cases o <;> decide

lemma isPhrase_keyword (o : Operation) : IsPhrase o.keyword.toList where
  plain := by cases o <;> decide
  starts := by cases o <;> decide
  ne_nil := by cases o <;> decide
  ends := by cases o <;> decide

lemma getLast?_keyword (o : Operation) : o.keyword.toList.getLast? ≠ some 'i' := by
  cases o <;> decide

end Operation

/-! ## Clauses and flags -/

/-- On one text, the clause of a keyword can be cut out exactly if the analysis says that it is
present, be it at top level, inside parentheses or within a string. -/
theorem extractClause_ne_nil_iff (o : Operation) (q : List Char) :
    Analysis.extractClause o.keyword.toList q ≠ [] ↔ o.isPresent (Analysis.ofText q) = true := by
  rw [o.isPresent_ofText]
  obtain ⟨hoccurs, hclause⟩ | ⟨hoccurs, hclause⟩ :=
    Analysis.extractClause_cases o.keyword_mem o.clauseKind_keyword q
  · exact iff_of_true hclause.ne_nil hoccurs
  · exact iff_of_false (not_not_intro hclause) (Bool.eq_false_iff.1 hoccurs)

/-! ## Steps -/

/-- A step is one of the operations, with the clause that is cut out for it. -/
lemma mem_stepsFrom {a : Analysis} {shown : List Char} {n : Nat} {os : List Operation}
    (h : s ∈ stepsFrom a shown n os) : s.operation ∈ os ∧
      s.clause.toList = Analysis.extractClause s.operation.name.toList shown := by
  induction os generalizing n with
  | nil => cases h
  | cons o os ih =>
    rw [stepsFrom] at h
    obtain rfl | h := List.mem_cons.1 h
    · exact ⟨List.mem_cons_self, String.toList_ofList⟩
    · exact (ih h).imp_left (List.mem_cons_of_mem o)

/-- Squeezing and trimming a query for display leaves its keywords where they stand. -/
lemma occurs_collapsed (o : Operation) (raw : List Char) :
    occurs o.keyword.toList (Query.collapsed raw)
      = occurs o.keyword.toList (Query.withoutComments raw) :=
  Query.occurs_tight o.isPhrase_keyword _

/-- The clause of each step begins with the keyword of the step, in some letter case and spacing, if
the keyword stands in the query without its comments.  Otherwise the clause is empty, and the step
is shown since the keyword stands behind a capital I with a dot, whose small form ends in a
character that belongs to no word. -/
theorem clause_of_mem_executionSteps
    (h : s ∈ executionSteps raw (Analysis.ofText (Query.prepared raw))) :
    (occurs s.operation.keyword.toList (Query.withoutComments raw) = true ∧
        Analysis.StartsClause s.operation.keyword s.clause.toList) ∨
      (occurs s.operation.keyword.toList (Query.withoutComments raw) = false ∧
        s.clause = "" ∧
        Query.BehindDotted s.operation.keyword.toList (Query.withoutComments raw)) := by
  obtain ⟨hmem, hclause⟩ := mem_stepsFrom h
  have hprepared : occurs s.operation.keyword.toList (Query.prepared raw) = true := by
    rw [← s.operation.isPresent_ofText]
    exact (List.mem_filter.1 hmem).2
  have hcut := Analysis.extractClause_cases s.operation.keyword_mem s.operation.clauseKind_name
    (Query.collapsed raw)
  rw [← hclause, occurs_collapsed] at hcut
  refine hcut.imp_right fun ⟨hoccurs, hempty⟩ => ⟨hoccurs, String.toList_eq_nil_iff.1 hempty, ?_⟩
  have hstands := Query.occurs_canonical s.operation.isPhrase_keyword s.operation.getLast?_keyword
    hprepared
  exact hstands.resolve_left (Bool.eq_false_iff.1 hoccurs)

/-- The clause of a limit. -/
theorem clause_of_limit :
    let raw := "SELECT 1 LIMIT 5".toList
    let s : ExecutionStep := ⟨2, .limit, "Limit the number of returned rows", "LIMIT 5"⟩
    s ∈ executionSteps raw (Analysis.ofText (Query.prepared raw)) ∧
      ((occurs s.operation.keyword.toList (Query.withoutComments raw) = true ∧
          Analysis.StartsClause s.operation.keyword s.clause.toList) ∨
        (occurs s.operation.keyword.toList (Query.withoutComments raw) = false ∧
          s.clause = "" ∧
          Query.BehindDotted s.operation.keyword.toList (Query.withoutComments raw))) := by
  intro raw s
  have hstripped : Query.withoutComments raw = raw := by decide +kernel
  have h : s ∈ executionSteps raw (Analysis.ofText (Query.prepared raw)) := by
    rw [executionSteps, Query.prepared, Query.collapsed, hstripped]
    decide +kernel
  exact ⟨h, clause_of_mem_executionSteps h⟩

/-- A query that passes the pre-check and sorts by a column whose name begins with a capital I with
a dot has a step for a limit, without a clause. -/
theorem limit_without_clause :
    let raw := "SELECT ad FROM iller ORDER BY \u0130limit".toList
    Query.precheck (some (.whole 10000)) (Query.prepared raw) = none ∧
      ∃ s ∈ executionSteps raw (Analysis.ofText (Query.prepared raw)),
        s.operation = .limit ∧ s.clause = "" := by
  intro raw
  have hstripped : Query.withoutComments raw = raw := by decide +kernel
  rw [executionSteps, Query.prepared, Query.collapsed, hstripped]
  decide +kernel

end QueryTutor.Feedback
