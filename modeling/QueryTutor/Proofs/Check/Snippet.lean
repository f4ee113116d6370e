import QueryTutor.Check.TestCase
import QueryTutor.Proofs.Query.Snippet
import QueryTutor.Proofs.Text.Front
import QueryTutor.Query.Comment

/-!
# Authored snippets

Snippets of an exercise are looked for in canonical form.  One that stands verbatim in a query is
found, and one is found only if it stands there but for letter case, white space and the semicolons
at its end.
-/

namespace QueryTutor

namespace Exercise

/-- The exercise, with no clause required that is the given one. -/
def withoutClause (e : Exercise) (s : String) : Exercise :=
  { e with requiredClauses := e.requiredClauses.map (·.filter (· != s)) }

namespace TestCase

/-- The test case, with no text asked for that is the given one. -/
def withoutRequired (t : TestCase) (s : String) : TestCase :=
  { t with shouldContain := t.shouldContain.map (·.filter (· != s)) }

/-- The test case, with no text forbidden that is the given one. -/
def withoutForbidden (t : TestCase) (s : String) : TestCase :=
  { t with shouldNotContain := t.shouldNotContain.map (·.filter (· != s)) }

end TestCase

end Exercise

namespace Check
open Text Query

variable {s : String} {q : List Char}

lemma containsSnippet_iff : containsSnippet s q = true ↔ canonical s.toList <:+: q :=
  holds_iff

/-! ## Entries that make no difference -/

lemma getD_map_filter (p : String → Bool) (entries : Option (List String)) :
    (entries.map (·.filter p)).getD [] = (entries.getD []).filter p := by
  cases entries <;> rfl

/-- An entry without the property is not missed among those that have it. -/
lemma and_ne_eq {p : String → Bool} (hs : p s = false) (x : String) : ((x != s) && p x) = p x := by
  by_cases hx : x = s
  · rw [hx, hs, Bool.and_false]
  · rw [bne_iff_ne.2 hx, Bool.true_and]

lemma filter_filter_ne {p : String → Bool} (hs : p s = false) (entries : List String) :
    (entries.filter (· != s)).filter p = entries.filter p := by
  rw [List.filter_filter]
  exact List.filter_congr fun x _ => by rw [Bool.and_comm, and_ne_eq hs]

lemma find?_filter_ne {p : String → Bool} (hs : p s = false) (entries : List String) :
    (entries.filter (· != s)).find? p = entries.find? p := by
  rw [List.find?_filter]
  refine congrArg (entries.find? ·) (funext fun x => ?_)
  rw [Bool.decide_and, Bool.decide_eq_true, Bool.decide_eq_true, and_ne_eq hs]

/-- What is required comes to the same without a clause that the query has. -/
lemma required_withoutClause (h : containsSnippet s q = true) (e : Exercise) (a : Analysis) :
    required (e.withoutClause s) a q = required e a q := by
  have hclauses : ((e.withoutClause s).requiredClauses.getD []).filter (fun c => !containsSnippet c q)
      = (e.requiredClauses.getD []).filter fun c => !containsSnippet c q := by
    rw [Exercise.withoutClause, getD_map_filter, filter_filter_ne]
    rw [h, Bool.not_true]
  rw [required, hclauses]
  rfl

lemma runTestCase_congr {t u : Exercise.TestCase} {a : Analysis} (hname : t.name = u.name)
    (hweight : t.weight = u.weight) (hfault : testFault? t a q = testFault? u a q) (w : Float) :
    runTestCase a q w t = runTestCase a q w u := by
  rw [runTestCase, runTestCase, hname, hweight, hfault]

/-- A test case has the same outcome without a text asked for that the query has. -/
lemma runTestCase_withoutRequired (h : containsSnippet s q = true) (t : Exercise.TestCase)
    (a : Analysis) (w : Float) : runTestCase a q w (t.withoutRequired s) = runTestCase a q w t := by
  refine runTestCase_congr (t := t.withoutRequired s) (u := t) rfl rfl ?_ w
  have hfind : ((t.withoutRequired s).shouldContain.getD []).find? (fun s => !containsSnippet s q)
      = (t.shouldContain.getD []).find? fun s => !containsSnippet s q := by
    rw [Exercise.TestCase.withoutRequired, getD_map_filter, find?_filter_ne]
    rw [h, Bool.not_true]
  rw [testFault?, hfind]
  rfl

/-- A test case has the same outcome without a forbidden text that the query does not have. -/
lemma runTestCase_withoutForbidden (h : containsSnippet s q = false) (t : Exercise.TestCase)
    (a : Analysis) (w : Float) : runTestCase a q w (t.withoutForbidden s) = runTestCase a q w t := by
  refine runTestCase_congr (t := t.withoutForbidden s) (u := t) rfl rfl ?_ w
  have hfind : ((t.withoutForbidden s).shouldNotContain.getD []).find? (fun s => containsSnippet s q)
      = (t.shouldNotContain.getD []).find? fun s => containsSnippet s q := by
    rw [Exercise.TestCase.withoutForbidden, getD_map_filter, find?_filter_ne h]
  rw [testFault?, hfind]
  rfl

/-! ## Snippets that stand in a query -/

/-- A piece of a text that cuts no operator, where small letters are made piece by piece, has its
canonical form in that of the text.  As an entry of an exercise it is not reported missing in a query
that is this text without its comments: all comes out as it does without the entry. -/
theorem verbatim_entry_found (x y : List Char) (s : String)
    (hlower : lower (x ++ s.toList ++ y) = lower x ++ lower s.toList ++ lower y)
    (hx : ¬ Straddles (x ++ s.toList ++ y) x.length)
    (hy : ¬ Straddles (x ++ s.toList ++ y) (x ++ s.toList).length) :
    canonical s.toList <:+: canonical (x ++ s.toList ++ y) ∧
      ∀ q, withoutComments q = x ++ s.toList ++ y →
        (∀ e a, required (e.withoutClause s) a (prepared q) = required e a (prepared q)) ∧
        ∀ t a w, runTestCase a (prepared q) w (t.withoutRequired s)
          = runTestCase a (prepared q) w t := by
  have hwithin := canonical_isInfix hlower hx hy
  refine ⟨hwithin, fun q hq => ?_⟩
  have hfound : containsSnippet s (prepared q) = true := by
    rw [containsSnippet_iff, prepared, hq]
    exact hwithin
  exact ⟨required_withoutClause hfound, runTestCase_withoutRequired hfound⟩

/-- The piece is bounded by operators on both sides, and is spaced otherwise in the query. -/
theorem verbatim_entry_found_between_operators :
    (∀ e a, required (e.withoutClause ",b FROM t WHERE a") a
        (prepared "SELECT a,b FROM t WHERE a=1".toList)
      = required e a (prepared "SELECT a,b FROM t WHERE a=1".toList)) ∧
    canonical ",b FROM t WHERE a".toList = ", b from t where a".toList := by
  have htext : "SELECT a,b FROM t WHERE a=1".toList
      = "SELECT a".toList ++ ",b FROM t WHERE a".toList ++ "=1".toList := by decide +kernel
  have hfound := verbatim_entry_found "SELECT a".toList "=1".toList ",b FROM t WHERE a"
    (by decide +kernel) (by decide +kernel) (by decide +kernel)
  have hraw : "SELECT a,b FROM t WHERE a=1".toList = _ := String.toList_ofList
  refine ⟨(hfound.2 _ ?_).1, by decide +kernel⟩
  rw [← htext, hraw]
  decide +kernel

/-! ## Snippets that do not stand in a query -/

/-- The characters of a snippet that count: small letters, without white space and without the
semicolons at its end. -/
def essence (s : String) : List Char :=
  solid (dropTrailing isTrailer (lower s.toList))

lemma solid_isInfix {u v : List Char} (h : u <:+: v) : solid u <:+: solid v :=
  h.filter _

/-- What counts of a snippet that is found stands in the query. -/
lemma essence_isInfix_of_containsSnippet {raw : List Char}
    (h : containsSnippet s (prepared raw) = true) :
    essence s <:+: solid (lower (withoutComments raw)) := by
  have hsolid := solid_isInfix (containsSnippet_iff.1 h)
  rw [solid_canonical, prepared, solid_canonical] at hsolid
  exact hsolid.trans (solid_isInfix (isPrefix_dropTrailing _ _).isInfix)

/-- A forbidden text does not make a test case fail if the query, white space apart, does not hold
it without the semicolons at its end. -/
theorem absent_entry_harmless (s : String) (q : List Char)
    (h : ¬ essence s <:+: solid (lower (withoutComments q))) (t : Exercise.TestCase) (a : Analysis)
    (w : Float) :
    runTestCase a (prepared q) w (t.withoutForbidden s) = runTestCase a (prepared q) w t := by
  have habsent : containsSnippet s (prepared q) = false :=
    Bool.eq_false_iff.2 fun hfound => h (essence_isInfix_of_containsSnippet hfound)
  exact runTestCase_withoutForbidden habsent t a w

/-- A join of tables by a comma is forbidden, and the query joins them otherwise. -/
theorem absent_comma_join_harmless :
    ¬ essence "FROM users,orders;"
        <:+: solid (lower (withoutComments "SELECT name FROM users JOIN orders".toList)) ∧
      ∀ t a w, runTestCase a (prepared "SELECT name FROM users JOIN orders".toList) w
          (t.withoutForbidden "FROM users,orders;")
        = runTestCase a (prepared "SELECT name FROM users JOIN orders".toList) w t :=
  have habsent : ¬ essence "FROM users,orders;"
      <:+: solid (lower (withoutComments "SELECT name FROM users JOIN orders".toList)) := by
    have hraw : "SELECT name FROM users JOIN orders".toList = _ := String.toList_ofList
    rw [hraw]
    decide +kernel
  ⟨habsent, absent_entry_harmless _ _ habsent⟩

/-- The semicolon at its end does not count in a forbidden text: a query that goes on otherwise, and
so does not hold the text, fails for it. -/
theorem entry_fails_without_its_semicolon :
    isBlankText "DELETE FROM users;".toList = false ∧
      ¬ solid (lower "DELETE FROM users;".toList)
        <:+: solid (lower (withoutComments "DELETE FROM users WHERE id = 1".toList)) ∧
      ∀ (a : Analysis) (w : Float),
        let q := prepared "DELETE FROM users WHERE id = 1".toList
        let t : Exercise.TestCase := ⟨"keeps users", none, some ["DELETE FROM users;"], none, none⟩
        runTestCase a q w t
            = ⟨"keeps users", false, "Should not contain: \"DELETE FROM users;\"", w⟩ ∧
          runTestCase a q w (t.withoutForbidden "DELETE FROM users;")
            = ⟨"keeps users", true, "Test passed", w⟩ := by
  have hstripped : withoutComments "DELETE FROM users WHERE id = 1".toList
      = "DELETE FROM users WHERE id = 1".toList := by
    have hraw : "DELETE FROM users WHERE id = 1".toList = _ := String.toList_ofList
    rw [hraw]
    decide +kernel
  have habsent : ¬ solid (lower "DELETE FROM users;".toList)
      <:+: solid (lower "DELETE FROM users WHERE id = 1".toList) := by
    decide +kernel
  have hfound : containsSnippet "DELETE FROM users;"
      (canonical "DELETE FROM users WHERE id = 1".toList) = true := by
    decide +kernel
  refine ⟨by decide +kernel, hstripped.symm ▸ habsent, fun a w => ?_⟩
  rw [← hstripped] at hfound
  intro q t
  have hfault : testFault? t a q = some "Should not contain: \"DELETE FROM users;\"" := by
    have hfind : (t.shouldNotContain.getD []).find? (fun s => containsSnippet s q)
        = some "DELETE FROM users;" :=
      List.find?_cons_of_pos hfound
    rw [testFault?, hfind]
    rfl
  refine ⟨by rw [runTestCase, hfault], rfl⟩

end Check

end QueryTutor
