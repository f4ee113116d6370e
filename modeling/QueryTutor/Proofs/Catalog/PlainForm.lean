import QueryTutor.Proofs.Catalog.MissingWhere
import QueryTutor.Proofs.Pattern.FirstMeeting

/-!
# Plain forms of detection patterns

Some patterns of the standard catalog are bound to the front of a text and go up to the first place
from which a part of them is met, so that searching takes no more time than there is text.  They are
met in the same texts as their plain forms, which try all places.
-/

namespace QueryTutor.Catalog
open Pattern Text Mistake

/-- White space or nothing. -/
def blanks : Pattern :=
  many .greedy 0 none (set false [.category .blank false])

/-- A word. -/
def word : Pattern :=
  many .greedy 1 none (set false [.category .word false])

/-- Digits. -/
def digits : Pattern :=
  many .greedy 1 none (set false [.category .digit false])

/-- A column, with or without its table. -/
def column : List Pattern :=
  [word, many .greedy 0 (some 1) (ofList [char '.', word])]

/-- The letters `SELECT`. -/
def selectLetters : List Pattern :=
  ['S', 'E', 'L', 'E', 'C', 'T'].map char

/-- A comparison of a column with one value, given as these patterns. -/
def whereEquals (column value : List Pattern) : List Pattern :=
  ['W', 'H', 'E', 'R', 'E'].map char
    ++ (spaces :: (column ++ [blanks, char '=', blanks] ++ value))

/-- The words `SELECT DISTINCT`. -/
def selectDistinct : List Pattern :=
  edge :: (selectLetters ++ (spaces :: (['D', 'I', 'S', 'T', 'I', 'N', 'C', 'T'].map char ++ [edge])))

/-- The word `JOIN`. -/
def joinWord : List Pattern :=
  edge :: (['J', 'O', 'I', 'N'].map char ++ [edge])

/-- The word `SELECT` and two columns, each with a comma behind it. -/
def selectTwoColumns : List Pattern :=
  edge :: (selectLetters ++ (spaces :: (column ++ [blanks, char ',', blanks] ++ column
    ++ [blanks, char ','])))

/-- The front of the call of an aggregate. -/
def aggregateCall : List Pattern :=
  [edge,
    choice
      ([['C', 'O', 'U', 'N', 'T'], ['S', 'U', 'M'], ['A', 'V', 'G'], ['M', 'I', 'N'],
        ['M', 'A', 'X']].map fun name => ofList (name.map char)),
    blanks, char '(']

/-- The words `GROUP BY` with one column, behind which the clause ends. -/
def groupByOneColumn : List Pattern :=
  edge :: (['G', 'R', 'O', 'U', 'P'].map char ++ (spaces :: (['B', 'Y'].map char
    ++ (spaces :: (column ++ [blanks,
      choice (char ';' :: place .lineEnd ::
        [['H', 'A', 'V', 'I', 'N', 'G'], ['O', 'R', 'D', 'E', 'R'],
          ['L', 'I', 'M', 'I', 'T']].map fun name =>
            ofList (edge :: (name.map char ++ [edge])))])))))

/-- Patterns bound to the front of a text, behind a text in which the first ones are met nowhere. -/
def fromFirst (ps qs : List Pattern) : Pattern :=
  ofList (place .lineStart :: upTo (ofList ps) :: (ps ++ qs))

/-! ## Letters that tell where a meeting ends -/

lemma sole_t : Sole 't' :=
  ⟨by decide, by decide⟩

lemma sole_comma : Sole ',' :=
  ⟨by decide, by decide⟩

lemma sole_bracket : Sole '(' :=
  ⟨by decide, by decide⟩

lemma orderly_selectLetters (x : List Char) : Orderly (ofList selectLetters) x :=
  orderly_of_tally (n := 1) sole_t (by decide) (by decide) x

lemma orderly_selectDistinct (x : List Char) : Orderly (ofList selectDistinct) x :=
  orderly_of_tally (n := 3) sole_t (by decide) (by decide) x

lemma orderly_selectTwoColumns (x : List Char) : Orderly (ofList selectTwoColumns) x :=
  orderly_of_tally (n := 2) sole_comma (by decide) (by decide) x

lemma orderly_aggregateCall (x : List Char) : Orderly (ofList aggregateCall) x :=
  orderly_of_tally (n := 1) sole_bracket (by decide) (by decide) x

/-! ## Equal searches -/

/-- Both sources are patterns, and both are met in the text or neither is. -/
def SameSearch (x : List Char) (linear plain : String) : Prop :=
  ∃ b, Pattern.occursIn linear detectionMode x = .ok b ∧
    Pattern.occursIn plain detectionMode x = .ok b

lemma sameSearch_of_parsesTo {linear plain : String} {l r : List Char} {p q : Pattern}
    {x : List Char} (hl : linear.toList = l) (hr : plain.toList = r) (hp : parsesTo l p = true)
    (hq : parsesTo r q = true) (h : p.occurs detectionMode x = q.occurs detectionMode x) :
    SameSearch x linear plain := by
  rw [← String.ofList_toList (s := linear), ← String.ofList_toList (s := plain), hl, hr]
  exact ⟨_, occursIn_of_parsesTo hp _ _, by rw [h, occursIn_of_parsesTo hq]⟩

/-- Up to the first two columns, and from there up to the first aggregate. -/
lemma occurs_groupBy (x : List Char) :
    (fromFirst selectTwoColumns (upTo (ofList aggregateCall) ::
        (aggregateCall ++ anyText :: groupByOneColumn))).occurs detectionMode x
      = (ofList (selectTwoColumns ++ anyText ::
          (aggregateCall ++ anyText :: groupByOneColumn))).occurs detectionMode x := by
  have hcolumns : (ofList selectTwoColumns).groupless = true := by decide
  have hcall : (ofList aggregateCall).groupless = true := by decide
  -- behind the columns, any text does as well as a text without aggregates
  have hinner : ∀ j ≤ x.length,
      From (upTo (ofList aggregateCall) :: (aggregateCall ++ anyText :: groupByOneColumn)) x j ↔
        From (anyText :: (aggregateCall ++ anyText :: groupByOneColumn)) x j :=
    fun _ hj => from_upTo_iff hcall (orderly_aggregateCall x) hj _
  rw [fromFirst, Bool.eq_iff_iff, occurs_anchored_iff (by decide),
    occurs_ofList_iff (by decide)]
  refine Iff.trans ?_
    (from_upTo_iff hcolumns (orderly_selectTwoColumns x) (Nat.zero_le _) _)
  exact from_upTo_congr (fun _ hj => from_append_congr hcolumns hinner hj) (Nat.zero_le _)

/-- The plain forms of the patterns that go up to first meetings: of queries in a loop, of groups by
one of several columns, and of `DISTINCT` beside joins. -/
def plainForms : List String :=
  ["SELECT.*WHERE\\s+\\w+\\s*=\\s*\\?",
    "SELECT.*WHERE\\s+id\\s*=\\s*\\d+",
    "\\bSELECT\\s+\\w+(?:\\.\\w+)?\\s*,\\s*\\w+(?:\\.\\w+)?\\s*,"
      ++ ".*\\b(?:COUNT|SUM|AVG|MIN|MAX)\\s*\\("
      ++ ".*\\bGROUP\\s+BY\\s+\\w+(?:\\.\\w+)?\\s*(?:;|$|\\bHAVING\\b|\\bORDER\\b|\\bLIMIT\\b)",
    "\\bSELECT\\s+DISTINCT\\b.*\\bJOIN\\b"]

/-- The patterns of these mistakes are met in the same texts as their plain forms. -/
theorem sameSearch_plainForms (x : List Char) :
    List.Forall₂ (SameSearch x)
      (Standard.nPlusOne.patterns ++ Standard.groupByNonAggregated.patterns
        ++ Standard.distinctOveruse.patterns)
      plainForms := by
  have hparameter := occurs_upTo_eq (whereEquals [word] [char '?']) (by decide)
    (orderly_selectLetters x) (by decide) (by decide)
  have hnumber := occurs_upTo_eq (whereEquals (['i', 'd'].map char) [digits])
    (by decide) (orderly_selectLetters x) (by decide) (by decide)
  have hdistinct := occurs_upTo_eq joinWord (by decide)
    (orderly_selectDistinct x) (by decide) (by decide)
  -- the characters of the sources are found by unification
  have whole : ∀ {l}, (String.ofList l).toList = l := String.toList_ofList
  have three : ∀ {l m n}, (String.ofList l ++ String.ofList m ++ String.ofList n).toList
      = l ++ m ++ n :=
    toList_append_ofList (toList_append_ofList whole)
  refine .cons ?_ (.cons ?_ (.cons ?_ (.cons ?_ .nil)))
  · exact sameSearch_of_parsesTo whole whole (by decide +kernel) (by decide +kernel) hparameter
  · exact sameSearch_of_parsesTo whole whole (by decide +kernel) (by decide +kernel) hnumber
  · exact sameSearch_of_parsesTo (toList_append_ofList three) three (by decide +kernel)
      (by decide +kernel) (occurs_groupBy x)
  · exact sameSearch_of_parsesTo whole whole (by decide +kernel) (by decide +kernel) hdistinct

end QueryTutor.Catalog
