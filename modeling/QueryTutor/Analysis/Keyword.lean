import QueryTutor.Analysis.Clause
import QueryTutor.Pattern.Parser
import QueryTutor.Pattern.Search

/-!
# Keywords of any characters

The clause that a keyword opens, where a keyword that is no phrase is read as a pattern.
-/

namespace QueryTutor.Analysis

open Text

/-- The keyword is made of whole words. -/
def isPhrase (kind : List Char) : Bool :=
  !kind.isEmpty && kind.all fun c => isWord c || c == ' '

/-- The source of the pattern that looks for a keyword, with any white space between its parts. -/
def keywordSource (kind : List Char) : List Char :=
  let between := fun c : Char => if c = ' ' then ['\\', 's', '+'] else [c]
  ['\\', 'b'] ++ kind.flatMap between ++ ['\\', 'b']

/-- The clause that a keyword opens, empty if the query has none. -/
def extractKeyword (keyword q : List Char) : Except Pattern.Error (List Char) :=
  let kind := clauseKind keyword
  if isPhrase kind then .ok (extractClause keyword q)
  else do
    let p ← Pattern.parse (keywordSource kind)
    return match p.find? { ignoreCase := true } q with
      | some found => untilClosed found
      | none => []

end QueryTutor.Analysis
