import QueryTutor.Analysis.TopLevel
import QueryTutor.Text.Phrase

/-!
# Clauses

Where the clauses of a query begin, and cutting one of them out.
-/

namespace QueryTutor.Analysis

open Text

/-- The kinds of join that can stand before the word `join`. -/
def joinSides : List String :=
  ["inner", "left", "right", "full", "cross"]

/-- The phrases that open a join, longer ones first. -/
def joinPhrases : List String :=
  (joinSides.flatMap fun side => [side ++ " outer join", side ++ " join"]) ++ ["join"]

/-- The phrases at which a clause ends and another one starts. -/
def boundaryPhrases : List String :=
  ["select", "from", "where", "group by", "having", "order by", "limit", "union", "intersect",
    "except"]
    ++ (joinSides.flatMap fun side =>
      ["natural " ++ side ++ " outer join", "natural " ++ side ++ " join", side ++ " outer join",
        side ++ " join"])
    ++ ["join"]

/-- What stands behind one of the phrases, if one stands here as whole words. -/
def phraseAt? (phrases : List String) (before : Option Char) (t : List Char) : Option (List Char) :=
  phrases.findSome? fun p => Phrase.wholeAt? p.toList before t

/-- The name of the clause that a keyword opens: small letters, single spaces, and all joins are one
kind. -/
def clauseKind (keyword : List Char) : List Char :=
  let kind := trim (squeeze (lower keyword))
  if "join".toList.isSuffixOf kind then "join".toList else kind

/-- The place where a clause begins. -/
structure Boundary where
  kind : List Char
  start : Nat
  deriving DecidableEq, Repr

/-- The boundaries at top level of a text that begins at `start` behind the character `before` and
has the marks `top`; `skip` more characters belong to the last keyword found. -/
def boundariesFrom (before : Option Char) (skip start : Nat) : List Char → List Bool → List Boundary
  | [], _ => []
  | c :: r, top =>
    match skip with
    | skip + 1 => boundariesFrom (some c) skip (start + 1) r top.tail
    | 0 =>
      match phraseAt? boundaryPhrases before (c :: r) with
      | some rest =>
        let keyword := (c :: r).take (r.length + 1 - rest.length)
        let later := boundariesFrom (some c) (r.length - rest.length) (start + 1) r top.tail
        if top.headD false then ⟨clauseKind keyword, start⟩ :: later else later
      | none => boundariesFrom (some c) 0 (start + 1) r top.tail

/-- The places at top level where clauses begin. -/
def boundaries (q : List Char) : List Boundary :=
  boundariesFrom none 0 0 q (topLevel q)

/-- The text between two places. -/
def slice (q : List Char) (start stop : Nat) : List Char :=
  (q.drop start).take (stop - start)

/-- The first boundary of a kind and those behind it. -/
def boundariesAt (kind : List Char) (q : List Char) : List Boundary :=
  (boundaries q).dropWhile fun b => b.kind != kind

/-- The text without semicolons and white space at its end. -/
def dropSemicolons (t : List Char) : List Char :=
  trim (dropTrailing (· == ';') (trim t))

/-- The clause of a kind that begins at top level, through the next boundary; joins that follow each
other are one clause. -/
def topClause? (kind : List Char) (q : List Char) : Option (List Char) :=
  match boundariesAt kind q with
  | [] => none
  | b :: later =>
    let later := if kind == "join".toList then later.dropWhile fun n => n.kind == kind else later
    let stop := match later with
      | n :: _ => n.start
      | [] => q.length
    some (dropSemicolons (slice q b.start stop))

/-- What stands before the next semicolon or closing parenthesis. -/
def untilClosed (t : List Char) : List Char :=
  trim (t.takeWhile fun c => c != ';' && c != ')')

/-- The text from the first place inside parentheses or literals where the clause begins, through
the next semicolon or closing parenthesis. -/
def innerClause (phrases : List String) (q : List Char) : List Char :=
  match Phrase.findFrom (phraseAt? phrases) none q with
  | some (found, _) => untilClosed found
  | none => []

/-- The clause that a keyword opens, empty if the query has none. -/
def extractClause (keyword : List Char) (q : List Char) : List Char :=
  let kind := clauseKind keyword
  match topClause? kind q with
  | some clause => clause
  | none =>
    innerClause (if kind == "join".toList then joinPhrases else [String.ofList kind]) q

end QueryTutor.Analysis
