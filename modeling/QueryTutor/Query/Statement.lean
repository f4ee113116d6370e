import QueryTutor.Query.Token.Basic
import QueryTutor.Text.Blank
import QueryTutor.Text.Front

/-!
# Statements

A token list cut into statements.  One ends behind a semicolon outside of parentheses and blocks, or
behind the end of a batch, and takes the blanks and line comments that follow along.
-/

namespace QueryTutor.Query

open Text

/-- The tokens of one statement. -/
abbrev Statement := List Token

/-- What is open in the statement read so far. -/
structure Progress where
  /-- Parentheses and block words, closed ones taken off. -/
  level : Int := 0
  /-- Blocks between `BEGIN` and `END`. -/
  blocks : Nat := 0
  /-- Nothing but white space and comments stands behind the last `BEGIN`. -/
  justBegun : Bool := false
  /-- The statement creates something. -/
  creates : Bool := false
  /-- Declarations are open in front of the first block. -/
  declares : Bool := false
  /-- A `CASE` is open inside a block. -/
  choosing : Bool := false
  deriving DecidableEq, Repr

namespace Progress

/-- The words that make a `BEGIN` open a transaction instead of a block. -/
def transactionWords : List String :=
  ["TRANSACTION", "WORK", "TRAN", "DISTRIBUTED", "DEFERRED", "IMMEDIATE", "EXCLUSIVE"]

/-- White space or a comment, which changes nothing that is open. -/
def isIdle (t : Token) : Bool :=
  t.isSpace || t.isRemark

/-- The next words ask whether something exists, or does not. -/
def asksExistence (rest : List Token) : Bool :=
  let reads := fun (word : String) (t : Token) => t.capitals == word.toList
  match rest.dropWhile isIdle with
  | t :: more =>
    reads "EXISTS" t || (reads "NOT" t && (more.dropWhile isIdle).head?.any (reads "EXISTS"))
  | [] => false

/-- One more level. -/
def deepen (p : Progress) : Progress :=
  { p with level := p.level + 1 }

/-- One level less. -/
def rise (p : Progress) : Progress :=
  { p with level := p.level - 1 }

/-- One block less. -/
def closeBlock (p : Progress) : Progress :=
  { p with blocks := p.blocks - 1 }

/-- The word behind the last `BEGIN` makes it open a transaction. -/
def opensTransaction (p : Progress) (t : Token) : Bool :=
  p.justBegun && (t.kind == .keyword || t.kind == .name)
    && transactionWords.any fun w => w.toList == t.capitals

/-- How a keyword changes what is open, where `rest` follows it. -/
def afterKeyword (p : Progress) (t : Token) (rest : List Token) : Progress :=
  if t.kind == .definition && hasFront (· == ·) "CREATE".toList t.capitals then
    { p with creates := true }
  else if t.isOneOf ["DECLARE"] && p.creates && p.blocks == 0 then
    { p.deepen with declares := true }
  else if t.isOneOf ["BEGIN"] then
    let q := if p.creates && !p.declares then p.deepen else p
    { q with blocks := p.blocks + 1, justBegun := true, declares := false }
  else if t.isOneOf ["END"] then
    if p.choosing then { p.rise with choosing := false } else p.rise.closeBlock
  else if t.isOneOf ["END CASE"] then { p.rise with choosing := false }
  else if t.isOneOf ["END IF", "END FOR", "END WHILE", "END LOOP"] then p.rise
  else if p.creates && p.blocks > 0 then
    if t.isOneOf ["CASE"] then { p.deepen with choosing := true }
    else if t.isOneOf ["FOR", "WHILE"] || (t.isOneOf ["IF"] && !asksExistence rest) then p.deepen
    else p
  else p

/-- How the parentheses and words of a token change what is open, where `rest` follows it. -/
def afterWord (p : Progress) (t : Token) (rest : List Token) : Progress :=
  if t.kind == .opening then p.deepen
  else if t.kind == .closing then p.rise
  else if p.opensTransaction t then { p.closeBlock with justBegun := false }
  else p.afterKeyword t rest

/-- The token ends a batch of statements. -/
def isBatchEnd (t : Token) : Bool :=
  t.kind == .keyword && t.text.take 2 == ['G', 'O'] && (t.text.drop 2).head?.all isBlank

/-- What is open behind a token, and whether the statement has come to its end there. -/
def step (p : Progress) (t : Token) (rest : List Token) : Progress × Bool :=
  let q := p.afterWord t rest
  if t.kind == .semicolon then
    let q := if q.justBegun then { q.closeBlock with justBegun := false } else q
    (q, q.level ≤ 0 && q.blocks == 0)
  else if isBatchEnd t then (q, true)
  else if t.isSpace || t.kind == .comment || t.isOneOf ["BEGIN"] then (q, false)
  else ({ q with justBegun := false }, false)

end Progress

namespace Statement

/-- The statements of a token list, where `current` holds the tokens of the open one, last first,
and `ended` says that its end has been seen. -/
def splitAfter (current : Statement) (p : Progress) (ended : Bool) : List Token → List Statement
  | [] => if current.all (·.isSpace) then [] else [current.reverse]
  | t :: ts =>
    let opens := ended && !(t.kind == .blank || t.isLineComment)
    let (q, ends) := (if opens then {} else p).step t ts
    if opens then current.reverse :: splitAfter [t] q ends ts
    else splitAfter (t :: current) q (ended || ends) ts

/-- The statements of a token list, from left to right. -/
def split (tokens : List Token) : List Statement :=
  splitAfter [] {} false tokens

end Statement

end QueryTutor.Query
