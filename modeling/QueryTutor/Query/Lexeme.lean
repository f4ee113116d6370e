import QueryTutor.Text.Blank

/-!
# Lexemes

A query as the list of its lexemes: commas, comparison operators, and runs of other characters
between them.  White space separates lexemes and is nothing itself.
-/

namespace QueryTutor.Query

open Text

/-- The operators that stand as lexemes of their own. -/
inductive Operator where
  | comma
  | atMost
  | atLeast
  | notEqual
  | differs
  | equal
  deriving DecidableEq, Repr

/-- The characters of an operator. -/
def Operator.text : Operator → List Char
  | comma => [',']
  | atMost => ['<', '=']
  | atLeast => ['>', '=']
  | notEqual => ['!', '=']
  | differs => ['<', '>']
  | equal => ['=']

/-- An operator, or a run of characters that holds neither an operator nor white space. -/
inductive Lexeme where
  | op (o : Operator)
  | run (cs : List Char)
  deriving DecidableEq, Repr

namespace Lexeme

/-- The characters of a lexeme. -/
def text : Lexeme → List Char
  | op o => o.text
  | run cs => cs

/-- The run collected so far, last character first, as a lexeme. -/
def close (collected : List Char) : List Lexeme :=
  if collected.isEmpty then [] else [run collected.reverse]

/-- The lexemes of a text behind the characters collected of a run; the longer operator wins. -/
def scanAfter (collected : List Char) : List Char → List Lexeme
  | [] => close collected
  | '<' :: '=' :: r => close collected ++ op .atMost :: scanAfter [] r
  | '>' :: '=' :: r => close collected ++ op .atLeast :: scanAfter [] r
  | '!' :: '=' :: r => close collected ++ op .notEqual :: scanAfter [] r
  | '<' :: '>' :: r => close collected ++ op .differs :: scanAfter [] r
  | '=' :: r => close collected ++ op .equal :: scanAfter [] r
  | ',' :: r => close collected ++ op .comma :: scanAfter [] r
  | c :: r =>
    if isBlank c then close collected ++ scanAfter [] r else scanAfter (c :: collected) r

/-- The lexemes of a text, from left to right. -/
def scan (t : List Char) : List Lexeme :=
  scanAfter [] t

/-- A comma stands close behind a run; all other neighbours are one space apart. -/
def gap : Lexeme → Lexeme → List Char
  | run _, op .comma => []
  | _, _ => [' ']

/-- Lexemes written behind another one. -/
def renderAfter (last : Lexeme) : List Lexeme → List Char
  | [] => []
  | l :: ls => gap last l ++ l.text ++ renderAfter l ls

/-- Lexemes written out with the spacing of the canonical form. -/
def render : List Lexeme → List Char
  | [] => []
  | l :: ls => l.text ++ renderAfter l ls

end Lexeme

end QueryTutor.Query
