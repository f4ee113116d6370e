import QueryTutor.Text.Case

/-!
# Tokens

The smallest pieces of a raw query, each with what it is for.
-/

namespace QueryTutor.Query

open Text

/-- What a token is for. -/
inductive Token.Kind where
  | comment
  | hint
  | lineBreak
  | blank
  | name
  | quotedName
  | typeName
  | placeholder
  | number
  | hexadecimal
  | quotedText
  | taggedText
  | keyword
  | manipulation
  | definition
  | control
  | commonTable
  | ordering
  | zoneShift
  | operator
  | comparison
  | wildcard
  | assignment
  | cast
  | dot
  | semicolon
  | opening
  | closing
  | openingBracket
  | closingBracket
  | other
  deriving DecidableEq, Repr

/-- The kind of a word that the language keeps for itself. -/
def Token.Kind.isKeyword (k : Token.Kind) : Bool :=
  k == .keyword || k == .manipulation || k == .definition || k == .control || k == .commonTable
    || k == .ordering || k == .zoneShift

/-- A piece of a raw query. -/
structure Token where
  kind : Token.Kind
  text : List Char
  deriving DecidableEq, Repr

namespace Token

/-- White space of either kind. -/
def isSpace (t : Token) : Bool :=
  t.kind == .blank || t.kind == .lineBreak

/-- A comment, hints included. -/
def isRemark (t : Token) : Bool :=
  t.kind == .comment || t.kind == .hint

/-- A comment that runs to the end of its line. -/
def isLineComment (t : Token) : Bool :=
  t.kind == .comment && t.text.head? != some '/'

/-- The text of a token in capitals. -/
def capitals (t : Token) : List Char :=
  upper t.text

/-- A plain keyword that is one of the given ones. -/
def isOneOf (t : Token) (words : List String) : Bool :=
  t.kind == .keyword && words.any fun w => w.toList == t.capitals

end Token

end QueryTutor.Query
