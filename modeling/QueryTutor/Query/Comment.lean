import QueryTutor.Query.Canonical
import QueryTutor.Query.Outline.Build
import QueryTutor.Query.Token.Scan

/-!
# Comments

Taking the comments out of a query.  Each statement is treated by itself: a comment at the front of
its group or behind an opening parenthesis leaves nothing, any other one leaves white space, and a
hint stays unless a comment stands before it.
-/

namespace QueryTutor.Query

open Text

namespace Node

/-- A comment that is to go: no hint, and no run of comments that a hint opens. -/
def isComment : Node → Bool
  | .leaf t => t.kind == .comment
  | .group g ns => g == .remark && !ns.head?.any (isLeafOf [.hint])

/-- The white space that a comment leaves: the line breaks it ends in, if there are any. -/
def spaceFor (comment : Node) : Node :=
  let isBreak := fun c => c == '\r' || c == '\n'
  let breaks := ((comment.text.reverse.dropWhile (· == ' ')).takeWhile isBreak).reverse
  .leaf (if breaks.isEmpty then ⟨.blank, [' ']⟩ else ⟨.lineBreak, breaks⟩)

/-- The nodes kept so far, last first, with what a comment behind them leaves. -/
def leave (kept : List Node) (comment : Node) : List Node :=
  match kept with
  | [] => []
  | last :: _ => if last.isLeafOf [.opening] then kept else spaceFor comment :: kept

mutual

/-- The node without the comments in its groups. -/
def strip : Node → Node
  | .leaf t => .leaf t
  | .group g ns => .group g (stripAfter [] ns)

/-- The nodes without their comments behind those kept so far, which are last first. -/
def stripAfter (kept : List Node) : List Node → List Node
  | [] => kept.reverse
  | n :: ns =>
    let bare := n.strip
    if bare.isComment then stripAfter (leave kept n) ns else stripAfter (bare :: kept) ns

end

end Node

/-- More nodes than this are not looked into. -/
def maxNodes : Nat := 10000

/-- Deeper nesting than this is not looked into. -/
def maxNesting : Nat := 100

namespace Statement

/-- The statement without its comments, unless it is too large or nests too deep. -/
def strip? (s : Statement) : Option (List Node) :=
  let gathered := Node.gather s
  if gathered.length > maxNodes then none
  else
    let ns := Node.outline gathered
    if Node.depthOf ns > maxNesting then none else some (Node.stripAfter [] ns)

/-- The lines of a text, where `line` holds the characters of the current one, last first. -/
def breakAfter (line : List Char) : List Char → List (List Char)
  | [] => [line.reverse]
  | '\r' :: '\n' :: r => line.reverse :: breakAfter [] r
  | c :: r =>
    if c == '\r' || c == '\n' then line.reverse :: breakAfter [] r else breakAfter (c :: line) r

/-- A text no line of which ends in white space. -/
def trimLines (t : List Char) : List Char :=
  ['\n'].intercalate ((breakAfter [] t).map trimRight)

end Statement

/-- The query without its comments, or as it is when one of its statements is too large or nests too
deep. -/
def withoutComments (raw : List Char) : List Char :=
  match (Statement.split (Token.scan raw)).mapM Statement.strip? with
  | some statements => statements.flatMap fun ns => Statement.trimLines (Node.textOf ns)
  | none => raw

/-- The canonical form of a query without its comments, on which all comparisons work. -/
def prepared (raw : List Char) : List Char :=
  canonical (withoutComments raw)

/-- The query without its comments on one line, for display. -/
def collapsed (raw : List Char) : List Char :=
  trim (squeeze (withoutComments raw))

end QueryTutor.Query
