import QueryTutor.Text.Quoted

/-!
# Faults of patterns

What can be wrong with the text of a pattern, at which place, and how an author is told.
-/

namespace QueryTutor.Pattern

open Text

/-- What is wrong with the text of a pattern. -/
inductive Fault where
  | escapeAtEnd
  | badEscape (escape : List Char)
  | incompleteEscape (escape : List Char)
  | octalTooLarge (escape : List Char)
  | missingBrace
  | unknownCharacter (name : List Char)
  | missingName (what : String)
  | unterminatedName (terminator : Char)
  | badName (name : List Char)
  | unknownName (name : List Char)
  | redefinedName (name : List Char) (index earlier : Nat)
  | openGroup
  | groupInLookbehind
  | invalidReference (group : Nat)
  | badGroupNumber
  | unexpectedEnd
  | unknownExtension (extension : List Char)
  | unterminatedComment
  | unterminatedGroup
  | unbalanced
  | tooManyBranches
  | unterminatedSet
  | badRange (lo hi : List Char)
  | nothingToRepeat
  | multipleRepeat
  | leastAboveMost
  | localeFlag
  | clashingFlags
  | unknownFlag
  | missingFlagEnd
  | missingFlag
  | missingColon
  | globalFlagOn
  | globalFlagOff
  | typeFlagOff
  | flagOnAndOff
  | lateGlobalFlags
  | lookbehindWidth
  | lookbehindFar
  | templateRepeat (kind : String)
  deriving DecidableEq, Repr

/-- A text in the middle of a message. -/
private def shown (t : List Char) : String :=
  String.ofList t

/-- What an author is told, the place apart. -/
def Fault.message : Fault → String
  | escapeAtEnd => "bad escape (end of pattern)"
  | badEscape e => "bad escape " ++ shown e
  | incompleteEscape e => "incomplete escape " ++ shown e
  | octalTooLarge e => "octal escape value " ++ shown e ++ " outside of range 0-0o377"
  | missingBrace => "missing \x7b"
  | unknownCharacter n => "undefined character name " ++ shown (quoted n)
  | missingName what => "missing " ++ what
  | unterminatedName t => "missing " ++ t.toString ++ ", unterminated name"
  | badName n => "bad character in group name " ++ shown (quoted n)
  | unknownName n => "unknown group name " ++ shown (quoted n)
  | redefinedName n index earlier =>
    "redefinition of group name " ++ shown (quoted n) ++ " as group " ++ toString index
      ++ "; was group " ++ toString earlier
  | openGroup => "cannot refer to an open group"
  | groupInLookbehind => "cannot refer to group defined in the same lookbehind subpattern"
  | invalidReference n => "invalid group reference " ++ toString n
  | badGroupNumber => "bad group number"
  | unexpectedEnd => "unexpected end of pattern"
  | unknownExtension e => "unknown extension " ++ shown e
  | unterminatedComment => "missing ), unterminated comment"
  | unterminatedGroup => "missing ), unterminated subpattern"
  | unbalanced => "unbalanced parenthesis"
  | tooManyBranches => "conditional backref with more than two branches"
  | unterminatedSet => "unterminated character set"
  | badRange lo hi => "bad character range " ++ shown lo ++ "-" ++ shown hi
  | nothingToRepeat => "nothing to repeat"
  | multipleRepeat => "multiple repeat"
  | leastAboveMost => "min repeat greater than max repeat"
  | localeFlag => "bad inline flags: cannot use 'L' flag with a str pattern"
  | clashingFlags => "bad inline flags: flags 'a', 'u' and 'L' are incompatible"
  | unknownFlag => "unknown flag"
  | missingFlagEnd => "missing -, : or )"
  | missingFlag => "missing flag"
  | missingColon => "missing :"
  | globalFlagOn => "bad inline flags: cannot turn on global flag"
  | globalFlagOff => "bad inline flags: cannot turn off global flag"
  | typeFlagOff => "bad inline flags: cannot turn off flags 'a', 'u' and 'L'"
  | flagOnAndOff => "bad inline flags: flag turned on and off"
  | lateGlobalFlags => "global flags not at the start of the expression"
  | lookbehindWidth => "look-behind requires fixed-width pattern"
  | lookbehindFar => "looks too much behind"
  | templateRepeat kind => "internal: unsupported template operator " ++ kind

/-- Why a text is no pattern.  A count of repeats beyond all bounds and switches that exclude each
other are no faults of a place and are told apart from those. -/
inductive Error where
  | malformed (fault : Fault) (position : Option Nat)
  | countTooLarge
  | exclusiveFlags
  deriving DecidableEq, Repr

/-- The line and column of a place, both counted from one. -/
def lineAndColumn (source : List Char) (position : Nat) : Nat × Nat :=
  let front := source.take position
  (front.count '\n' + 1, (front.reverse.takeWhile (· != '\n')).length + 1)

/-- Where a fault is; the line is given when the pattern has more than one. -/
def placeMessage (source : List Char) (position : Nat) : String :=
  let (line, column) := lineAndColumn source position
  " at position " ++ toString position
    ++ (if source.contains '\n' then
      " (line " ++ toString line ++ ", column " ++ toString column ++ ")"
    else "")

/-- What an author is told about the pattern `source`. -/
def Error.message (source : List Char) : Error → String
  | malformed fault (some position) => fault.message ++ placeMessage source position
  | malformed fault none => fault.message
  | countTooLarge => "the repetition number is too large"
  | exclusiveFlags => "ASCII and UNICODE flags are incompatible"

end QueryTutor.Pattern
