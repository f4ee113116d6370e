import QueryTutor.Pattern.Error

/-!
# Problems

What is wrong with data from outside, and where.
-/

namespace QueryTutor

/-- What is wrong with a value. -/
inductive Problem.Cause where
  | missing
  | notString
  | notList
  | notTuple
  | notObject
  | notNumber
  | unreadableNumber
  | notBoolean
  | unreadableBoolean
  | notOneOf (names : List String)
  | refused (reason : String)
  deriving DecidableEq, Repr

/-- A problem and the way to the value that has it. -/
structure Problem where
  path : List String
  cause : Problem.Cause
  deriving DecidableEq, Repr

namespace Problem

/-- The names in quotes with `or` before the last one. -/
def alternatives : List String → String
  | [] => ""
  | [a] => "'" ++ a ++ "'"
  | [a, b] => "'" ++ a ++ "' or '" ++ b ++ "'"
  | a :: as => "'" ++ a ++ "', " ++ alternatives as

/-- What an author is told. -/
def Cause.message : Cause → String
  | missing => "Field required"
  | notString => "Input should be a valid string"
  | notList => "Input should be a valid list"
  | notTuple => "Input should be a valid tuple"
  | notObject => "Input should be a valid dictionary or object to extract fields from"
  | notNumber => "Input should be a valid number"
  | unreadableNumber => "Input should be a valid number, unable to parse string as a number"
  | notBoolean => "Input should be a valid boolean"
  | unreadableBoolean => "Input should be a valid boolean, unable to interpret input"
  | notOneOf names => "Input should be " ++ alternatives names
  | refused reason => "Value error, " ++ reason

/-- The short name of a cause. -/
def Cause.kind : Cause → String
  | missing => "missing"
  | notString => "string_type"
  | notList => "list_type"
  | notTuple => "tuple_type"
  | notObject => "model_attributes_type"
  | notNumber => "float_type"
  | unreadableNumber => "float_parsing"
  | notBoolean => "bool_type"
  | unreadableBoolean => "bool_parsing"
  | notOneOf _ => "enum"
  | refused _ => "value_error"

/-- The problem with the way to it. -/
def message (p : Problem) : String :=
  ".".intercalate p.path ++ ": " ++ p.cause.message ++ " [" ++ p.cause.kind ++ "]"

/-- The problem seen from one level further out. -/
def under (key : String) (p : Problem) : Problem :=
  { p with path := key :: p.path }

/-- All problems in one text. -/
def messages (ps : List Problem) : String :=
  "; ".intercalate (ps.map message)

end Problem

end QueryTutor
