import QueryTutor.FirstSeen
import QueryTutor.Numeral
import QueryTutor.Text.Case
import QueryTutor.Text.Piece
import QueryTutor.Text.Quoted
import QueryTutor.Value

/-!
# Settings

The settings of an installation, read from environment variables.
-/

namespace QueryTutor

/-- Where an installation runs. -/
inductive Environment where
  | dev
  | uat
  | prod
  | desktop
  deriving DecidableEq, Repr

/-- The name of an environment. -/
def Environment.name : Environment → String
  | dev => "dev"
  | uat => "uat"
  | prod => "prod"
  | desktop => "local"

/-- The settings of an installation. -/
structure Settings where
  environment : Environment
  maxQueryLength : Int
  heuristicChecks : Bool
  passingScore : Int
  frontendUrls : List String
  port : Int
  host : String
  logLevel : String
  deriving DecidableEq, Repr

namespace Settings

open Text

/-- Names and values of environment variables. -/
abbrev Variables := List (String × String)

/-- A variable that should be a whole number and is not. -/
structure NotWhole where
  value : String
  deriving DecidableEq, Repr

/-- What is wrong with the value. -/
def NotWhole.message (e : NotWhole) : String :=
  "invalid literal for int() with base 10: " ++ String.ofList (quoted e.value.toList)

/-- The value of a variable, or its default. -/
def get (vars : Variables) (name default : String) : String :=
  (vars.lookup name).getD default

/-- A variable that holds a whole number. -/
def getWhole (vars : Variables) (name default : String) : Except NotWhole Int :=
  let value := get vars name default
  match Numeral.whole? value.toList with
  | some n => .ok n
  | none => .error ⟨value⟩

/-- A variable that says yes; everything else says no. -/
def getFlag (vars : Variables) (name : String) : Bool :=
  let value := String.ofList (lower (trim (get vars name "false").toList))
  ["1", "true", "yes", "on"].contains value

/-- The environment that a variable names, in short or at length. -/
def environmentOf (vars : Variables) : Environment :=
  let value := String.ofList (lower (get vars "ENV" "local").toList)
  if ["dev", "development"].contains value then .dev
  else if ["uat", "staging"].contains value then .uat
  else if ["prod", "production"].contains value then .prod
  else .desktop

/-- The settings that the variables give. -/
def read (vars : Variables) : Except NotWhole Settings := do
  let maxQueryLength ← getWhole vars "SQLCOACH_MAX_QUERY_LENGTH" "10000"
  let passingScore ← getWhole vars "SQLCOACH_PASSING_SCORE" "70"
  let port ← getWhole vars "PORT" "5000"
  let parts := (pieces ',' (get vars "FRONTEND_URLS" "").toList).map trim
  return {
    environment := environmentOf vars
    maxQueryLength
    heuristicChecks := getFlag vars "SQLCOACH_HEURISTIC_CHECKS"
    passingScore
    frontendUrls := (parts.filter fun u => !u.isEmpty).map String.ofList
    port
    host := get vars "HOST" "0.0.0.0"
    logLevel := String.ofList (upper (get vars "LOG_LEVEL" "INFO").toList) }

/-- The addresses of a development machine. -/
def localOrigins : List String :=
  ["http://localhost:5000", "http://localhost:3000", "http://127.0.0.1:5000",
    "http://127.0.0.1:3000"]

/-- The addresses that may ask, in ascending order and without repeats. -/
def origins (s : Settings) : List String :=
  let all := s.frontendUrls ++ if s.environment = .desktop then localOrigins else []
  (firstSeen all).mergeSort fun a b => !(decide (b < a))

/-- The names of log levels. -/
def logLevels : List String :=
  ["DEBUG", "INFO", "WARNING", "ERROR", "CRITICAL"]

/-- Everything that is wrong with the settings. -/
def problems (s : Settings) : List String :=
  (if s.maxQueryLength ≤ 0 then ["SQLCOACH_MAX_QUERY_LENGTH must be positive"] else [])
    ++ (if 0 ≤ s.passingScore ∧ s.passingScore ≤ 100 then []
      else ["SQLCOACH_PASSING_SCORE must be between 0 and 100"])
    ++ (if logLevels.contains s.logLevel then []
      else ["LOG_LEVEL " ++ String.ofList (quoted s.logLevel.toList) ++ " is not a logging level"])
    ++ (if 0 < s.port ∧ s.port < 65536 then [] else ["PORT must be between 1 and 65535"])

/-- What an administrator is told if something is wrong. -/
def complaint? (s : Settings) : Option String :=
  if s.problems.isEmpty then none
  else
    some ("Configuration validation failed:\n" ++ "\n".intercalate (s.problems.map ("  - " ++ ·)))

/-- The settings as they are shown to an administrator. -/
def summary (s : Settings) : Value :=
  .object
    [("environment", .string s.environment.name),
      ("max_query_length", .whole s.maxQueryLength),
      ("heuristic_checks", .bool s.heuristicChecks),
      ("passing_score", .whole s.passingScore),
      ("cors_origins", .whole s.origins.length),
      ("log_level", .string s.logLevel),
      ("host", .string s.host),
      ("port", .whole s.port)]

end Settings

end QueryTutor
