import QueryTutor.Text.Piece

/-!
# Routes

What can be asked of the service, and how paths are understood.
-/

namespace QueryTutor.Service

/-- What can be asked for. -/
inductive Route where
  | validate
  | mistakes
  | mistake (id : String)
  | samples
  | sample (slug : String)
  | validateSample (slug : String)
  | health
  deriving DecidableEq, Repr

/-- The ways in which a path can be understood, in order of precedence, with the method that each
requires. -/
def routes (path : List String) : List (String × Route) :=
  match path with
  | ["health"] => [("GET", .health)]
  | ["api", "exercises"] => [("GET", .samples)]
  | ["api", "exercises", a] =>
    (if a == "validate" then [("POST", .validate)] else [])
      ++ (if a == "mistakes" then [("GET", .mistakes)] else [])
      ++ (if a.isEmpty then [] else [("GET", .sample a)])
  | ["api", "exercises", a, b] =>
    (if a == "mistakes" && !b.isEmpty then [("GET", .mistake b)] else [])
      ++ (if b == "validate" && !a.isEmpty then [("POST", .validateSample a)] else [])
  | _ => []

/-- The ways in which a path can be understood.  Slashes at its end are left out if it makes no
sense with them. -/
def routesOf (path : String) : List (String × Route) :=
  let parts := fun t : List Char => ((Text.pieces '/' t).drop 1).map String.ofList
  let t := path.toList
  let found := routes (parts t)
  if found.isEmpty then routes (parts (t.reverse.dropWhile (· == '/')).reverse) else found

end QueryTutor.Service
