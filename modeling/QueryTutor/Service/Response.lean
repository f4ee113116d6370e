import QueryTutor.Exercise.Reading
import QueryTutor.Exercise.Sample
import QueryTutor.Service.Body
import QueryTutor.Service.Route
import QueryTutor.Validation

/-!
# Responses

Answering requests: validating queries, and listing mistakes and sample exercises.
-/

namespace QueryTutor.Service

open Reading

/-- A request with its query parameters and its body, if it has one. -/
structure Request where
  method : String
  path : String
  params : List (String × String)
  body : Option Value

/-- What is sent back, and how it went. -/
structure Response where
  status : Nat
  body : Body

/-- The version of the service. -/
def version : String := "1.0.0"

/-- A text sent back because something was not found or not allowed. -/
def refuse (status : Nat) (text : String) : Response :=
  ⟨status, .detail text⟩

/-- What has been read, or a response that lists the problems. -/
def answering {α : Type} (source : String) (x : Reading α) (k : α → Response) :
    Except Pattern.Error Response :=
  match under source x with
  | .ok a => .ok (k a)
  | .error (.problems ps) => .ok ⟨422, .problems ps⟩
  | .error (.stopped e) => .error e

/-- The body of a request. -/
def bodyOf {α : Type} (body : Option Value) (read : Value → Reading α) : Reading α :=
  match body with
  | some v => read v
  | none => problem .missing

/-- The query in a request. -/
def queryOf (fields : List (String × Value)) : Reading String :=
  withDefault fields (key "query") "" string

/-- A query parameter that names one of a few things. -/
def paramOf {α : Type} (params : List (String × String)) (name : String)
    (read : Value → Reading α) : Reading (Option α) :=
  match params.lookup name with
  | some s => under name (some <$> read (.string s))
  | none => pure none

/-- The mistakes that a category and a severity leave. -/
def choose (c : Catalog) (k : Option Category) (s : Option Severity) : List Mistake :=
  c.mistakes.filter fun d => k.all (d.category == ·) && s.all (d.severity == ·)

/-- The response of an installation with this catalog and these options. -/
def serve (c : Catalog) (o : Options) (r : Request) : Route → Except Pattern.Error Response
  | .health => .ok ⟨200, .health version⟩
  | .samples => .ok ⟨200, .samples Exercise.Sample.all⟩
  | .sample slug => .ok (match Exercise.Sample.named? slug with
    | some e => ⟨200, .sample slug e⟩
    | none => refuse 404 ("Exercise '" ++ slug ++ "' not found"))
  | .mistakes =>
    answering "query"
      (Prod.mk <$> paramOf r.params "category" (oneOf Category.all Category.name)
        <*> paramOf r.params "severity" (oneOf Severity.all Severity.name))
      fun (k, s) => ⟨200, .mistakes (choose c k s)⟩
  | .mistake id => .ok (match c.get? id with
    | some d => ⟨200, .mistake d⟩
    | none => refuse 404 ("Mistake '" ++ id ++ "' not found"))
  | .validate =>
    answering "body"
      (bodyOf r.body (object fun fields =>
        Prod.mk <$> queryOf fields <*> required fields (key "exercise") Exercise.read))
      fun (q, e) => ⟨200, .report (validate c o q e)⟩
  | .validateSample slug =>
    answering "body" (bodyOf r.body (object queryOf)) fun q =>
      match Exercise.Sample.named? slug with
      | some e => ⟨200, .report (validate c o q e)⟩
      | none => refuse 404 ("Exercise '" ++ slug ++ "' not found")

/-- The response to a request. -/
def respond (c : Catalog) (o : Options) (r : Request) : Except Pattern.Error Response :=
  let routes := routesOf r.path
  match routes.find? (·.1 == r.method) with
  | some (_, route) => serve c o r route
  | none =>
    .ok (if routes.isEmpty then refuse 404 "Not Found" else refuse 405 "Method Not Allowed")

end QueryTutor.Service
