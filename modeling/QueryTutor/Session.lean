import QueryTutor.Validation

/-!
# Sessions

A validator whose catalog and options can be changed between queries.
-/

namespace QueryTutor

/-- The catalog and options that the next query is validated with. -/
structure Session where
  catalog : Catalog := Catalog.standard
  options : Options := {}

namespace Session

/-- What is offered as a catalog: one, or a thing of another kind. -/
inductive Offer where
  | catalog (c : Catalog)
  | other (kind : String)

/-- Why an offer is turned down. -/
inductive Error where
  | unusable (kind : String)
  | notInstallable
  deriving DecidableEq, Repr

/-- What is said about an offer that is turned down. -/
def Error.message : Error → String
  | unusable kind => "Expected a MistakeCatalog or CatalogRegistry, got " ++ kind
  | notInstallable => "Only a MistakeCatalog can be installed"

/-- A session with the catalog that is offered. -/
def start (offer : Offer) (o : Options) : Except Error Session :=
  match offer with
  | .catalog c => .ok ⟨c, o⟩
  | .other kind => .error (.unusable kind)

/-- The catalog so far, and the session with the one that is offered. -/
def swap (s : Session) (offer : Offer) : Except Error (Catalog × Session) :=
  match offer with
  | .catalog c => .ok (s.catalog, { s with catalog := c })
  | .other _ => .error .notInstallable

/-- The session with other options. -/
def configure (s : Session) (o : Options) : Session :=
  { s with options := o }

/-- The report on a raw query. -/
def validate (s : Session) (raw : String) (e : Exercise) : Report :=
  QueryTutor.validate s.catalog s.options raw e

end Session

end QueryTutor
