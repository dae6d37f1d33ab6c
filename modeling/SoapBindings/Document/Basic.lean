/-
# `SoapBindings.Document.Basic` — loaded documents

A loaded document is its own definitions together with the registry of all schemas that they refer
to.  The registry keeps schemas in the order in which they were discovered, one to an identifier.
-/
import SoapBindings.Wsdl

namespace SoapBindings

/-- What a document is expected to be. -/
inductive DocumentKind where
  | wsdl
  | xsd
  deriving DecidableEq, Repr

/-- The package of the types that a service description declares itself. -/
def basePackage : String := "basetypes"

/-- Schemas in the order of their discovery. -/
structure Registry where
  schemas : List Xsd.Schema := []

namespace Registry

def get? (r : Registry) (identifier : String) : Option Xsd.Schema :=
  r.schemas.find? (·.identifier == identifier)

def contains (r : Registry) (identifier : String) : Bool :=
  r.schemas.any (·.identifier == identifier)

def identifiers (r : Registry) : List String := r.schemas.map (·.identifier)

def size (r : Registry) : Nat := r.schemas.length

/-- The registry with a schema added at its end, unless its identifier is known. -/
def insert (r : Registry) (schema : Xsd.Schema) : Registry :=
  if r.contains schema.identifier then r else { schemas := r.schemas ++ [schema] }

end Registry

structure Document where
  kind : DocumentKind
  location : Option Url
  /-- The package of the document's own schemas. -/
  rootPackage : String
  definitions : Wsdl.Definitions
  registry : Registry

namespace Document

/-- All schemas, the document's own first. -/
def schemas (d : Document) : List Xsd.Schema := d.definitions.schemas ++ d.registry.schemas

/-- The packages in the order in which they are generated. -/
def packages (d : Document) : List String :=
  d.rootPackage :: d.registry.identifiers.filter (· != d.rootPackage)

/-- The schemas whose definitions go into a package. -/
def schemasIn (d : Document) (package : String) : List Xsd.Schema :=
  d.schemas.filter (·.identifier == package)

end Document

end SoapBindings
