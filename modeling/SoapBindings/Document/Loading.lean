/-
# `SoapBindings.Document.Loading` — a document and everything it refers to

Loading follows two kinds of references, each depth first.  A service description imports others,
which are merged into it: the URLs met so far tell which ones to pass by.  Schemas import and
include others, which go into the registry: here the package identifiers tell, since a package is
generated from one schema.

References may lead anywhere and on for ever, so the nesting is bounded.  The bound is only
consulted for a reference that would be followed.

The caller says how a document is fetched, in a monad of its choice that can fail.
-/
import SoapBindings.Document.Basic
import SoapBindings.Document.Location
import SoapBindings.Document.Reading

namespace SoapBindings.Document

open Wsdl Xsd

variable {m : Type → Type} [Monad m] [MonadExceptOf LoadError m]

/-- The result of a step that needs nothing fetched. -/
def settle {α : Type} : Except LoadError α → m α
  | .ok a => pure a
  | .error e => throw e

/-! ## Imported service descriptions -/

/-- Fetch a service description.  Its schemas go into the base package. -/
def fetchDefinitions (fetch : Url → m Source) (url : Url) : m Definitions := do
  match ← settle (parse (← fetch url)) with
  | .definitions d =>
    let adopt := fun s : Schema => { s with identifier := basePackage, location := some url }
    return { d with schemas := d.schemas.map adopt }
  | .schema _ => throw (.invalid (.importedSchema url))

/-- Follow one import into what has been merged so far.  `deeper` merges the imports of the document
found there, and is absent at the depth limit. -/
def followImport (fetch : Url → m Source) (maxDepth : Nat)
    (deeper : Option (Definitions → Option Url → List Url → m (Definitions × List Url)))
    (base : Option Url) (merged : Definitions × List Url) (found : Wsdl.Import) :
    m (Definitions × List Url) := do
  let (d, seen) := merged
  let referrer := (base.map Url.toText).getD ""
  let url ← settle (resolveLocation found.location base referrer)
  if seen.contains url then return (d, seen)
  match deeper with
  | none => throw (.recursionLimit found.location maxDepth)
  | some deeper =>
    let (imported, seen) ← deeper (← fetchDefinitions fetch url) (some url) (url :: seen)
    return (d.merge imported, seen)

/-- Merge into a service description everything that it imports, `levels` deep.  `seen` holds the
URLs that have been met. -/
def mergeImports (fetch : Url → m Source) (maxDepth : Nat) :
    Nat → Definitions → Option Url → List Url → m (Definitions × List Url)
  | 0, d, base, seen =>
    d.imports.foldlM (followImport fetch maxDepth none base) ({ d with imports := [] }, seen)
  | levels + 1, d, base, seen =>
    d.imports.foldlM (followImport fetch maxDepth (some (mergeImports fetch maxDepth levels)) base)
      ({ d with imports := [] }, seen)

/-! ## Referenced schemas -/

/-- How far the schemas have been followed: the identifiers met and the schemas found. -/
structure Discovery where
  seen : List String := []
  registry : Registry := {}

/-- Fetch the schema of a package. -/
def fetchSchema (fetch : Url → m Source) (identifier : String) (url : Url) : m Schema := do
  match ← settle (parse (← fetch url)) with
  | .schema s => return { s with identifier, location := some url }
  | .definitions _ => throw (.invalid (.referencedService url))

/-- Follow one reference.  `deeper` follows the references of the schema found there, and is absent
at the depth limit. -/
def followReference (fetch : Url → m Source) (maxDepth : Nat)
    (deeper : Option (List String → Option Url → String → Discovery → m Discovery))
    (base : Option Url) (referrer : String) (found : Discovery) (location : String) :
    m Discovery := do
  let identifier := schemaIdentifier location
  if found.seen.contains identifier then return found
  match deeper with
  | none => throw (.recursionLimit location maxDepth)
  | some deeper =>
    let url ← settle (resolveLocation location base referrer)
    let schema ← fetchSchema fetch identifier url
    deeper schema.references (some url) url.toText
      { seen := identifier :: found.seen, registry := found.registry.insert schema }

/-- Discover everything that some references lead to, `levels` deep. -/
def followReferences (fetch : Url → m Source) (maxDepth : Nat) :
    Nat → List String → Option Url → String → Discovery → m Discovery
  | 0, locations, base, referrer, found =>
    locations.foldlM (followReference fetch maxDepth none base referrer) found
  | levels + 1, locations, base, referrer, found =>
    locations.foldlM
      (followReference fetch maxDepth (some (followReferences fetch maxDepth levels)) base referrer)
      found

/-- Discover what the document's own schemas refer to. -/
def discover (fetch : Url → m Source) (maxDepth : Nat) (rootPackage : String)
    (schemas : List Schema) (found : Discovery) : m Discovery :=
  schemas.foldlM
    (fun found schema =>
      let referrer := (schema.location.map Url.toText).getD rootPackage
      followReferences fetch maxDepth maxDepth schema.references schema.location referrer found)
    found

/-! ## Documents -/

/-- The root package and the definitions of a document of the kind that is wanted. -/
def rootDefinitions (kind : DocumentKind) (base : Option Url) (parsed : Parsed) :
    Except LoadError (String × Definitions) :=
  let own := fun (package : String) (d : Definitions) =>
    let adopt := fun s : Schema => { s with identifier := package, location := base }
    .ok (package, { d with schemas := d.schemas.map adopt })
  match kind, parsed with
  | .wsdl, .definitions d => own basePackage d
  | .xsd, .schema s =>
    own ((base.map fun url => schemaIdentifier url.pathText).getD basePackage)
      { targetNamespace := s.targetNamespace, schemas := [s] }
  | .wsdl, .schema _ => .error (.invalid .schemaForService)
  | .xsd, .definitions _ => .error (.invalid .serviceForSchema)

/-- Load a document whose content is at hand.  Without a base, no relative reference in it can be
followed. -/
def loadSource (fetch : Url → m Source) (maxDepth : Nat) (source : Source) (base : Option Url)
    (kind : DocumentKind) : m Document := do
  let (rootPackage, root) ← settle (parse source >>= rootDefinitions kind base)
  let (definitions, _) ← mergeImports fetch maxDepth maxDepth root base base.toList
  let seen := match kind with
    | .xsd => [rootPackage]
    | .wsdl => []
  let found ← discover fetch maxDepth rootPackage definitions.schemas { seen }
  return { kind, location := base, rootPackage, definitions, registry := found.registry }

/-- Load the document at a URL. -/
def loadUrl (fetch : Url → m Source) (maxDepth : Nat) (url : Url) (kind : DocumentKind) :
    m Document := do
  loadSource fetch maxDepth (← fetch url) (some url) kind

end SoapBindings.Document
