/-
# `SoapBindings.Generation` — the code of a document

A document becomes one module to a package, with its types, and one module with the clients of its
services if it describes any.  The clients own no types: whatever they use is imported.

Names come from the document, and some of them are no identifiers.  Code with such a name cannot be
written; types are looked at before clients.
-/
import SoapBindings.Code.Tokens
import SoapBindings.Emission.Client
import SoapBindings.Message.Value

namespace SoapBindings

open Code (SourceModule)

/-- The parts of the generated code. -/
inductive Part where
  | types
  | operations
  deriving DecidableEq, Repr

def Part.name : Part → String
  | types => "types"
  | operations => "operations"

inductive GenerationError where
  /-- A part uses a name that is no identifier. -/
  | invalidName (part : Part)
  /-- An expansion went deeper than its bound. -/
  | exhausted
  deriving DecidableEq, Repr

/-- How a failure reads where the parts are generated side by side. -/
def GenerationError.message : GenerationError → String
  | invalidName part => "The " ++ part.name ++ " generation task panicked"
  | exhausted => "The expansion of the document went too deep"

/-- The generated code of a document. -/
structure Generated where
  types : List SourceModule
  operations : Option SourceModule

namespace Generated

def modules (g : Generated) : List SourceModule := g.types ++ g.operations.toList

/-- The declared types, by package. -/
def messageTypes (g : Generated) : MessageTypes :=
  { packages := g.types.map fun m => (m.package, m.body.declarations) }

/-- All modules as declarations of one. -/
def inlined (g : Generated) : Code.Tokens := g.modules.flatMap (·.inlined)

end Generated

namespace Document

/-- The state of emission after all schemas of a package. -/
def emitPackage (d : Document) (r : Resolver) (package : String) : Emission :=
  let self := Emission.expand r d.expansionBound
  ((d.schemasIn package).forM (Emission.schema r self)).run
    { context := { package := some package } } |>.2

/-- The module of a package, from what was emitted for it.  Its source is the first schema that has
a location, or else the document. -/
def typesModule (d : Document) (package : String) (emission : Emission) : SourceModule :=
  { package
    source := (d.schemasIn package).findSome? (·.location) <|> d.location
    imports := emission.context.imports
    body := .types (emission.declarations.filterMap id) }

/-- The module with the clients, if the document describes any. -/
def operationsModule (d : Document) (r : Resolver) (package : String) : Option SourceModule :=
  let portTypes := d.definitions.portTypes
  if d.kind = .xsd || portTypes.isEmpty then none
  else
    let (clients, emission) := (portTypes.mapM (Emission.client r d.definitions)).run
      { context := {} }
    some {
      package
      source := d.location
      imports := emission.context.imports
      body := .clients clients }

/-- The code of a document, with its clients in a module named after `operations`. -/
def generate (d : Document) (operations : String) : Except GenerationError Generated := do
  let r := Resolver.ofDocument d
  let emissions := d.packages.map fun package => (package, d.emitPackage r package)
  if emissions.any (·.2.exhausted) then throw .exhausted
  let types := emissions.map fun (package, emission) => d.typesModule package emission
  if !types.all (·.isWellNamed) then throw (.invalidName .types)
  let clients := d.operationsModule r operations
  if !clients.toList.all (·.isWellNamed) then throw (.invalidName .operations)
  return { types, operations := clients }

end Document

end SoapBindings
