/-
# `SoapBindings.Resolution` — what references stand for

A reference names a builtin type or a definition of the document.  An element with a type of its own
stands for that type.  What is found is written by its bare name in its own package and behind its
module anywhere else, so the place where a reference is written decides on its form.

A reference to nothing is taken for a definition of the package at hand, or of the root package
where there is none.
-/
import SoapBindings.Scalar
import SoapBindings.Symbols

namespace SoapBindings

open Xsd

/-- A type as it is referred to from some package. -/
inductive TypeRef where
  | builtin (scalar : Scalar)
  /-- A type of the package at hand. -/
  | own (name : String) (kind : Option SymbolKind)
  | foreign (package name : String) (kind : Option SymbolKind)
  deriving DecidableEq, Repr

namespace TypeRef

def name? : TypeRef → Option String
  | builtin _ => none
  | own name _ => some name
  | foreign _ name _ => some name

def kind? : TypeRef → Option SymbolKind
  | builtin _ => none
  | own _ kind => kind
  | foreign _ _ kind => kind

/-- The type is a record, which a field holds behind a pointer. -/
def isRecord : TypeRef → Bool
  | builtin _ => false
  | t => t.kind? != some .simpleType

end TypeRef

/-! ## Contexts -/

/-- The package that is being written, what it refers to and what it has declared.  Without a
package, every type of the document is foreign. -/
structure Context where
  package : Option String := none
  /-- Foreign packages in use, in order. -/
  imports : List String := []
  emitted : List String := []

/-- Put a text into an ordered list of texts, once. -/
def insertSorted (xs : List String) (x : String) : List String :=
  match xs with
  | [] => [x]
  | y :: ys => if x = y then xs else if x < y then x :: xs else y :: insertSorted ys x

namespace Context

/-- A context for the same package that has seen nothing. -/
def sibling (c : Context) : Context := { package := c.package }

def isEmitted (c : Context) (name : String) : Bool := c.emitted.contains name

def markEmitted (c : Context) (name : String) : Context :=
  if c.isEmitted name then c else { c with emitted := name :: c.emitted }

/-- Take note of the package that a reference leads to. -/
def note (c : Context) (t : TypeRef) : Context :=
  match t with
  | .foreign package _ _ => { c with imports := insertSorted c.imports package }
  | _ => c

end Context

/-! ## Resolution -/

structure Resolver where
  symbols : SymbolTable
  rootPackage : String

namespace Resolver

def ofDocument (d : Document) : Resolver :=
  { symbols := .ofDocument d, rootPackage := d.rootPackage }

/-- A definition as it is referred to from a package. -/
def reference (package : Option String) (s : Symbol) : TypeRef :=
  let name := Naming.typeName s.name
  if package = some s.package then .own name (some s.definition.kind)
  else .foreign s.package name (some s.definition.kind)

/-- What a name stands for that names nothing. -/
def fallback (r : Resolver) (package : Option String) (bare : String) : TypeRef :=
  let name := Naming.typeName bare
  match package with
  | some _ => .own name none
  | none => .foreign r.rootPackage name none

/-- The type that a `type` or `base` names: only simple and complex types count. -/
def resolveType (r : Resolver) (package : Option String) (name : String) : TypeRef :=
  let bare := Naming.localName name
  match Scalar.ofBuiltin? bare with
  | some scalar => .builtin scalar
  | none =>
    match r.symbols.types.find? bare with
    | some s => reference package s
    | none => r.fallback package bare

/-- What a definition stands for: an element with a type stands for the type. -/
def ofSymbol (r : Resolver) (package : Option String) (s : Symbol) : TypeRef :=
  match s.definition with
  | .element e =>
    match e.type with
    | some type => r.resolveType package type
    | none => reference package s
  | _ => reference package s

/-- The type that any reference stands for. -/
def resolve (r : Resolver) (package : Option String) (name : String) : TypeRef :=
  let bare := Naming.localName name
  match Scalar.ofBuiltin? bare with
  | some scalar => .builtin scalar
  | none =>
    match r.symbols.all.find? bare with
    | some s => r.ofSymbol package s
    | none => r.fallback package bare

/-- The type of the element that a `ref` or a message part names. -/
def resolveElement (r : Resolver) (package : Option String) (name : String) : TypeRef :=
  match r.symbols.elements.find? (Naming.localName name) with
  | some s => r.ofSymbol package s
  | none => r.resolve package name

/-! ## Definitions -/

/-- The complex type that a `type` or `base` names, with its declared name. -/
def baseType? (r : Resolver) (name : String) : Option (String × ComplexType) :=
  let bare := Naming.localName name
  if (Scalar.ofBuiltin? bare).isSome then none
  else match r.symbols.types.find? bare with
  | some s =>
    match s.definition with
    | .complexType t => some (s.name, t)
    | _ => none
  | none => none

/-- The complex type whose content a record for any reference carries, with its declared name. -/
def complexType? (r : Resolver) (name : String) : Option (String × ComplexType) :=
  let bare := Naming.localName name
  if (Scalar.ofBuiltin? bare).isSome then none
  else match r.symbols.all.find? bare with
  | some s =>
    match s.definition with
    | .element e =>
      match e.type with
      | some type => r.baseType? type
      | none => e.complexType.map fun t => (s.name, t)
    | .complexType t => some (s.name, t)
    | _ => none
  | none => none

def attributeGroup? (r : Resolver) (name : String) : Option AttributeGroup :=
  match r.symbols.attributeGroups.find? (Naming.localName name) with
  | some s =>
    match s.definition with
    | .attributeGroup g => some g
    | _ => none
  | none => none

def group? (r : Resolver) (name : String) : Option Group :=
  (r.symbols.groups.find? (Naming.localName name)).map (·.2)

/-- The target namespace of the schema that declares an element. -/
def elementNamespace? (r : Resolver) (name : String) : Option String :=
  (r.symbols.elements.find? (Naming.localName name)).bind (·.targetNamespace)

end Resolver

end SoapBindings
