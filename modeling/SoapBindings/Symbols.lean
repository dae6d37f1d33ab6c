/-
# `SoapBindings.Symbols` — the named definitions of a document

Definitions are found by their local names in small letters, whatever the schema they stand in.
Tables are filled in one order: the document's own schemas before the registry, within a schema
elements before simple types, complex types and attribute groups, and each kind as declared.  The
first definition under a name stays.
-/
import SoapBindings.Document.Basic
import SoapBindings.Naming

namespace SoapBindings

open Xsd

inductive SymbolKind where
  | element
  | simpleType
  | complexType
  | attributeGroup
  deriving DecidableEq, Repr

inductive Definition where
  | element (element : Element)
  | simpleType (type : SimpleType)
  | complexType (type : ComplexType)
  | attributeGroup (group : AttributeGroup)

def Definition.kind : Definition → SymbolKind
  | element _ => .element
  | simpleType _ => .simpleType
  | complexType _ => .complexType
  | attributeGroup _ => .attributeGroup

/-- A definition with the name it is declared under and the schema it stands in. -/
structure Symbol where
  name : String
  package : String
  targetNamespace : Option String
  definition : Definition

/-- Values under names.  A name is a key in small letters. -/
abbrev Table (α : Type) := List (String × α)

namespace Table

variable {α : Type}

/-- Put a value under a name, unless there is one. -/
def insertFirst (t : Table α) (name : String) (a : α) : Table α :=
  let key := Text.lowercaseText name
  if (t.lookup key).isSome then t else t ++ [(key, a)]

def find? (t : Table α) (name : String) : Option α := t.lookup (Text.lowercaseText name)

end Table

structure SymbolTable where
  /-- Definitions of every kind. -/
  all : Table Symbol := []
  elements : Table Symbol := []
  /-- Simple and complex types. -/
  types : Table Symbol := []
  attributeGroups : Table Symbol := []
  /-- Groups of elements, which are no types and have names of their own. -/
  groups : Table (String × Group) := []

/-- The named definitions of a schema, in the order in which they are entered. -/
def Xsd.Schema.symbols (schema : Schema) : List Symbol :=
  let symbol := fun (name : Option String) (definition : Definition) =>
    name.map fun name : String =>
      ({ name, package := schema.identifier, targetNamespace := schema.targetNamespace,
         definition } : Symbol)
  schema.elements.filterMap (fun e => symbol e.name (.element e)) ++
    schema.simpleTypes.filterMap (fun t => symbol t.name (.simpleType t)) ++
    schema.complexTypes.filterMap (fun t => symbol t.name (.complexType t)) ++
    schema.attributeGroups.filterMap (fun g => symbol g.name (.attributeGroup g))

namespace SymbolTable

/-- Enter a definition under its name, among all and among its like. -/
def insert (t : SymbolTable) (s : Symbol) : SymbolTable :=
  let t := { t with all := t.all.insertFirst s.name s }
  match s.definition.kind with
  | .element => { t with elements := t.elements.insertFirst s.name s }
  | .simpleType | .complexType => { t with types := t.types.insertFirst s.name s }
  | .attributeGroup => { t with attributeGroups := t.attributeGroups.insertFirst s.name s }

def insertGroup (package : String) (t : SymbolTable) (group : Group) : SymbolTable :=
  match group.name with
  | some name => { t with groups := t.groups.insertFirst name (package, group) }
  | none => t

def insertSchema (t : SymbolTable) (schema : Schema) : SymbolTable :=
  schema.groups.foldl (insertGroup schema.identifier) (schema.symbols.foldl insert t)

def ofDocument (d : Document) : SymbolTable := d.schemas.foldl insertSchema {}

end SymbolTable

end SoapBindings
