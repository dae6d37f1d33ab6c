/-
# `SoapBindings.Emission.Expansion` — the content of records

The fields of a record come from its type's content: elements, groups of elements, attributes and
their groups, and the content of the base that it extends.  `step` says what each of these tasks
adds to the fields, where parts of the content are tasks again; `expand` follows them down to a
bound.

An anonymous type becomes a declaration of its own, named after the type and the element or
attribute around it, and is declared before the record that has it.
-/
import SoapBindings.Emission.SimpleType

namespace SoapBindings.Emission

open Xsd

/-- A part of a record's content.  Each names the parent after which anonymous types are named. -/
inductive Task where
  | content (parent : String) (type : ComplexType)
  | element (parent : String) (element : Element)
  | group (parent reference : String)
  | attributes (parent : String) (attributes : List Attribute) (groups : List String)

/-- The way in which a task adds to the fields. -/
abbrev Expansion := Task → Fields → Emitter Fields

/-! ## Types -/

/-- Declare a complex type under a name.  It is expanded on its own: an anonymous type may extend a
record that is being expanded around it. -/
def complexType (self : Expansion) (name xmlName : String) (type : ComplexType)
    (documentation : Option String) : Emitter (Option Code.Declaration) := do
  if !(← claim name) then return none
  let outer := (← get).expanding
  modify fun s => { s with expanding := [name] }
  let fields ← self (.content name type) {}
  modify fun s => { s with expanding := outer }
  return some (record name xmlName documentation fields)

/-- Expand the content of another record in place: `none` if that is being expanded already. -/
def inline (self : Expansion) (declared : String) (type : ComplexType) (fields : Fields) :
    Emitter (Option Fields) := do
  let name := Naming.typeName declared
  let outer := (← get).expanding
  if outer.contains name then return none
  modify fun s => { s with expanding := name :: outer }
  let fields ← self (.content name type) fields
  modify fun s => { s with expanding := s.expanding.tail }
  return some fields

/-! ## Derivations -/

/-- One field stands for all wildcards. -/
def wildcards (wildcards : List Wildcard) (fields : Fields) : Fields :=
  if wildcards.isEmpty then fields else fields.add "any" none .wildcard

/-- What a derivation adds to its base. -/
def addition (self : Expansion) (parent : String) (d : Derivation) (fields : Fields) :
    Emitter Fields := do
  let fields ← d.elements.foldlM (fun fs e => self (.element parent e) fs) fields
  let fields ← d.groups.foldlM (fun fs g => self (.group parent g) fs) fields
  self (.attributes parent d.attributes d.attributeGroups) (wildcards d.wildcards fields)

/-- Only an extension takes over what its base has. -/
def complexContent (r : Resolver) (self : Expansion) (parent : String) (d : Derivation)
    (fields : Fields) : Emitter Fields := do
  let base := if d.kind = .extension then d.base.bind r.baseType? else none
  let fields ← match base with
    | some (name, type) => pure ((← inline self name type fields).getD fields)
    | none => pure fields
  addition self parent d fields

/-- The type of the text where the base of simple content is no complex type. -/
def textType (r : Resolver) (parent : String) (base : Option String) : Emitter TypeRef := do
  match base with
  | none => return plainText
  | some base =>
    let type ← refer (r.resolveType · base)
    let itself := match type with
      | .own name _ => name == parent
      | _ => false
    return if itself || type.isRecord then plainText else type

/-- An extended base brings a text of its own, unless it is being expanded. -/
def simpleContent (r : Resolver) (self : Expansion) (parent : String) (d : Derivation)
    (fields : Fields) : Emitter Fields := do
  let fields ← match d.base.bind r.baseType? with
    | some (name, type) =>
      if d.kind = .extension then
        pure ((← inline self name type fields).getD (fields.addText plainText))
      else pure (fields.addText plainText)
    | none => pure (fields.addText (← textType r parent d.base))
  addition self parent d fields

/-! ## Tasks -/

/-- Everything that a complex type holds. -/
def content (r : Resolver) (self : Expansion) (parent : String) (type : ComplexType)
    (fields : Fields) : Emitter Fields := do
  let fields ← match type.complexContent with
    | some d => complexContent r self parent d fields
    | none => pure fields
  let fields ← match type.simpleContent with
    | some d => simpleContent r self parent d fields
    | none => pure fields
  let fields ← (type.sequence ++ type.choice ++ type.all).foldlM
    (fun fs e => self (.element parent e) fs) fields
  let fields ← type.groups.foldlM (fun fs g => self (.group parent g) fs) fields
  let fields ← self (.attributes parent type.attributes type.attributeGroups)
    (wildcards type.wildcards fields)
  return if type.mixed then fields.addText plainText else fields

/-- The name of the anonymous type of a part. -/
def anonymousName (parent name : String) : String := parent ++ Naming.typeName name

/-- The type of an element that is declared in place. -/
def elementType (r : Resolver) (self : Expansion) (parent name : String) (e : Element) :
    Emitter TypeRef := do
  match e.type, e.complexType, e.simpleType with
  | some type, _, _ => refer (r.resolve · type)
  | none, some type, _ =>
    let anonymous := anonymousName parent name
    declare (← complexType self anonymous name type type.documentation)
    return .own anonymous (some .complexType)
  | none, none, some type =>
    let anonymous := anonymousName parent name
    declare (← simpleType r anonymous type type.documentation)
    return .own anonymous (some .simpleType)
  | none, none, none => return plainText

/-- An element becomes a field, unless it has no name at all. -/
def element (r : Resolver) (self : Expansion) (parent : String) (e : Element) (fields : Fields) :
    Emitter Fields := do
  let add := fun (name : String) (type : TypeRef) =>
    fields.add name e.documentation
      (if repeats e.maxOccurs then .elements name type else .element name type)
  match e.ref, e.name with
  | some reference, _ =>
    return add (Naming.localName reference) (← refer (r.resolveElement · reference))
  | none, some name => return add name (← elementType r self parent name e)
  | none, none => return fields

/-- A group of elements is expanded in place, unless it is being expanded. -/
def group (r : Resolver) (self : Expansion) (parent reference : String) (fields : Fields) :
    Emitter Fields := do
  let name := Naming.localName reference
  let outer := (← get).groups
  if outer.contains name then return fields
  match r.group? reference with
  | none => return fields
  | some g =>
    modify fun s => { s with groups := name :: outer }
    let fields ← g.elements.foldlM (fun fs e => self (.element parent e) fs) fields
    let fields ← g.groups.foldlM (fun fs g => self (.group parent g) fs) fields
    modify fun s => { s with groups := s.groups.tail }
    return fields

/-- The type of an attribute that is declared in place. -/
def attributeType (r : Resolver) (parent name : String) (a : Attribute) : Emitter TypeRef := do
  match a.type, a.simpleType with
  | some type, _ => refer (r.resolveType · type)
  | none, some type =>
    let anonymous := anonymousName parent name
    declare (← simpleType r anonymous type type.documentation)
    return .own anonymous (some .simpleType)
  | none, none => return plainText

/-- An attribute becomes a field.  One that is only referred to holds text. -/
def attributeField (r : Resolver) (parent : String) (fields : Fields) (a : Attribute) :
    Emitter Fields := do
  match a.name, a.ref with
  | some name, _ =>
    return fields.add name a.documentation (.attr name (← attributeType r parent name a))
  | none, some reference =>
    let name := Naming.localName reference
    return fields.add name a.documentation (.attr name plainText)
  | none, none => return fields

/-- An attribute group is expanded in place, unless it is being expanded. -/
def attributeGroup (r : Resolver) (self : Expansion) (parent : String) (fields : Fields)
    (reference : String) : Emitter Fields := do
  let name := Text.lowercaseText (Naming.localName reference)
  let outer := (← get).attributeGroups
  if outer.contains name then return fields
  match r.attributeGroup? reference with
  | none => return fields
  | some g =>
    modify fun s => { s with attributeGroups := name :: outer }
    let fields ← self (.attributes parent g.attributes g.attributeGroups) fields
    modify fun s => { s with attributeGroups := s.attributeGroups.tail }
    return fields

/-- What a task adds, when `self` does the tasks inside it. -/
def step (r : Resolver) (self : Expansion) : Expansion
  | .content parent type, fields => content r self parent type fields
  | .element parent e, fields => element r self parent e fields
  | .group parent reference, fields => group r self parent reference fields
  | .attributes parent attributes groups, fields => do
    let fields ← attributes.foldlM (attributeField r parent) fields
    groups.foldlM (attributeGroup r self parent) fields

/-- Do a task and the tasks inside it, down to a depth. -/
def expand (r : Resolver) : Nat → Task → Fields → Emitter Fields
  | 0, _, fields => do
    modify fun s => { s with exhausted := true }
    return fields
  | depth + 1, task, fields => step r (expand r depth) task fields

end SoapBindings.Emission
