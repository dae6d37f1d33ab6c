/-
# `SoapBindings.Emission.Schema` — the declarations of a schema

The named definitions of a schema are declared by kind: simple types, complex types, elements and
attribute groups.  What has a name that is taken in its package is skipped.
-/
import SoapBindings.Emission.Bound
import SoapBindings.Emission.Expansion

namespace SoapBindings.Emission

open Xsd

/-- An element with a type of its own.  Nothing is declared where the type has the element's name
already; a record with the same content, where that is known, or else another name for the type. -/
def typedElement (r : Resolver) (self : Expansion) (xmlName type : String)
    (documentation : Option String) : Emitter (Option Code.Declaration) := do
  let name := Naming.typeName xmlName
  let context := (← get).context
  if context.isEmitted name then return none
  let target := r.resolve context.package type
  let itself := match target with
    | .own own _ => own == name
    | _ => false
  if itself then return none
  modify fun s => { s with context := s.context.markEmitted name }
  if !target.isRecord then
    let target ← refer (r.resolve · type)
    return some (record name xmlName documentation (Fields.addText {} target))
  match r.complexType? type with
  | some (declared, type) =>
    let fields ← inline self declared type {}
    return some (record name xmlName documentation (fields.getD {}))
  | none =>
    let target ← refer (r.resolve · type)
    return some (.synonym { name, target, documentation := documentation.toList })

/-- Declare an element by what it says about its content. -/
def globalElement (r : Resolver) (self : Expansion) (e : Element) :
    Emitter (Option Code.Declaration) := do
  match e.name with
  | none => return none
  | some xmlName =>
    let name := Naming.typeName xmlName
    match e.type, e.complexType, e.simpleType with
    | some type, _, _ => typedElement r self xmlName type e.documentation
    | none, some type, _ =>
      complexType self name xmlName type (type.documentation <|> e.documentation)
    | none, none, some type =>
      simpleType r name type (type.documentation <|> e.documentation)
    | none, none, none =>
      if ← claim name then return some (record name xmlName e.documentation {}) else return none

def globalSimpleType (r : Resolver) (type : SimpleType) : Emitter (Option Code.Declaration) :=
  match type.name with
  | none => return none
  | some name => simpleType r (Naming.typeName name) type type.documentation

def globalComplexType (self : Expansion) (type : ComplexType) :
    Emitter (Option Code.Declaration) :=
  match type.name with
  | none => return none
  | some name => complexType self (Naming.typeName name) name type type.documentation

/-- An attribute group becomes a record of its attributes. -/
def globalAttributeGroup (self : Expansion) (g : AttributeGroup) :
    Emitter (Option Code.Declaration) := do
  match g.name with
  | none => return none
  | some xmlName =>
    let name := Naming.typeName xmlName
    if !(← claim name) then return none
    let outer := (← get).attributeGroups
    modify fun s => { s with attributeGroups := Text.lowercaseText xmlName :: outer }
    let fields ← self (.attributes name g.attributes g.attributeGroups) {}
    modify fun s => { s with attributeGroups := s.attributeGroups.tail }
    return some (record name xmlName g.documentation fields)

/-- Declare the definitions of a schema in order. -/
def schema (r : Resolver) (self : Expansion) (s : Schema) : Emitter PUnit := do
  s.simpleTypes.forM (globalSimpleType r · >>= declare)
  s.complexTypes.forM (globalComplexType self · >>= declare)
  s.elements.forM (globalElement r self · >>= declare)
  s.attributeGroups.forM (globalAttributeGroup self · >>= declare)

/-- What a message part stands for, and as which element it is sent. -/
def messagePart (r : Resolver) (part : Wsdl.Part) (targetNamespace : String) :
    Emitter Code.Request := do
  match part.element, part.type with
  | some element, _ =>
    return {
      type := ← refer (r.resolveElement · element)
      root := Naming.localName element
      targetNamespace := (r.elementNamespace? element).getD targetNamespace }
  | none, some type =>
    return { type := ← refer (r.resolveType · type), root := part.name, targetNamespace }
  | none, none => return { type := plainText, root := part.name, targetNamespace }

end SoapBindings.Emission
