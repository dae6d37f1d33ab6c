/-
# `SoapBindings.Document.Frame` — open elements of a schema or service document

While a document is read, each open element has a frame that gathers what the element holds.  An
element that means nothing where it stands has a frame too, which takes in everything below it.

`Frame.open` makes the frame of a child element; a child that is a leaf leaves its mark on its
parent there.  `Frame.close` hands what a closed element has gathered to its parent.
-/
import SoapBindings.Document.Error
import SoapBindings.Markup.Attribute
import SoapBindings.Markup.Escape
import SoapBindings.Text.Blank
import SoapBindings.Wsdl

namespace SoapBindings.Document

open Markup Xsd Wsdl

/-- What a compositor has gathered.  Compositors inside it have handed on what they held. -/
structure Particles where
  elements : List Element := []
  groups : List String := []
  wildcards : List Wildcard := []

namespace Particles

def append (p q : Particles) : Particles :=
  { elements := p.elements ++ q.elements
    groups := p.groups ++ q.groups
    wildcards := p.wildcards ++ q.wildcards }

end Particles

inductive Frame where
  | definitions
  | types
  | schema (schema : Schema)
  | element (element : Element)
  | complexType (type : ComplexType)
  | compositor (kind : CompositorKind) (particles : Particles)
  | complexContent (derivation : Option Derivation)
  | simpleContent (derivation : Option Derivation)
  | derivation (derivation : Derivation)
  | simpleType (type : SimpleType)
  | restriction (restriction : Restriction)
  | enumeration (enumeration : Enumeration)
  | union (union : UnionType)
  | attr (declared : Xsd.Attribute)
  | attributeGroup (group : AttributeGroup)
  | group (group : Group)
  | annotated (text : Option String)
  | documentation (text : String)
  | message (message : Message)
  | portType (portType : PortType)
  | operation (operation : Operation)
  | binding (binding : Binding)
  | bindingOperation (operation : BindingOperation)
  | service (service : Service)
  | port (port : Port)
  /-- An element that means nothing where it stands. -/
  | other (name : String)

/-! ## Attributes of a tag -/

variable {α : Type} [DecidableEq α] [TextUnit α]

/-- The values of some attributes of a tag, by local name. -/
abbrev Values := List (String × String)

/-- Take one attribute, if its local name is among those that are asked for.  The names of all
attributes are read, but only the values that are asked for. -/
def takeValue (names : List String) (found : Values) (item : Except AttributeFault (Attribute α)) :
    Except LoadError Values :=
  match item with
  | .error _ => .error (.malformed .badAttribute)
  | .ok a =>
    if a.isNamespace then .ok found
    else match TextUnit.decode? (localPart a.key) with
    | none => .error .badEncoding
    | some key =>
      let key := String.ofList key
      if !names.contains key then .ok found
      else match TextUnit.decode? a.value with
      | none => .error (.malformed .undecodable)
      | some value =>
        match unescape? value with
        | none => .error (.malformed .badReference)
        | some value => .ok ((key, String.ofList value) :: found)

/-- Read the attributes with the given local names; of two with one local name the later counts. -/
def readValues (names : List String) (tag : List α) : Except LoadError Values :=
  (attributes tag).foldlM (takeValue names) []

/-- A value that an element must have. -/
def required (element name : String) (values : Values) : Except LoadError String :=
  match values.lookup name with
  | some value => .ok value
  | none => .error (.missingAttribute element name)

/-- A truth value as schemas write it. -/
def isTrue (value : Option String) : Bool := value == some "true" || value == some "1"

/-! ## Single elements -/

def readSchema (tag : List α) : Except LoadError Schema := do
  let v ← readValues ["targetNamespace", "elementFormDefault"] tag
  return { targetNamespace := v.lookup "targetNamespace"
           elementFormDefault := v.lookup "elementFormDefault" }

def readElement (tag : List α) : Except LoadError Element := do
  let v ← readValues ["name", "ref", "type", "minOccurs", "maxOccurs", "nillable"] tag
  if (v.lookup "name").isNone && (v.lookup "ref").isNone then
    throw (.missingAttribute "element" "name")
  return { name := v.lookup "name", ref := v.lookup "ref", type := v.lookup "type"
           minOccurs := v.lookup "minOccurs", maxOccurs := v.lookup "maxOccurs"
           nillable := isTrue (v.lookup "nillable") }

def readComplexType (tag : List α) : Except LoadError ComplexType := do
  let v ← readValues ["name", "abstract", "mixed"] tag
  return { name := v.lookup "name", isAbstract := isTrue (v.lookup "abstract")
           mixed := isTrue (v.lookup "mixed") }

def readAttribute (tag : List α) : Except LoadError Xsd.Attribute := do
  let v ← readValues ["name", "ref", "type", "use", "default"] tag
  return { name := v.lookup "name", ref := v.lookup "ref", type := v.lookup "type"
           required := v.lookup "use" == some "required", default := v.lookup "default" }

def readWildcard (tag : List α) : Except LoadError Wildcard := do
  let v ← readValues ["namespace", "maxOccurs"] tag
  return { namespaces := v.lookup "namespace", maxOccurs := v.lookup "maxOccurs" }

def readUnion (tag : List α) : Except LoadError UnionType := do
  let v ← readValues ["memberTypes"] tag
  return { memberTypes := ((v.lookup "memberTypes").map Text.words).getD [] }

/-! ## Children that several frames take -/

def openSimpleType (tag : List α) : Except LoadError Frame := do
  let v ← readValues ["name"] tag
  return .simpleType { name := v.lookup "name" }

def openAttributeGroup (tag : List α) : Except LoadError Frame := do
  let v ← readValues ["name", "ref"] tag
  return .attributeGroup { name := v.lookup "name", ref := v.lookup "ref" }

def openGroup (tag : List α) : Except LoadError Frame := do
  let v ← readValues ["name", "ref"] tag
  return .group { name := v.lookup "name", ref := v.lookup "ref" }

def compositorKind? (name : String) : Option CompositorKind :=
  [("sequence", CompositorKind.sequence), ("choice", .choice), ("all", .all)].lookup name

/-- An attribute, or a set of them. -/
def openAttributes (name : String) (tag : List α) : Except LoadError Frame := do
  match name with
  | "attribute" => return .attr (← readAttribute tag)
  | "attributeGroup" => openAttributeGroup tag
  | _ => return .other name

/-- A group, a compositor, or an attribute. -/
def openContent (name : String) (tag : List α) : Except LoadError Frame := do
  if name == "group" then openGroup tag
  else match compositorKind? name with
  | some kind => return .compositor kind {}
  | none => openAttributes name tag

/-! ## Children by parent -/

def openInTypes (name : String) (tag : List α) : Except LoadError Frame := do
  if name == "schema" then return .schema (← readSchema tag) else return .other name

def openInSchema (schema : Schema) (name : String) (tag : List α) :
    Except LoadError (Frame × Frame) := do
  match name with
  | "import" =>
    let v ← readValues ["namespace", "schemaLocation"] tag
    let found : Xsd.Import :=
      { ofNamespace := v.lookup "namespace", schemaLocation := v.lookup "schemaLocation" }
    return (.schema { schema with imports := schema.imports ++ [found] }, .other name)
  | "include" =>
    let v ← readValues ["schemaLocation"] tag
    let location ← required "include" "schemaLocation" v
    return (.schema { schema with includes := schema.includes ++ [location] }, .other name)
  | "element" => return (.schema schema, .element (← readElement tag))
  | "complexType" => return (.schema schema, .complexType (← readComplexType tag))
  | "simpleType" => return (.schema schema, ← openSimpleType tag)
  | "group" => return (.schema schema, ← openGroup tag)
  | _ => return (.schema schema, ← openAttributes name tag)

def openInElement (name : String) (tag : List α) : Except LoadError Frame := do
  match name with
  | "complexType" => return .complexType (← readComplexType tag)
  | "simpleType" => openSimpleType tag
  | _ => return .other name

def openInComplexType (type : ComplexType) (name : String) (tag : List α) :
    Except LoadError (Frame × Frame) := do
  match name with
  | "any" =>
    let found ← readWildcard tag
    return (.complexType { type with wildcards := type.wildcards ++ [found] }, .other name)
  | "complexContent" => return (.complexType type, .complexContent none)
  | "simpleContent" => return (.complexType type, .simpleContent none)
  | _ => return (.complexType type, ← openContent name tag)

def openInDerivation (derivation : Derivation) (name : String) (tag : List α) :
    Except LoadError (Frame × Frame) := do
  if name == "any" then
    let found ← readWildcard tag
    return (.derivation { derivation with wildcards := derivation.wildcards ++ [found] },
      .other name)
  else return (.derivation derivation, ← openContent name tag)

def openInCompositor (kind : CompositorKind) (particles : Particles) (name : String)
    (tag : List α) : Except LoadError (Frame × Frame) := do
  match name with
  | "element" => return (.compositor kind particles, .element (← readElement tag))
  | "group" => return (.compositor kind particles, ← openGroup tag)
  | "any" =>
    let found ← readWildcard tag
    return (.compositor kind { particles with wildcards := particles.wildcards ++ [found] },
      .other name)
  | _ =>
    match compositorKind? name with
    | some inner => return (.compositor kind particles, .compositor inner {})
    | none => return (.compositor kind particles, .other name)

def openInGroup (name : String) : Frame :=
  match compositorKind? name with
  | some kind => .compositor kind {}
  | none => .other name

def openInContent (name : String) (tag : List α) : Except LoadError Frame := do
  match name with
  | "extension" =>
    return .derivation { kind := .extension, base := (← readValues ["base"] tag).lookup "base" }
  | "restriction" =>
    return .derivation { kind := .restriction, base := (← readValues ["base"] tag).lookup "base" }
  | _ => return .other name

def openInSimpleType (type : SimpleType) (name : String) (tag : List α) :
    Except LoadError (Frame × Frame) := do
  match name with
  | "restriction" =>
    let v ← readValues ["base"] tag
    return (.simpleType type, .restriction { base := v.lookup "base" })
  | "union" => return (.simpleType type, .union (← readUnion tag))
  | "list" =>
    let v ← readValues ["itemType"] tag
    return (.simpleType { type with list := some ((v.lookup "itemType").getD "string") },
      .other name)
  | _ => return (.simpleType type, .other name)

/-- Every element in a restriction that has a value is a facet, whatever its name. -/
def openInRestriction (restriction : Restriction) (name : String) (tag : List α) :
    Except LoadError (Frame × Frame) := do
  let v ← readValues ["value"] tag
  if name == "enumeration" then
    let value ← required "enumeration" "value" v
    return (.restriction restriction, .enumeration { value })
  else match v.lookup "value" with
  | some value =>
    let facets := restriction.facets ++ [{ kind := name, value }]
    return (.restriction { restriction with facets }, .other name)
  | none => return (.restriction restriction, .other name)

def openInMessage (message : Message) (name : String) (tag : List α) :
    Except LoadError (Frame × Frame) := do
  if name == "part" then
    let v ← readValues ["name", "element", "type"] tag
    let part : Part :=
      { name := ← required "part" "name" v, element := v.lookup "element"
        type := v.lookup "type" }
    return (.message { message with parts := message.parts ++ [part] }, .other name)
  else return (.message message, .other name)

def openInPortType (name : String) (tag : List α) : Except LoadError Frame := do
  if name == "operation" then
    return .operation { name := ← required "operation" "name" (← readValues ["name"] tag) }
  else return .other name

def openInOperation (operation : Operation) (name : String) (tag : List α) :
    Except LoadError (Frame × Frame) := do
  if !(["input", "output", "fault"].contains name) then return (.operation operation, .other name)
  let v ← readValues ["name", "message"] tag
  let message ← required name "message" v
  let operation := match name with
    | "input" => { operation with input := some message }
    | "output" => { operation with output := some message }
    | _ => { operation with faults := operation.faults ++ [{ name := v.lookup "name", message }] }
  return (.operation operation, .other name)

def openInBinding (binding : Binding) (name : String) (tag : List α) :
    Except LoadError (Frame × Frame) := do
  match name with
  | "binding" =>
    let v ← readValues ["style", "transport"] tag
    return (.binding { binding with
      style := v.lookup "style", transport := v.lookup "transport" }, .other name)
  | "operation" =>
    let v ← readValues ["name"] tag
    return (.binding binding, .bindingOperation { name := ← required "operation" "name" v })
  | _ => return (.binding binding, .other name)

def openInBindingOperation (operation : BindingOperation) (name : String)
    (tag : List α) : Except LoadError (Frame × Frame) := do
  if name == "operation" then
    let v ← readValues ["soapAction", "style"] tag
    return (.bindingOperation { operation with
      action := v.lookup "soapAction", style := v.lookup "style" }, .other name)
  else return (.bindingOperation operation, .other name)

def openInService (name : String) (tag : List α) : Except LoadError Frame := do
  if name == "port" then
    let v ← readValues ["name", "binding"] tag
    return .port { name := ← required "port" "name" v, binding := ← required "port" "binding" v }
  else return .other name

def openInPort (port : Port) (name : String) (tag : List α) :
    Except LoadError (Frame × Frame) := do
  if name == "address" then
    let v ← readValues ["location"] tag
    return (.port { port with location := v.lookup "location" }, .other name)
  else return (.port port, .other name)

/-- The parent with the mark that a child leaves on it, and the child's frame.  What stands below
`definitions` itself is the reader's to open. -/
def Frame.openChild (parent : Frame) (name : String) (tag : List α) :
    Except LoadError (Frame × Frame) :=
  let keep := fun child : Except LoadError Frame => child.map fun child => (parent, child)
  match parent with
  | .types => keep (openInTypes name tag)
  | .schema s => openInSchema s name tag
  | .element _ => keep (openInElement name tag)
  | .complexType t => openInComplexType t name tag
  | .compositor kind p => openInCompositor kind p name tag
  | .complexContent _ | .simpleContent _ => keep (openInContent name tag)
  | .derivation d => openInDerivation d name tag
  | .simpleType t => openInSimpleType t name tag
  | .restriction r => openInRestriction r name tag
  | .union _ | .attr _ =>
    keep (if name == "simpleType" then openSimpleType tag else .ok (.other name))
  | .attributeGroup _ => keep (openAttributes name tag)
  | .group _ => keep (.ok (openInGroup name))
  | .message m => openInMessage m name tag
  | .portType _ => keep (openInPortType name tag)
  | .operation o => openInOperation o name tag
  | .binding b => openInBinding b name tag
  | .bindingOperation o => openInBindingOperation o name tag
  | .service _ => keep (openInService name tag)
  | .port p => openInPort p name tag
  | .definitions | .enumeration _ | .annotated _ | .documentation _ | .other _ =>
    keep (.ok (.other name))

/-! ## Closing -/

/-- The documentation with a text added on a line of its own, unless the text is blank. -/
def addDocumentation (documentation : Option String) (text : String) : Option String :=
  let text := Text.trim text
  if text.isEmpty then documentation
  else match documentation with
  | some before => some (before ++ "\n" ++ text)
  | none => some text

/-- Give a documentation text to an element that keeps one. -/
private def document (parent : Frame) (text : String) : Frame :=
  match parent with
  | .element e => .element { e with documentation := addDocumentation e.documentation text }
  | .complexType t => .complexType { t with documentation := addDocumentation t.documentation text }
  | .simpleType t => .simpleType { t with documentation := addDocumentation t.documentation text }
  | .enumeration e => .enumeration { e with documentation := addDocumentation e.documentation text }
  | .attr a => .attr { a with documentation := addDocumentation a.documentation text }
  | .attributeGroup g =>
    .attributeGroup { g with documentation := addDocumentation g.documentation text }
  | .group g => .group { g with documentation := addDocumentation g.documentation text }
  | .portType p => .portType { p with documentation := addDocumentation p.documentation text }
  | .operation o => .operation { o with documentation := addDocumentation o.documentation text }
  | .service s => .service { s with documentation := addDocumentation s.documentation text }
  | parent => parent

private def addElement (parent : Frame) (element : Element) : Frame :=
  match parent with
  | .schema s => .schema { s with elements := s.elements ++ [element] }
  | .compositor kind p => .compositor kind { p with elements := p.elements ++ [element] }
  | parent => parent

private def addComplexType (parent : Frame) (type : ComplexType) : Frame :=
  match parent with
  | .schema s => .schema { s with complexTypes := s.complexTypes ++ [type] }
  | .element e => .element { e with complexType := some type }
  | parent => parent

private def addSimpleType (parent : Frame) (type : SimpleType) : Frame :=
  match parent with
  | .schema s => .schema { s with simpleTypes := s.simpleTypes ++ [type] }
  | .element e => .element { e with simpleType := some type }
  | .attr a => .attr { a with simpleType := some type }
  | .union u => .union { u with simpleTypes := u.simpleTypes ++ [type] }
  | parent => parent

/-- The elements of a compositor go where its kind says in a complex type, and to those before them
anywhere else. -/
private def addParticles (parent : Frame) (kind : CompositorKind) (p : Particles) : Frame :=
  match parent with
  | .complexType t =>
    let t := match kind with
      | .sequence => { t with sequence := t.sequence ++ p.elements }
      | .choice => { t with choice := t.choice ++ p.elements }
      | .all => { t with all := t.all ++ p.elements }
    .complexType { t with groups := t.groups ++ p.groups, wildcards := t.wildcards ++ p.wildcards }
  | .derivation d =>
    .derivation { d with
      elements := d.elements ++ p.elements
      groups := d.groups ++ p.groups
      wildcards := d.wildcards ++ p.wildcards }
  | .compositor outer q => .compositor outer (q.append p)
  | .group g =>
    .group { g with elements := g.elements ++ p.elements, groups := g.groups ++ p.groups }
  | parent => parent

private def addDerivation (parent : Frame) (derivation : Derivation) : Frame :=
  match parent with
  | .complexContent _ => .complexContent (some derivation)
  | .simpleContent _ => .simpleContent (some derivation)
  | parent => parent

private def addAttribute (parent : Frame) (declared : Xsd.Attribute) : Frame :=
  match parent with
  | .complexType t => .complexType { t with attributes := t.attributes ++ [declared] }
  | .derivation d => .derivation { d with attributes := d.attributes ++ [declared] }
  | .attributeGroup g => .attributeGroup { g with attributes := g.attributes ++ [declared] }
  | parent => parent

private def addAttributeGroup (parent : Frame) (group : AttributeGroup) : Frame :=
  let refs := group.ref.toList
  match parent with
  | .schema s => .schema { s with attributeGroups := s.attributeGroups ++ [group] }
  | .complexType t => .complexType { t with attributeGroups := t.attributeGroups ++ refs }
  | .derivation d => .derivation { d with attributeGroups := d.attributeGroups ++ refs }
  | .attributeGroup g => .attributeGroup { g with attributeGroups := g.attributeGroups ++ refs }
  | parent => parent

private def addGroup (parent : Frame) (group : Group) : Frame :=
  let refs := group.ref.toList
  match parent with
  | .schema s => .schema { s with groups := s.groups ++ [group] }
  | .complexType t => .complexType { t with groups := t.groups ++ refs }
  | .derivation d => .derivation { d with groups := d.groups ++ refs }
  | .compositor kind p => .compositor kind { p with groups := p.groups ++ refs }
  | parent => parent

/-- The parent with what a closed child has gathered.  Schemas and the parts of a service
description go to the reader instead. -/
def Frame.closeChild (parent child : Frame) : Frame :=
  match child, parent with
  | .element e, parent => addElement parent e
  | .complexType t, parent => addComplexType parent t
  | .simpleType t, parent => addSimpleType parent t
  | .compositor kind p, parent => addParticles parent kind p
  | .derivation d, parent => addDerivation parent d
  | .complexContent d, .complexType t => .complexType { t with complexContent := d }
  | .simpleContent d, .complexType t => .complexType { t with simpleContent := d }
  | .restriction r, .simpleType t => .simpleType { t with restriction := some r }
  | .union u, .simpleType t => .simpleType { t with union := some u }
  | .enumeration e, .restriction r =>
    .restriction { r with enumerations := r.enumerations ++ [e] }
  | .attr a, parent => addAttribute parent a
  | .attributeGroup g, parent => addAttributeGroup parent g
  | .group g, parent => addGroup parent g
  | .documentation text, .annotated before => .annotated (addDocumentation before text)
  | .documentation text, parent => document parent text
  | .annotated (some text), parent => document parent text
  | .operation o, .portType p => .portType { p with operations := p.operations ++ [o] }
  | .bindingOperation o, .binding b => .binding { b with operations := b.operations ++ [o] }
  | .port p, .service s => .service { s with ports := s.ports ++ [p] }
  | _, parent => parent

end SoapBindings.Document
