/-
# `SoapBindings.Proofs.Prefixes` — documents without prefixes

A reference is a local name behind a prefix, and only the local name is looked up.  `unprefixed`
drops the prefix of every reference in a document and leaves all other texts as they are, so two
documents are equal but for prefixes if they are equal without them.

Without prefixes a document has the same definitions under the same names, and its tables find what
they found before, without prefixes.  What resolution answers with types is therefore the same, and
what it answers with definitions is the same but for the prefixes in these.
-/
import Mathlib.Data.List.TakeWhile
import SoapBindings.Generation
import SoapBindings.Proofs.Resolution

namespace SoapBindings

open Naming (localName)
open Xsd

theorem Naming.localName_idem (name : String) : localName (localName name) = localName name := by
  simp [localName, List.takeWhile_idem]

/-- Of two values that are the same in some respect both are there or both are missing. -/
theorem map_eq_map {α β : Type} {f : α → β} {o o' : Option α} (h : o.map f = o'.map f) :
    o = none ∧ o' = none ∨ ∃ a a', o = some a ∧ o' = some a' ∧ f a = f a' := by
  cases o with
  | none => exact .inl ⟨rfl, Option.map_eq_none_iff.mp h.symm⟩
  | some a =>
      obtain ⟨a', ho', ha'⟩ := Option.map_eq_some_iff.mp h.symm
      exact .inr ⟨a, a', rfl, ho', ha'.symm⟩

/-- Values under names: both are there under one name, or both are missing. -/
theorem map_eq_map_named {α β : Type} {f : α → β} {o o' : Option (String × α)}
    (h : o.map (Prod.map id f) = o'.map (Prod.map id f)) :
    o = none ∧ o' = none ∨
      ∃ name a a', o = some (name, a) ∧ o' = some (name, a') ∧ f a = f a' := by
  obtain hnone | ⟨⟨name, a⟩, ⟨name', a'⟩, ho, ho', hsame⟩ := map_eq_map h
  · exact .inl hnone
  · obtain ⟨hname, ha⟩ := Prod.mk.inj hsame
    obtain rfl : name = name' := hname
    exact .inr ⟨name, a, a', ho, ho', ha⟩

/-! ## Schemas -/

namespace Xsd

def Restriction.unprefixed (r : Restriction) : Restriction :=
  { r with base := r.base.map localName }

mutual

def SimpleType.unprefixed : SimpleType → SimpleType
  | t@{ union, .. } =>
    { t with
      restriction := t.restriction.map (·.unprefixed)
      union := match union with
        | some union => some union.unprefixed
        | none => none
      list := t.list.map localName }

def UnionType.unprefixed : UnionType → UnionType
  | { memberTypes, simpleTypes } =>
    { memberTypes := memberTypes.map localName
      simpleTypes := simpleTypesUnprefixed simpleTypes }

def simpleTypesUnprefixed : List SimpleType → List SimpleType
  | [] => []
  | t :: ts => t.unprefixed :: simpleTypesUnprefixed ts

end

def Attribute.unprefixed (a : Attribute) : Attribute :=
  { a with
    ref := a.ref.map localName
    type := a.type.map localName
    simpleType := a.simpleType.map (·.unprefixed) }

def AttributeGroup.unprefixed (g : AttributeGroup) : AttributeGroup :=
  { g with
    ref := g.ref.map localName
    attributes := g.attributes.map (·.unprefixed)
    attributeGroups := g.attributeGroups.map localName }

mutual

def Element.unprefixed : Element → Element
  | e@{ complexType, .. } =>
    { e with
      ref := e.ref.map localName
      type := e.type.map localName
      complexType := match complexType with
        | some type => some type.unprefixed
        | none => none
      simpleType := e.simpleType.map (·.unprefixed) }

def Derivation.unprefixed : Derivation → Derivation
  | δ@{ elements, .. } =>
    { δ with
      base := δ.base.map localName
      elements := elementsUnprefixed elements
      groups := δ.groups.map localName
      attributes := δ.attributes.map (·.unprefixed)
      attributeGroups := δ.attributeGroups.map localName }

def ComplexType.unprefixed : ComplexType → ComplexType
  | t@{ sequence, choice, all, complexContent, simpleContent, .. } =>
    { t with
      sequence := elementsUnprefixed sequence
      choice := elementsUnprefixed choice
      all := elementsUnprefixed all
      groups := t.groups.map localName
      complexContent := match complexContent with
        | some derivation => some derivation.unprefixed
        | none => none
      simpleContent := match simpleContent with
        | some derivation => some derivation.unprefixed
        | none => none
      attributes := t.attributes.map (·.unprefixed)
      attributeGroups := t.attributeGroups.map localName }

def elementsUnprefixed : List Element → List Element
  | [] => []
  | e :: es => e.unprefixed :: elementsUnprefixed es

end

def Group.unprefixed (g : Group) : Group :=
  { g with
    ref := g.ref.map localName
    elements := g.elements.map (·.unprefixed)
    groups := g.groups.map localName }

def Schema.unprefixed (s : Schema) : Schema :=
  { s with
    elements := s.elements.map (·.unprefixed)
    complexTypes := s.complexTypes.map (·.unprefixed)
    simpleTypes := s.simpleTypes.map (·.unprefixed)
    attributeGroups := s.attributeGroups.map (·.unprefixed)
    groups := s.groups.map (·.unprefixed) }

/-! ### What is nested -/

theorem simpleTypesUnprefixed_eq (ts : List SimpleType) :
    simpleTypesUnprefixed ts = ts.map (·.unprefixed) := by
  induction ts with
  | nil => rfl
  | cons t ts ih => rw [simpleTypesUnprefixed, List.map_cons, ih]

theorem UnionType.unprefixed_eq (u : UnionType) :
    u.unprefixed = {
      memberTypes := u.memberTypes.map localName
      simpleTypes := u.simpleTypes.map (·.unprefixed) } := by
  cases u
  simp only [UnionType.unprefixed, simpleTypesUnprefixed_eq]

theorem SimpleType.unprefixed_eq (t : SimpleType) :
    t.unprefixed = { t with
      restriction := t.restriction.map (·.unprefixed)
      union := t.union.map (·.unprefixed)
      list := t.list.map localName } := by
  cases t with
  | mk _ _ _ union _ => cases union <;> rfl

theorem elementsUnprefixed_eq (es : List Element) :
    elementsUnprefixed es = es.map (·.unprefixed) := by
  induction es with
  | nil => rfl
  | cons e es ih => rw [elementsUnprefixed, List.map_cons, ih]

theorem Element.unprefixed_eq (e : Element) :
    e.unprefixed = { e with
      ref := e.ref.map localName
      type := e.type.map localName
      complexType := e.complexType.map (·.unprefixed)
      simpleType := e.simpleType.map (·.unprefixed) } := by
  cases e with
  | mk _ _ _ _ _ _ _ complexType _ => cases complexType <;> rfl

theorem Derivation.unprefixed_eq (δ : Derivation) :
    δ.unprefixed = { δ with
      base := δ.base.map localName
      elements := δ.elements.map (·.unprefixed)
      groups := δ.groups.map localName
      attributes := δ.attributes.map (·.unprefixed)
      attributeGroups := δ.attributeGroups.map localName } := by
  cases δ
  simp only [Derivation.unprefixed, elementsUnprefixed_eq]

theorem ComplexType.unprefixed_eq (t : ComplexType) :
    t.unprefixed = { t with
      sequence := t.sequence.map (·.unprefixed)
      choice := t.choice.map (·.unprefixed)
      all := t.all.map (·.unprefixed)
      groups := t.groups.map localName
      complexContent := t.complexContent.map (·.unprefixed)
      simpleContent := t.simpleContent.map (·.unprefixed)
      attributes := t.attributes.map (·.unprefixed)
      attributeGroups := t.attributeGroups.map localName } := by
  cases t with
  | mk name documentation isAbstract mixed sequence choice all wildcards groups complexContent
      simpleContent attributes attributeGroups =>
    cases complexContent <;> cases simpleContent <;>
      simp only [ComplexType.unprefixed, elementsUnprefixed_eq] <;> rfl

/-! ### What is kept -/

@[simp] theorem SimpleType.unprefixed_name (t : SimpleType) : t.unprefixed.name = t.name := by
  rw [unprefixed_eq]

@[simp] theorem Element.unprefixed_name (e : Element) : e.unprefixed.name = e.name := by
  rw [unprefixed_eq]

@[simp] theorem ComplexType.unprefixed_name (t : ComplexType) : t.unprefixed.name = t.name := by
  rw [unprefixed_eq]

theorem SimpleType.documentation_eq {t t' : SimpleType} (h : t.unprefixed = t'.unprefixed) :
    t.documentation = t'.documentation := by
  simp only [unprefixed_eq, mk.injEq] at h
  exact h.2.1

theorem ComplexType.documentation_eq {t t' : ComplexType} (h : t.unprefixed = t'.unprefixed) :
    t.documentation = t'.documentation := by
  simp only [unprefixed_eq, mk.injEq] at h
  exact h.2.1

/-- What two elements say about their types, if they are the same without prefixes. -/
inductive Element.TypesAlike (e e' : Element) : Prop
  | none : e.type = none → e'.type = none → e.complexType = none → e'.complexType = none →
      e.simpleType = none → e'.simpleType = none → TypesAlike e e'
  | type {type type' : String} : e.type = some type → e'.type = some type' →
      localName type = localName type' → TypesAlike e e'
  | complexType {t t' : ComplexType} : e.type = none → e'.type = none →
      e.complexType = some t → e'.complexType = some t' → t.unprefixed = t'.unprefixed →
      TypesAlike e e'
  | simpleType {t t' : SimpleType} : e.type = none → e'.type = none →
      e.complexType = none → e'.complexType = none →
      e.simpleType = some t → e'.simpleType = some t' → t.unprefixed = t'.unprefixed →
      TypesAlike e e'

theorem Element.types_alike {e e' : Element} (h : e.unprefixed = e'.unprefixed) :
    e.TypesAlike e' := by
  simp only [unprefixed_eq, mk.injEq] at h
  obtain ⟨-, -, htype, -, -, -, -, hcomplex, hsimple⟩ := h
  obtain ⟨ht, ht'⟩ | ⟨type, type', ht, ht', hlocal⟩ := map_eq_map htype
  · obtain ⟨hc, hc'⟩ | ⟨t, t', hc, hc', hsame⟩ := map_eq_map hcomplex
    · obtain ⟨hs, hs'⟩ | ⟨t, t', hs, hs', hsame⟩ := map_eq_map hsimple
      · exact .none ht ht' hc hc' hs hs'
      · exact .simpleType ht ht' hc hc' hs hs' hsame
    · exact .complexType ht ht' hc hc' hsame
  · exact .type ht ht' hlocal

end Xsd

/-! ## Service descriptions -/

namespace Wsdl

def Part.unprefixed (p : Part) : Part :=
  { p with element := p.element.map localName, type := p.type.map localName }

def Message.unprefixed (m : Message) : Message :=
  { m with parts := m.parts.map (·.unprefixed) }

def Fault.unprefixed (f : Fault) : Fault := { f with message := localName f.message }

def Operation.unprefixed (o : Operation) : Operation :=
  { o with
    input := o.input.map localName
    output := o.output.map localName
    faults := o.faults.map (·.unprefixed) }

def PortType.unprefixed (p : PortType) : PortType :=
  { p with operations := p.operations.map (·.unprefixed) }

def Binding.unprefixed (b : Binding) : Binding := { b with type := localName b.type }

def Definitions.unprefixed (d : Definitions) : Definitions :=
  { d with
    schemas := d.schemas.map (·.unprefixed)
    messages := d.messages.map (·.unprefixed)
    portTypes := d.portTypes.map (·.unprefixed)
    bindings := d.bindings.map (·.unprefixed) }

end Wsdl

/-- The document with its references by their local names.  The one from a port to its binding is
kept: nothing follows it. -/
def Document.unprefixed (d : Document) : Document :=
  { d with
    definitions := d.definitions.unprefixed
    registry := { schemas := d.registry.schemas.map (·.unprefixed) } }

/-! ## Symbols -/

def Definition.unprefixed : Definition → Definition
  | element e => .element e.unprefixed
  | simpleType t => .simpleType t.unprefixed
  | complexType t => .complexType t.unprefixed
  | attributeGroup g => .attributeGroup g.unprefixed

@[simp] theorem Definition.unprefixed_kind (definition : Definition) :
    definition.unprefixed.kind = definition.kind := by
  cases definition <;> rfl

def Symbol.unprefixed (s : Symbol) : Symbol := { s with definition := s.definition.unprefixed }

theorem Xsd.Schema.symbols_unprefixed (schema : Schema) :
    schema.unprefixed.symbols = schema.symbols.map (·.unprefixed) := by
  simp only [symbols, unprefixed, List.map_append, List.map_filterMap, List.filterMap_map,
    Option.map_map, Function.comp_def, Element.unprefixed_name, SimpleType.unprefixed_name,
    ComplexType.unprefixed_name]
  rfl

namespace Document

theorem schemas_unprefixed (d : Document) :
    d.unprefixed.schemas = d.schemas.map (·.unprefixed) :=
  List.map_append.symm

theorem packages_unprefixed (d : Document) : d.unprefixed.packages = d.packages := by
  simp only [packages, Registry.identifiers, unprefixed, List.map_map]
  rfl

theorem schemasIn_unprefixed (d : Document) (package : String) :
    d.unprefixed.schemasIn package = (d.schemasIn package).map (·.unprefixed) := by
  simp only [schemasIn, schemas_unprefixed, List.filter_map]
  rfl

theorem symbols_unprefixed (d : Document) :
    d.unprefixed.symbols = d.symbols.map (·.unprefixed) := by
  simp only [symbols, schemas_unprefixed, List.flatMap_map, List.map_flatMap,
    Schema.symbols_unprefixed]

end Document

namespace Table

variable {α β : Type}

/-- A change of the values that keeps their names changes what a search finds, and nothing else. -/
theorem Lists.map {t : Table α} {t' : Table β} {items : List (String × α)} {f : α → β}
    (h : t.Lists items) (h' : t'.Lists (items.map (Prod.map id f))) (wanted : String) :
    t'.find? wanted = (t.find? wanted).map f := by
  rw [h wanted, h' wanted, List.find?_map, Option.map_map, Option.map_map]
  rfl

end Table

namespace SymbolTable

theorem named_unprefixed (kinds : SymbolKind → Bool) (symbols : List Symbol) :
    named kinds (symbols.map (·.unprefixed)) =
      (named kinds symbols).map (Prod.map id Symbol.unprefixed) := by
  have hkind (s : Symbol) : s.unprefixed.definition.kind = s.definition.kind :=
    s.definition.unprefixed_kind
  simp only [named, List.filter_map, List.map_map, Function.comp_def, hkind]
  rfl

theorem namedGroups_unprefixed (package : String) (groups : List Group) :
    namedGroups package (groups.map (·.unprefixed)) =
      (namedGroups package groups).map (Prod.map id (Prod.map id Group.unprefixed)) := by
  simp only [namedGroups, List.filterMap_map, List.map_filterMap, Option.map_map]
  rfl

theorem lists_unprefixed (d : Document) :
    (ofDocument d.unprefixed).Lists (d.symbols.map (·.unprefixed)) :=
  d.symbols_unprefixed ▸ ofDocument_lists d.unprefixed

/-- A table of a document without prefixes has what the table of the document has. -/
theorem find?_unprefixed {t t' : Table Symbol} {kinds : SymbolKind → Bool} {symbols : List Symbol}
    (h : t.Lists (named kinds symbols))
    (h' : t'.Lists (named kinds (symbols.map (·.unprefixed)))) (name : String) :
    t'.find? name = (t.find? name).map (·.unprefixed) :=
  h.map (named_unprefixed kinds symbols ▸ h') name

theorem groups_unprefixed (d : Document) (name : String) :
    (ofDocument d.unprefixed).groups.find? name =
      ((ofDocument d).groups.find? name).map (Prod.map id Group.unprefixed) := by
  have hgroups (schema : Schema) :
      namedGroups schema.unprefixed.identifier schema.unprefixed.groups =
        (namedGroups schema.identifier schema.groups).map
          (Prod.map id (Prod.map id Group.unprefixed)) :=
    namedGroups_unprefixed schema.identifier schema.groups
  have hlists := ofDocument_groups d.unprefixed
  simp only [Document.schemas_unprefixed, List.flatMap_map, hgroups, ← List.map_flatMap] at hlists
  exact (ofDocument_groups d).map hlists name

end SymbolTable

/-! ## Resolution -/

namespace Resolver

open SymbolTable

variable (d : Document) (package : Option String) (name : String)

theorem reference_unprefixed (s : Symbol) :
    reference package s.unprefixed = reference package s := by
  simp only [reference, Symbol.unprefixed, Definition.unprefixed_kind]

theorem resolveType_unprefixed :
    (ofDocument d.unprefixed).resolveType package (localName name) =
      (ofDocument d).resolveType package name := by
  have hfound := find?_unprefixed (ofDocument_lists d).types (lists_unprefixed d).types
    (localName name)
  simp only [resolveType, Naming.localName_idem, ofDocument, hfound]
  cases (SymbolTable.ofDocument d).types.find? (localName name) with
  | none => rfl
  | some s => simp only [Option.map_some, reference_unprefixed]

theorem ofSymbol_unprefixed (s : Symbol) :
    (ofDocument d.unprefixed).ofSymbol package s.unprefixed =
      (ofDocument d).ofSymbol package s := by
  have hreference := reference_unprefixed package s
  obtain ⟨name, home, targetNamespace, definition⟩ := s
  cases definition with
  | element e =>
      simp only [ofSymbol, Symbol.unprefixed, Definition.unprefixed] at hreference ⊢
      rw [hreference, Element.unprefixed_eq]
      cases e.type with
      | none => rfl
      | some type => exact resolveType_unprefixed d package type
  | simpleType | complexType | attributeGroup => exact hreference

theorem resolve_unprefixed :
    (ofDocument d.unprefixed).resolve package (localName name) =
      (ofDocument d).resolve package name := by
  have hfound := find?_unprefixed (ofDocument_lists d).all (lists_unprefixed d).all (localName name)
  have hsymbol := ofSymbol_unprefixed d package
  simp only [resolve, Naming.localName_idem]
  simp only [ofDocument] at hsymbol ⊢
  rw [hfound]
  cases (SymbolTable.ofDocument d).all.find? (localName name) with
  | none => rfl
  | some s => simp only [Option.map_some, hsymbol]

theorem resolveElement_unprefixed :
    (ofDocument d.unprefixed).resolveElement package (localName name) =
      (ofDocument d).resolveElement package name := by
  have hfound := find?_unprefixed (ofDocument_lists d).elements (lists_unprefixed d).elements
    (localName name)
  unfold resolveElement
  rw [Naming.localName_idem, resolve_unprefixed]
  simp only [ofDocument] at hfound ⊢
  rw [hfound]
  cases (SymbolTable.ofDocument d).elements.find? (localName name) with
  | none => rfl
  | some s => exact ofSymbol_unprefixed d package s

theorem elementNamespace?_unprefixed :
    (ofDocument d.unprefixed).elementNamespace? (localName name) =
      (ofDocument d).elementNamespace? name := by
  have hfound := find?_unprefixed (ofDocument_lists d).elements (lists_unprefixed d).elements
    (localName name)
  simp only [elementNamespace?, Naming.localName_idem, ofDocument, hfound, Option.bind_map]
  rfl

/-! ### Definitions -/

theorem baseType?_unprefixed :
    (ofDocument d.unprefixed).baseType? (localName name) =
      ((ofDocument d).baseType? name).map (Prod.map id (·.unprefixed)) := by
  have hfound := find?_unprefixed (ofDocument_lists d).types (lists_unprefixed d).types
    (localName name)
  simp only [baseType?, Naming.localName_idem, ofDocument, hfound]
  split
  · rfl
  · cases (SymbolTable.ofDocument d).types.find? (localName name) with
    | none => rfl
    | some s => obtain ⟨_, _, _, _ | _ | _ | _⟩ := s <;> rfl

theorem complexType?_unprefixed :
    (ofDocument d.unprefixed).complexType? (localName name) =
      ((ofDocument d).complexType? name).map (Prod.map id (·.unprefixed)) := by
  have hfound := find?_unprefixed (ofDocument_lists d).all (lists_unprefixed d).all (localName name)
  have hbase := baseType?_unprefixed d
  simp only [complexType?, Naming.localName_idem]
  simp only [ofDocument] at hbase ⊢
  rw [hfound]
  split
  · rfl
  · cases (SymbolTable.ofDocument d).all.find? (localName name) with
    | none => rfl
    | some s =>
        obtain ⟨_, _, _, e | _ | _ | _⟩ := s
        case element =>
          simp only [Option.map_some, Symbol.unprefixed, Definition.unprefixed,
            Element.unprefixed_eq]
          cases e.type with
          | some type => exact hbase type
          | none => simp [Function.comp_def]
        all_goals rfl

theorem attributeGroup?_unprefixed :
    (ofDocument d.unprefixed).attributeGroup? (localName name) =
      ((ofDocument d).attributeGroup? name).map (·.unprefixed) := by
  have hfound := find?_unprefixed (ofDocument_lists d).attributeGroups
    (lists_unprefixed d).attributeGroups (localName name)
  simp only [attributeGroup?, Naming.localName_idem, ofDocument, hfound]
  cases (SymbolTable.ofDocument d).attributeGroups.find? (localName name) with
  | none => rfl
  | some s => obtain ⟨_, _, _, _ | _ | _ | _⟩ := s <;> rfl

theorem group?_unprefixed :
    (ofDocument d.unprefixed).group? (localName name) =
      ((ofDocument d).group? name).map (·.unprefixed) := by
  have hfound := groups_unprefixed d (localName name)
  simp only [group?, Naming.localName_idem, ofDocument, hfound, Option.map_map]
  rfl

end Resolver

/-! ### Resolvers of documents that are equal without prefixes -/

/-- References with one local name are answered alike: with the same types, and with definitions
that are the same without prefixes. -/
structure Resolver.Alike (r r' : Resolver) : Prop where
  resolveType : ∀ package {name name'}, localName name = localName name' →
    r.resolveType package name = r'.resolveType package name'
  resolve : ∀ package {name name'}, localName name = localName name' →
    r.resolve package name = r'.resolve package name'
  resolveElement : ∀ package {name name'}, localName name = localName name' →
    r.resolveElement package name = r'.resolveElement package name'
  baseType? : ∀ {name name'}, localName name = localName name' →
    (r.baseType? name).map (Prod.map id (·.unprefixed)) =
      (r'.baseType? name').map (Prod.map id (·.unprefixed))
  complexType? : ∀ {name name'}, localName name = localName name' →
    (r.complexType? name).map (Prod.map id (·.unprefixed)) =
      (r'.complexType? name').map (Prod.map id (·.unprefixed))
  attributeGroup? : ∀ {name name'}, localName name = localName name' →
    (r.attributeGroup? name).map (·.unprefixed) = (r'.attributeGroup? name').map (·.unprefixed)
  group? : ∀ {name name'}, localName name = localName name' →
    (r.group? name).map (·.unprefixed) = (r'.group? name').map (·.unprefixed)

open Resolver in
theorem Document.resolvers_alike {d d' : Document} (h : d.unprefixed = d'.unprefixed) :
    (Resolver.ofDocument d).Alike (.ofDocument d') where
  resolveType package name name' hname := by
    rw [← resolveType_unprefixed d, ← resolveType_unprefixed d', h, hname]
  resolve package name name' hname := by
    rw [← resolve_unprefixed d, ← resolve_unprefixed d', h, hname]
  resolveElement package name name' hname := by
    rw [← resolveElement_unprefixed d, ← resolveElement_unprefixed d', h, hname]
  baseType? hname := by rw [← baseType?_unprefixed, ← baseType?_unprefixed, h, hname]
  complexType? hname := by rw [← complexType?_unprefixed, ← complexType?_unprefixed, h, hname]
  attributeGroup? hname := by
    rw [← attributeGroup?_unprefixed, ← attributeGroup?_unprefixed, h, hname]
  group? hname := by rw [← group?_unprefixed, ← group?_unprefixed, h, hname]

/-! ## Clients -/

namespace Wsdl.Definitions

variable (d : Definitions)

theorem firstPart?_unprefixed (message : String) :
    d.unprefixed.firstPart? (localName message) =
      (d.firstPart? message).map (·.unprefixed) := by
  simp only [firstPart?, message?, unprefixed, Naming.localName_idem, List.find?_map,
    Option.bind_map, Option.map_bind]
  congr 1
  funext found
  exact List.head?_map

theorem action_unprefixed : d.unprefixed.action = d.action := by
  funext portType operation
  simp only [action, unprefixed, List.filter_map, List.flatMap_map, Function.comp_def,
    Binding.unprefixed, Naming.localName_idem]

end Wsdl.Definitions

namespace Emission

open Wsdl

variable (d : Document)

theorem messagePart_unprefixed (part : Wsdl.Part) (targetNamespace : String) :
    messagePart (.ofDocument d.unprefixed) part.unprefixed targetNamespace =
      messagePart (.ofDocument d) part targetNamespace := by
  obtain ⟨name, element, type⟩ := part
  cases element with
  | some element =>
      simp only [messagePart, Part.unprefixed, Option.map_some, Naming.localName_idem,
        Resolver.resolveElement_unprefixed, Resolver.elementNamespace?_unprefixed]
  | none =>
      cases type with
      | some type =>
          simp only [messagePart, Part.unprefixed, Option.map_some, Option.map_none,
            Resolver.resolveType_unprefixed]
      | none => rfl

theorem method_unprefixed (portType ident : String) (o : Operation) :
    method (.ofDocument d.unprefixed) d.unprefixed.definitions portType ident o.unprefixed =
      method (.ofDocument d) d.definitions portType ident o := by
  have hpart (message : Option String) :
      (message.map localName).bind d.unprefixed.definitions.firstPart? =
        (message.bind d.definitions.firstPart?).map (·.unprefixed) := by
    cases message with
    | none => rfl
    | some message => exact d.definitions.firstPart?_unprefixed message
  have hinput : o.unprefixed.input.bind d.unprefixed.definitions.firstPart? = _ := hpart o.input
  have houtput : o.unprefixed.output.bind d.unprefixed.definitions.firstPart? = _ := hpart o.output
  have hfaults : (o.unprefixed.faults.map fun f => localName f.message) =
      o.faults.map fun f => localName f.message := by
    simp [Operation.unprefixed, Fault.unprefixed, Naming.localName_idem]
  have haction : d.unprefixed.definitions.action = d.definitions.action :=
    d.definitions.action_unprefixed
  unfold method
  rw [hinput, houtput, hfaults, haction]
  cases o.input.bind d.definitions.firstPart? <;> cases o.output.bind d.definitions.firstPart? <;>
    simp only [Option.map_some, Option.map_none, messagePart_unprefixed] <;> rfl

theorem methodNames_unprefixed (operations : List Operation) :
    methodNames (operations.map (·.unprefixed)) = methodNames operations := by
  unfold methodNames
  rw [List.foldl_map]
  rfl

theorem client_unprefixed (p : PortType) :
    client (.ofDocument d.unprefixed) d.unprefixed.definitions p.unprefixed =
      client (.ofDocument d) d.definitions p := by
  have hmethods : (methodNames p.unprefixed.operations).zip p.unprefixed.operations =
      ((methodNames p.operations).zip p.operations).map (Prod.map id (·.unprefixed)) := by
    simp only [PortType.unprefixed, methodNames_unprefixed, List.zip_map_right]
  unfold client
  rw [hmethods, List.mapM_map]
  simp only [Prod.map, Function.comp_def, id, method_unprefixed]
  rfl

end Emission

namespace Document

/-- The clients are the same without prefixes. -/
theorem operationsModule_unprefixed (d : Document) (package : String) :
    d.unprefixed.operationsModule (.ofDocument d.unprefixed) package =
      d.operationsModule (.ofDocument d) package := by
  have hportTypes : d.unprefixed.definitions.portTypes =
      d.definitions.portTypes.map (·.unprefixed) := rfl
  have hclient : Emission.client (.ofDocument d.unprefixed) d.unprefixed.definitions ∘
      Wsdl.PortType.unprefixed = Emission.client (.ofDocument d) d.definitions :=
    funext (Emission.client_unprefixed d)
  unfold operationsModule
  simp only [hportTypes, List.isEmpty_map, List.mapM_map, hclient]
  rfl

end Document

end SoapBindings
