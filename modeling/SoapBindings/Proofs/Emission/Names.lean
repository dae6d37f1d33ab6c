/-
# `SoapBindings.Proofs.Emission.Names` — where the names of declarations come from

Every name in a declaration is made of names in the document: of definitions, elements, attributes
and packages, of what references name, and of the values that a type enumerates.  `Document.names`
lists them.  Whatever a reference is resolved to is then spelled by such names: it leads to a
definition, or else goes by the name that it has itself.
-/
import SoapBindings.Proofs.Emission.Places
import SoapBindings.Proofs.Naming.Identifiers

namespace SoapBindings

/-! ## Names in a document -/

/-- The letters of all names can stand in identifiers. -/
def AllSpellable (names : List String) : Prop := ∀ name ∈ names, Naming.isSpellable name

instance (names : List String) : Decidable (AllSpellable names) :=
  inferInstanceAs (Decidable (∀ name ∈ names, Naming.isSpellable name))

theorem allSpellable_cons {name : String} {names : List String} :
    AllSpellable (name :: names) ↔ Naming.isSpellable name ∧ AllSpellable names :=
  List.forall_mem_cons

theorem allSpellable_append {names more : List String} :
    AllSpellable (names ++ more) ↔ AllSpellable names ∧ AllSpellable more :=
  List.forall_mem_append

theorem allSpellable_map {α : Type} {items : List α} {name : α → String} :
    AllSpellable (items.map name) ↔ ∀ item ∈ items, Naming.isSpellable (name item) :=
  List.forall_mem_map

theorem allSpellable_flatMap {α : Type} {items : List α} {names : α → List String} :
    AllSpellable (items.flatMap names) ↔ ∀ item ∈ items, AllSpellable (names item) :=
  List.forall_mem_flatMap

namespace Xsd

/-- The base of a type, and the values that it enumerates. -/
def SimpleType.names (t : SimpleType) : List String :=
  (t.restriction.bind (·.base)).toList.map Naming.localName ++
    (Emission.enumerations t).map (·.value)

def Element.names (e : Element) : List String :=
  e.name.toList ++ (e.ref.toList ++ e.type.toList).map Naming.localName ++
    e.simpleType.toList.flatMap (·.names)

def Attribute.names (a : Attribute) : List String :=
  a.name.toList ++ (a.ref.toList ++ a.type.toList).map Naming.localName ++
    a.simpleType.toList.flatMap (·.names)

/-- The names in a type, but for those in types inside it. -/
def ComplexType.names (t : ComplexType) : List String :=
  t.derivations.flatMap (fun d => d.base.toList.map Naming.localName) ++
    t.inPlace.flatMap (·.names) ++ t.attributeParts.flatMap (·.1.flatMap (·.names))

def Schema.names (s : Schema) : List String :=
  s.identifier :: (s.symbols.map (·.name) ++ s.elements.flatMap (·.names) ++
    s.simpleTypes.flatMap (·.names) ++ s.places.flatMap (·.2.names) ++
    s.attributeGroups.flatMap (·.attributes.flatMap (·.names)) ++
    s.groups.flatMap (·.elements.flatMap (·.names)))

/-- What elements and attributes have in common is named by their own names. -/
theorem spellable_parts {name ref type : Option String} {simpleType : Option SimpleType}
    (h : AllSpellable (name.toList ++ (ref.toList ++ type.toList).map Naming.localName ++
      simpleType.toList.flatMap (·.names))) :
    (∀ own, name = some own → Naming.isSpellable own) ∧
      (∀ reference, ref = some reference → Naming.isSpellable (Naming.localName reference)) ∧
      (∀ named, type = some named → Naming.isSpellable (Naming.localName named)) ∧
      ∀ t, simpleType = some t → AllSpellable t.names := by
  simp only [allSpellable_append, allSpellable_flatMap, List.map_append, allSpellable_map,
    Option.mem_toList] at h
  exact ⟨fun own hown => h.1.1 own (Option.mem_toList.mpr hown), h.1.2.1, h.1.2.2, h.2⟩

theorem ComplexType.spellable_parts {t : ComplexType} (h : AllSpellable t.names) :
    (∀ d ∈ t.derivations, ∀ base, d.base = some base →
        Naming.isSpellable (Naming.localName base)) ∧
      (∀ e ∈ t.inPlace, AllSpellable e.names) ∧
      ∀ part ∈ t.attributeParts, AllSpellable (part.1.flatMap (·.names)) := by
  rw [names, allSpellable_append, allSpellable_append, allSpellable_flatMap, allSpellable_flatMap,
    allSpellable_flatMap] at h
  obtain ⟨⟨hbases, helements⟩, hattributes⟩ := h
  refine ⟨fun d hd base hbase => ?_, helements, hattributes⟩
  exact allSpellable_map.mp (hbases d hd) base (Option.mem_toList.mpr hbase)

end Xsd

namespace Wsdl

def Part.names (p : Part) : List String :=
  (p.element.toList ++ p.type.toList).map Naming.localName

def PortType.names (p : PortType) : List String := p.name :: p.operations.map (·.name)

end Wsdl

open Xsd

/-- The names that generated names are made of. -/
def Document.names (d : Document) : List String :=
  d.rootPackage :: (d.schemas.flatMap (·.names) ++ d.definitions.portTypes.flatMap (·.names) ++
    d.definitions.messages.flatMap (·.parts.flatMap (·.names)))

namespace Document

variable {d : Document} (h : AllSpellable d.names)

include h

theorem spellable_rootPackage : Naming.isSpellable d.rootPackage := (allSpellable_cons.mp h).1

theorem spellable_schema {schema : Schema} (hschema : schema ∈ d.schemas) :
    AllSpellable schema.names := by
  simp only [names, allSpellable_cons, allSpellable_append, allSpellable_flatMap] at h
  exact h.2.1.1 schema hschema

/-- Names that definitions are declared under, and their packages. -/
theorem spellable_symbol {s : Symbol} (hs : s ∈ d.symbols) :
    Naming.isSpellable s.name ∧ Naming.isSpellable s.package := by
  obtain ⟨schema, hschema, hs⟩ := List.mem_flatMap.mp hs
  have hnames := spellable_schema h hschema
  simp only [Schema.names, allSpellable_cons, allSpellable_append, allSpellable_map] at hnames
  rw [(schema.declares_of_mem hs).1]
  exact ⟨hnames.2.1.1.1.1.1 s hs, hnames.1⟩

/-- Every definition of a schema is among its symbols. -/
theorem spellable_declares {schema : Schema} (hschema : schema ∈ d.schemas) {name : String}
    {definition : Definition} (hdeclares : schema.Declares name definition) :
    Naming.isSpellable name := by
  have hsymbol : (⟨name, schema.identifier, schema.targetNamespace, definition⟩ : Symbol) ∈
      schema.symbols := by
    simp only [Schema.symbols, List.mem_append, List.mem_filterMap, Option.map_eq_some_iff]
    cases hdeclares with
    | element hmem hname => exact .inl (.inl (.inl ⟨_, hmem, _, hname, rfl⟩))
    | simpleType hmem hname => exact .inl (.inl (.inr ⟨_, hmem, _, hname, rfl⟩))
    | complexType hmem hname => exact .inl (.inr ⟨_, hmem, _, hname, rfl⟩)
    | attributeGroup hmem hname => exact .inr ⟨_, hmem, _, hname, rfl⟩
  exact (spellable_symbol h (List.mem_flatMap.mpr ⟨schema, hschema, hsymbol⟩)).1

theorem spellable_element {schema : Schema} (hschema : schema ∈ d.schemas) {e : Element}
    (he : e ∈ schema.elements) : AllSpellable e.names := by
  have hnames := spellable_schema h hschema
  simp only [Schema.names, allSpellable_cons, allSpellable_append, allSpellable_flatMap] at hnames
  exact hnames.2.1.1.1.1.2 e he

theorem spellable_simpleType {schema : Schema} (hschema : schema ∈ d.schemas) {t : SimpleType}
    (ht : t ∈ schema.simpleTypes) : AllSpellable t.names := by
  have hnames := spellable_schema h hschema
  simp only [Schema.names, allSpellable_cons, allSpellable_append, allSpellable_flatMap] at hnames
  exact hnames.2.1.1.1.2 t ht

theorem spellable_place {place : String × ComplexType} (hplace : place ∈ d.places) :
    AllSpellable place.2.names := by
  obtain ⟨schema, hschema, hplace⟩ := List.mem_flatMap.mp hplace
  have hnames := spellable_schema h hschema
  simp only [Schema.names, allSpellable_cons, allSpellable_append, allSpellable_flatMap] at hnames
  exact hnames.2.1.1.2 place hplace

theorem spellable_attributeGroup {schema : Schema} (hschema : schema ∈ d.schemas)
    {g : AttributeGroup} (hg : g ∈ schema.attributeGroups) :
    AllSpellable (g.attributes.flatMap (·.names)) := by
  have hnames := spellable_schema h hschema
  rw [Schema.names, allSpellable_cons] at hnames
  simp only [allSpellable_append] at hnames
  exact allSpellable_flatMap.mp hnames.2.1.2 g hg

theorem spellable_group {schema : Schema} (hschema : schema ∈ d.schemas) {g : Group}
    (hg : g ∈ schema.groups) {e : Element} (he : e ∈ g.elements) : AllSpellable e.names := by
  have hnames := spellable_schema h hschema
  simp only [Schema.names, allSpellable_cons, allSpellable_append, allSpellable_flatMap] at hnames
  exact hnames.2.2 g hg e he

end Document

/-! ## References -/

/-- A reference by names that are spelled. -/
def TypeRef.Spelled : TypeRef → Prop
  | builtin _ => True
  | own name _ => Naming.Spelling name.toList
  | foreign package name _ => Naming.isSpellable package ∧ Naming.Spelling name.toList

theorem TypeRef.Spelled.identifiers {t : TypeRef} (h : t.Spelled) :
    ∀ name ∈ t.identifiers, Naming.isIdentifier name := by
  cases t with
  | builtin scalar => exact nofun
  | own name kind =>
      exact List.forall_mem_singleton.mpr (Naming.isIdentifier_typeIdentifier h)
  | foreign package name kind =>
      refine List.forall_mem_cons.mpr ⟨Naming.isIdentifier_moduleName h.1, ?_⟩
      exact List.forall_mem_singleton.mpr (Naming.isIdentifier_typeIdentifier h.2)

namespace Resolver

open SymbolTable

variable {d : Document} (h : AllSpellable d.names) {package : Option String} {name : String}

include h

theorem reference_spelled {s : Symbol} (hs : s ∈ d.symbols) : (reference package s).Spelled := by
  obtain ⟨hname, hpackage⟩ := Document.spellable_symbol h hs
  unfold reference
  dsimp only
  split
  · exact Naming.typeName_spelling hname
  · exact ⟨hpackage, Naming.typeName_spelling hname⟩

theorem fallback_spelled {bare : String} (hbare : Naming.isSpellable bare) :
    ((ofDocument d).fallback package bare).Spelled := by
  cases package with
  | some own => exact Naming.typeName_spelling hbare
  | none => exact ⟨Document.spellable_rootPackage h, Naming.typeName_spelling hbare⟩

theorem resolveType_spelled (hname : Naming.isSpellable (Naming.localName name)) :
    ((ofDocument d).resolveType package name).Spelled := by
  unfold resolveType
  dsimp only
  split
  · trivial
  · split
    · next s hs =>
        obtain ⟨key, hmem, -⟩ := (ofDocument_lists d).types.mem hs
        exact reference_spelled h (mem_named hmem).1
    · exact fallback_spelled h hname

theorem ofSymbol_spelled {s : Symbol} (hs : s ∈ d.symbols) :
    ((ofDocument d).ofSymbol package s).Spelled := by
  unfold ofSymbol
  split
  · next e he =>
      split
      · next type htype =>
          obtain ⟨schema, hschema, -, hdeclares⟩ := Document.declares_of_mem hs
          rw [he] at hdeclares
          cases hdeclares with
          | element he _ =>
              have hnames := spellable_parts (Document.spellable_element h hschema he)
              exact resolveType_spelled h (hnames.2.2.1 type htype)
      · exact reference_spelled h hs
  · exact reference_spelled h hs

theorem resolve_spelled (hname : Naming.isSpellable (Naming.localName name)) :
    ((ofDocument d).resolve package name).Spelled := by
  unfold resolve
  dsimp only
  split
  · trivial
  · split
    · next s hs =>
        obtain ⟨key, hmem, -⟩ := (ofDocument_lists d).all.mem hs
        exact ofSymbol_spelled h (mem_named hmem).1
    · exact fallback_spelled h hname

theorem resolveElement_spelled (hname : Naming.isSpellable (Naming.localName name)) :
    ((ofDocument d).resolveElement package name).Spelled := by
  unfold resolveElement
  split
  · next s hs =>
      obtain ⟨key, hmem, -⟩ := (ofDocument_lists d).elements.mem hs
      exact ofSymbol_spelled h (mem_named hmem).1
  · exact resolve_spelled h hname

end Resolver

end SoapBindings
