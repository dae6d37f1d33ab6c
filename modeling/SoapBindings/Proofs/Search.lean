/-
# `SoapBindings.Proofs.Search` — resolution is a search in order

Tables are filled side by side and references are looked up in them in three ways, but all of this
comes to one search.  The definitions of a document stand in one list, made from those that its
schemas have (`Document.entries`).  Some kinds of them are candidates, and the first candidate under
the name of a reference is what it finds.  An element with a type of its own leads on to the first
simple or complex type under the name of that type, and no further.

A `Finding` keeps the definition itself, which the reference made from it does not.  So it can be
said of a definition that is looked up for its content that it is the very one that the reference
stands for (`definitions_agree`).
-/
import SoapBindings.Proofs.Lookup

namespace SoapBindings

open Xsd

/-! ## Entries -/

/-- The name that a definition is declared under, if it has one. -/
def Definition.name? : Definition → Option String
  | element e => e.name
  | simpleType t => t.name
  | complexType t => t.name
  | attributeGroup g => g.name

namespace Xsd.Schema

/-- The definitions of a schema: its elements, then its simple types, its complex types and its
attribute groups, each kind as declared. -/
def definitions (schema : Schema) : List Definition :=
  schema.elements.map .element ++ schema.simpleTypes.map .simpleType ++
    schema.complexTypes.map .complexType ++ schema.attributeGroups.map .attributeGroup

/-- The definitions that have a name, under it. -/
def entries (schema : Schema) : List Symbol :=
  schema.definitions.filterMap fun definition => definition.name?.map fun name =>
    { name, package := schema.identifier, targetNamespace := schema.targetNamespace, definition }

/-- They are what is entered in the tables, and in this order. -/
theorem symbols_eq_entries (schema : Schema) : schema.symbols = schema.entries := by
  unfold symbols entries definitions
  simp only [List.filterMap_append, List.filterMap_map]
  rfl

end Xsd.Schema

namespace Document

/-- The named definitions of a document: those of its own schemas, in order, and then those of the
registry. -/
def entries (d : Document) : List Symbol :=
  (d.definitions.schemas ++ d.registry.schemas).flatMap (·.entries)

theorem symbols_eq_entries (d : Document) : d.symbols = d.entries :=
  List.flatMap_congr fun schema _ => schema.symbols_eq_entries

end Document

/-! ## Searches -/

/-- What a reference finds. -/
inductive Finding where
  | builtin (scalar : Scalar)
  | definition (s : Symbol)
  | nothing (bare : String)

/-- The type that an element refers to instead of having one of its own name. -/
def Symbol.typeOfElement? (s : Symbol) : Option String :=
  match s.definition with
  | .element e => e.type
  | _ => none

/-- The local name of the reference is that of a builtin type, as it is written. -/
def isBuiltin (reference : String) : Bool :=
  (Scalar.ofBuiltin? (Naming.localName reference)).isSome

namespace Document

variable (d : Document)

/-- The definitions of some kinds, in order. -/
def candidates (kinds : SymbolKind → Bool) : List Symbol :=
  d.entries.filter fun s => kinds s.definition.kind

/-- The first definition of some kinds under the name of a reference, in whatever case. -/
def first? (kinds : SymbolKind → Bool) (reference : String) : Option Symbol :=
  firstFound (fun s => some s.name) (d.candidates kinds) reference

/-- Builtin types come before all candidates, and the first candidate is followed. -/
def search (kinds : SymbolKind → Bool) (follow : Symbol → Finding) (reference : String) : Finding :=
  match Scalar.ofBuiltin? (Naming.localName reference) with
  | some scalar => .builtin scalar
  | none =>
    match d.first? kinds reference with
    | some s => follow s
    | none => .nothing (Naming.localName reference)

/-- Simple and complex types are found as they are. -/
def findType : String → Finding := d.search SymbolTable.isType .definition

/-- An element with a type leads on to the type. -/
def follow (s : Symbol) : Finding :=
  match s.typeOfElement? with
  | some type => d.findType type
  | none => .definition s

/-- What any reference finds. -/
def find : String → Finding := d.search (fun _ => true) d.follow

/-- Elements come first, before builtin types as well. -/
def findElement (reference : String) : Finding :=
  match d.first? (· = .element) reference with
  | some s => d.follow s
  | none => d.find reference

end Document

/-- The complex type that a symbol has: its own, or that which an element has in place. -/
def Symbol.complexType? (s : Symbol) : Option ComplexType :=
  match s.definition with
  | .complexType t => some t
  | .element e => e.complexType
  | .simpleType _ | .attributeGroup _ => none

/-- The complex type of what is found, with the name that it is declared under. -/
def Finding.content? : Finding → Option (String × ComplexType)
  | definition s => s.complexType?.map fun t => (s.name, t)
  | builtin _ | nothing _ => none

/-- The reference that is made from a finding.  A definition goes by its bare name in its own
package and with its package anywhere else.  What is not known counts as one of the package at hand
or, where there is none, of the root package. -/
def Finding.typeRef (r : Resolver) (package : Option String) : Finding → TypeRef
  | builtin scalar => .builtin scalar
  | definition s =>
    if package = some s.package then .own (Naming.typeName s.name) (some s.definition.kind)
    else .foreign s.package (Naming.typeName s.name) (some s.definition.kind)
  | nothing bare =>
    if package.isSome then .own (Naming.typeName bare) none
    else .foreign r.rootPackage (Naming.typeName bare) none

theorem Finding.typeRef_nothing {r : Resolver} {package : Option String} (bare : String) :
    (nothing bare).typeRef r package = r.fallback package bare := by
  cases package <;> rfl

/-! ## Tables -/

theorem Table.Lists.find?_named {t : Table Symbol} {kinds : SymbolKind → Bool}
    {symbols : List Symbol} (h : t.Lists (SymbolTable.named kinds symbols)) (wanted : String) :
    t.find? wanted = (symbols.filter fun s => kinds s.definition.kind).find?
      fun s => sameKey s.name wanted := by
  rw [h wanted, SymbolTable.named, List.find?_map, Option.map_map]
  exact Option.map_id'

namespace Resolver

variable (d : Document) (package : Option String) (reference : String)

/-- The tables of a document have the entries of its schemas. -/
theorem symbols_lists : (ofDocument d).symbols.Lists d.entries :=
  d.symbols_eq_entries ▸ SymbolTable.ofDocument_lists d

theorem all_first :
    (ofDocument d).symbols.all.find? (Naming.localName reference) =
      d.first? (fun _ => true) reference :=
  (symbols_lists d).all.find?_named _

theorem elements_first :
    (ofDocument d).symbols.elements.find? (Naming.localName reference) =
      d.first? (· = .element) reference :=
  (symbols_lists d).elements.find?_named _

theorem types_first :
    (ofDocument d).symbols.types.find? (Naming.localName reference) =
      d.first? SymbolTable.isType reference :=
  (symbols_lists d).types.find?_named _

theorem attributeGroups_first :
    (ofDocument d).symbols.attributeGroups.find? (Naming.localName reference) =
      d.first? (· = .attributeGroup) reference :=
  (symbols_lists d).attributeGroups.find?_named _

/-! ## References -/

theorem resolveType_find :
    (ofDocument d).resolveType package reference =
      (d.findType reference).typeRef (ofDocument d) package := by
  unfold resolveType Document.findType Document.search
  dsimp only
  rw [types_first]
  cases Scalar.ofBuiltin? (Naming.localName reference) with
  | some scalar => rfl
  | none =>
      cases d.first? SymbolTable.isType reference with
      | some s => rfl
      | none => exact (Finding.typeRef_nothing _).symm

theorem ofSymbol_follow (s : Symbol) :
    (ofDocument d).ofSymbol package s = (d.follow s).typeRef (ofDocument d) package := by
  unfold ofSymbol Document.follow Symbol.typeOfElement?
  cases s.definition with
  | element e =>
      cases htype : e.type with
      | some type => simpa only [htype] using resolveType_find d package type
      | none => simp only [htype]; rfl
  | simpleType t | complexType t | attributeGroup g => rfl

theorem resolve_find :
    (ofDocument d).resolve package reference =
      (d.find reference).typeRef (ofDocument d) package := by
  unfold resolve Document.find Document.search
  dsimp only
  rw [all_first]
  cases Scalar.ofBuiltin? (Naming.localName reference) with
  | some scalar => rfl
  | none =>
      cases d.first? (fun _ => true) reference with
      | some s => exact ofSymbol_follow d package s
      | none => exact (Finding.typeRef_nothing _).symm

theorem resolveElement_find :
    (ofDocument d).resolveElement package reference =
      (d.findElement reference).typeRef (ofDocument d) package := by
  unfold resolveElement Document.findElement
  rw [elements_first]
  cases d.first? (· = .element) reference with
  | some s => exact ofSymbol_follow d package s
  | none => exact resolve_find d package reference

/-- Among attribute groups, what is found is what is answered. -/
theorem attributeGroup?_find :
    (ofDocument d).attributeGroup? reference =
      (d.first? (· = .attributeGroup) reference).bind Symbol.attributeGroup? := by
  unfold attributeGroup?
  rw [attributeGroups_first]
  cases d.first? (· = .attributeGroup) reference <;> rfl

/-! ## Definitions -/

theorem baseType?_find :
    (ofDocument d).baseType? reference = (d.findType reference).content? := by
  unfold baseType? Document.findType Document.search
  dsimp only
  rw [types_first]
  cases Scalar.ofBuiltin? (Naming.localName reference) with
  | some scalar => rfl
  | none =>
      cases hfirst : d.first? SymbolTable.isType reference with
      | none => rfl
      | some s =>
          have hkind : SymbolTable.isType s.definition.kind = true :=
            (List.mem_filter.mp (List.mem_of_find?_eq_some hfirst)).2
          unfold Finding.content? Symbol.complexType?
          cases hdefinition : s.definition with
          | simpleType t | complexType t | attributeGroup g => simp [hdefinition]
          | element e => simp [hdefinition, Definition.kind, SymbolTable.isType] at hkind

theorem complexType?_find :
    (ofDocument d).complexType? reference = (d.find reference).content? := by
  unfold complexType? Document.find Document.search
  dsimp only
  rw [all_first]
  cases Scalar.ofBuiltin? (Naming.localName reference) with
  | some scalar => rfl
  | none =>
      cases d.first? (fun _ => true) reference with
      | none => rfl
      | some s =>
          unfold Document.follow Symbol.typeOfElement?
          cases hdefinition : s.definition with
          | element e =>
              cases htype : e.type with
              | some type => simpa [hdefinition, htype] using baseType?_find d type
              | none => simp [hdefinition, htype, Finding.content?, Symbol.complexType?]
          | simpleType t | complexType t | attributeGroup g =>
              simp [hdefinition, Finding.content?, Symbol.complexType?]

end Resolver

/-! ## What references say of findings -/

namespace Finding

variable {r : Resolver} {package : Option String}

theorem typeRef_builtin_iff {found : Finding} {scalar : Scalar} :
    found.typeRef r package = .builtin scalar ↔ found = .builtin scalar := by
  cases found with
  | builtin scalar => simp [typeRef]
  | definition s =>
      unfold typeRef
      dsimp only
      split <;> simp
  | nothing bare => cases package <;> simp [typeRef]

/-- The kind is that of the definition. -/
theorem typeRef_kind? (found : Finding) :
    (found.typeRef r package).kind? =
      match found with
      | definition s => some s.definition.kind
      | builtin _ | nothing _ => none := by
  cases found with
  | builtin scalar => rfl
  | definition s => exact Resolver.reference_kind? package s
  | nothing bare => cases package <;> rfl

theorem typeRef_kind?_iff {found : Finding} {kind : SymbolKind} :
    (found.typeRef r package).kind? = some kind ↔
      ∃ s, found = .definition s ∧ s.definition.kind = kind := by
  rw [typeRef_kind?]
  cases found <;> simp

/-- A name without a kind is one that nothing was found for. -/
theorem typeRef_unknown_iff {found : Finding} :
    ((found.typeRef r package).name?.isSome ∧ (found.typeRef r package).kind? = none) ↔
      ∃ bare, found = .nothing bare := by
  cases found with
  | builtin scalar => simp [typeRef, TypeRef.name?]
  | definition s => simp [typeRef_kind?]
  | nothing bare => cases package <;> simp [typeRef, TypeRef.name?, TypeRef.kind?]

end Finding

namespace Document

variable {d : Document} {reference : String}

/-! ## Findings by cases -/

section Search

variable {kinds : SymbolKind → Bool} {follow : Symbol → Finding}

theorem search_builtin_iff :
    (∃ scalar, d.search kinds follow reference = .builtin scalar) ↔
      isBuiltin reference = true ∨
        ∃ s, d.first? kinds reference = some s ∧ ∃ scalar, follow s = .builtin scalar := by
  unfold search isBuiltin
  cases Scalar.ofBuiltin? (Naming.localName reference) with
  | some scalar => simp
  | none => cases d.first? kinds reference <;> simp

theorem search_definition_iff {s : Symbol} :
    d.search kinds follow reference = .definition s ↔
      isBuiltin reference = false ∧
        ∃ first, d.first? kinds reference = some first ∧ follow first = .definition s := by
  unfold search isBuiltin
  cases Scalar.ofBuiltin? (Naming.localName reference) with
  | some scalar => simp
  | none => cases d.first? kinds reference <;> simp

theorem search_nothing_iff :
    (∃ bare, d.search kinds follow reference = .nothing bare) ↔
      isBuiltin reference = false ∧ (d.first? kinds reference = none ∨
        ∃ s, d.first? kinds reference = some s ∧ ∃ bare, follow s = .nothing bare) := by
  unfold search isBuiltin
  cases Scalar.ofBuiltin? (Naming.localName reference) with
  | some scalar => simp
  | none => cases d.first? kinds reference <;> simp

end Search

theorem findType_definition_iff {s : Symbol} :
    d.findType reference = .definition s ↔
      isBuiltin reference = false ∧ d.first? SymbolTable.isType reference = some s := by
  unfold findType
  rw [search_definition_iff]
  simp

theorem follow_builtin_iff {s : Symbol} :
    (∃ scalar, d.follow s = .builtin scalar) ↔
      ∃ type, s.typeOfElement? = some type ∧ isBuiltin type = true := by
  unfold follow
  cases s.typeOfElement? with
  | none => simp
  | some type =>
      dsimp only
      rw [findType, search_builtin_iff]
      simp

theorem follow_nothing_iff {s : Symbol} :
    (∃ bare, d.follow s = .nothing bare) ↔
      ∃ type, s.typeOfElement? = some type ∧ isBuiltin type = false ∧
        d.first? SymbolTable.isType type = none := by
  unfold follow
  cases s.typeOfElement? with
  | none => simp
  | some type =>
      dsimp only
      rw [findType, search_nothing_iff]
      simp

/-- Where a definition of the document itself is a candidate, no registered one is found. -/
theorem first?_own {kinds : SymbolKind → Bool} {s : Symbol}
    (hs : s ∈ d.definitions.schemas.flatMap (·.entries)) (hkind : kinds s.definition.kind = true)
    (hkey : sameKey s.name (Naming.localName reference) = true) :
    ∃ own ∈ d.definitions.schemas.flatMap (·.entries), d.first? kinds reference = some own := by
  let ownCandidates := (d.definitions.schemas.flatMap (·.entries)).filter
    fun s => kinds s.definition.kind
  have hown : s ∈ ownCandidates := List.mem_filter.mpr ⟨hs, hkind⟩
  have hsome : (firstFound (fun s : Symbol => some s.name) ownCandidates reference).isSome :=
    List.find?_isSome.mpr ⟨s, hown, hkey⟩
  obtain ⟨first, hfirst⟩ := Option.isSome_iff_exists.mp hsome
  refine ⟨first, List.mem_of_mem_filter (List.mem_of_find?_eq_some hfirst), ?_⟩
  unfold firstFound at hfirst
  rw [first?, firstFound, candidates, entries, List.flatMap_append, List.filter_append,
    List.find?_append, hfirst]
  rfl

/-- **Resolution is a search in order.**  Every reference is made from what a search in the entries
of the document finds: among all of them, among simple and complex types, or among elements before
anything else; and so is the attribute group that is found among those.  A builtin type is answered
exactly if the reference has the name of one, or if the first definition under its name is an
element whose type has; and a name that nothing is known of exactly if no definition has the name of
the reference, or none the name of that type.  A definition of the document itself that is a
candidate keeps out those of the registry. -/
theorem resolution_searches (d : Document) (package : Option String) (reference : String) :
    let r := Resolver.ofDocument d
    (r.resolve package reference = (d.find reference).typeRef r package ∧
      r.resolveType package reference = (d.findType reference).typeRef r package ∧
      r.resolveElement package reference = (d.findElement reference).typeRef r package ∧
      r.attributeGroup? reference =
        (d.first? (· = .attributeGroup) reference).bind Symbol.attributeGroup?) ∧
    ((∃ scalar, r.resolve package reference = .builtin scalar) ↔
      isBuiltin reference = true ∨ ∃ s type, d.first? (fun _ => true) reference = some s ∧
        s.typeOfElement? = some type ∧ isBuiltin type = true) ∧
    (((r.resolve package reference).name?.isSome ∧ (r.resolve package reference).kind? = none) ↔
      isBuiltin reference = false ∧ (d.first? (fun _ => true) reference = none ∨
        ∃ s type, d.first? (fun _ => true) reference = some s ∧ s.typeOfElement? = some type ∧
          isBuiltin type = false ∧ d.first? SymbolTable.isType type = none)) ∧
    ∀ kinds, ∀ s ∈ d.definitions.schemas.flatMap (·.entries), kinds s.definition.kind = true →
      sameKey s.name (Naming.localName reference) = true →
      ∃ own ∈ d.definitions.schemas.flatMap (·.entries), d.first? kinds reference = some own := by
  dsimp only
  refine ⟨⟨Resolver.resolve_find .., Resolver.resolveType_find .., Resolver.resolveElement_find ..,
      Resolver.attributeGroup?_find ..⟩, ?_, ?_,
    fun kinds s hs hkind hkey => first?_own hs hkind hkey⟩
  · rw [Resolver.resolve_find]
    simp only [Finding.typeRef_builtin_iff]
    rw [find, search_builtin_iff]
    simp only [follow_builtin_iff, exists_and_left]
  · rw [Resolver.resolve_find, Finding.typeRef_unknown_iff, find, search_nothing_iff]
    simp only [follow_nothing_iff, exists_and_left]

/-- A shop with definitions of every kind under two keys.  The schema that is registered has both of
them once more, and one of its own. -/
def shop : Document where
  kind := .xsd
  location := none
  rootPackage := "shop"
  definitions := {
    schemas := [{
      identifier := "shop"
      elements := [{ ref := some "t:Pallet" }, { name := some "Item", type := some "t:size" }]
      simpleTypes := [{ name := some "SIZE" }]
      complexTypes := [{ name := some "ITEM" }, { name := some "Size" }]
      attributeGroups := [{ name := some "item" }] }] }
  registry := {
    schemas := [{
      identifier := "stock"
      elements := [{ name := some "pallet" }]
      simpleTypes := [{ name := some "Item" }, { name := some "Size" }] }] }

/-- The element comes first among all, and leads on to a simple type; among types its key is that of
a complex type; and what the registry has under a name of the shop is not found. -/
theorem resolution_searches_shop :
    let r := Resolver.ofDocument shop
    shop.entries.map (fun s => (s.name, s.definition.kind)) =
      [("Item", .element), ("SIZE", .simpleType), ("ITEM", .complexType), ("Size", .complexType),
        ("item", .attributeGroup), ("pallet", .element), ("Item", .simpleType),
        ("Size", .simpleType)] ∧
    r.resolve (some "shop") "t:item" = .own "SIZE" (some .simpleType) ∧
    r.resolveType (some "shop") "t:item" = .own "ITEM" (some .complexType) ∧
    r.resolveElement none "t:item" = .foreign "shop" "SIZE" (some .simpleType) ∧
    r.resolve (some "shop") "t:Pallet" = .foreign "stock" "Pallet" (some .element) ∧
    (r.attributeGroup? "t:item").map (·.name) = some (some "item") ∧
    ∃ own ∈ shop.definitions.schemas.flatMap (·.entries),
      shop.first? SymbolTable.isType "t:item" = some own := by
  obtain ⟨⟨hresolve, htype, -, -⟩, -, -, hown⟩ := resolution_searches shop (some "shop") "t:item"
  obtain ⟨⟨-, -, helement, hgroup⟩, -⟩ := resolution_searches shop none "t:item"
  obtain ⟨⟨hpallet, -⟩, -⟩ := resolution_searches shop (some "shop") "t:Pallet"
  have hitem : sameKey "ITEM" (Naming.localName "t:item") = true := by decide +kernel
  refine ⟨by decide +kernel, ?_, ?_, ?_, ?_, ?_, ?_⟩
  · exact hresolve.trans (by decide +kernel)
  · exact htype.trans (by decide +kernel)
  · exact helement.trans (by decide +kernel)
  · exact hpallet.trans (by decide +kernel)
  · rw [hgroup]
    decide +kernel
  · exact hown SymbolTable.isType ⟨"ITEM", "shop", none, .complexType { name := some "ITEM" }⟩
      (.tail _ (.tail _ (.head _))) rfl hitem

/-! ## Content -/

/-- Only types are found among types. -/
theorem findType_isType {s : Symbol} (h : d.findType reference = .definition s) :
    SymbolTable.isType s.definition.kind = true :=
  (List.mem_filter.mp (List.mem_of_find?_eq_some (findType_definition_iff.mp h).2)).2

/-- An element that is found itself has no type to lead on to. -/
theorem find_untyped {s : Symbol} (h : d.find reference = .definition s) {e : Element}
    (he : s.definition = .element e) : e.type = none := by
  obtain ⟨-, first, -, hfollow⟩ := search_definition_iff.mp h
  unfold follow at hfollow
  split at hfollow
  · next type _ =>
      have hkind := findType_isType hfollow
      rw [he] at hkind
      cases hkind
  · next hnone =>
      cases hfollow
      simpa only [Symbol.typeOfElement?, he] using hnone

theorem content?_eq_some_iff {found : Finding} {name : String} {t : ComplexType} :
    found.content? = some (name, t) ↔
      ∃ s, found = .definition s ∧ s.name = name ∧ s.complexType? = some t := by
  cases found with
  | definition s => simp [Finding.content?, and_comm]
  | builtin scalar => simp [Finding.content?]
  | nothing bare => simp [Finding.content?]

theorem content?_isSome_iff {found : Finding} :
    found.content?.isSome ↔ ∃ s, found = .definition s ∧ s.complexType?.isSome := by
  cases found <;> simp [Finding.content?]

theorem complexType?_eq_some_iff {s : Symbol} {t : ComplexType} :
    s.complexType? = some t ↔
      s.definition = .complexType t ∨ ∃ e, s.definition = .element e ∧ e.complexType = some t := by
  unfold Symbol.complexType?
  cases s.definition <;> simp

/-- Which definitions have a complex type can be told from their kinds, except for elements. -/
theorem complexType?_isSome_iff {s : Symbol} :
    s.complexType?.isSome ↔
      s.definition.kind = .complexType ∨
        ∃ e, s.definition = .element e ∧ e.complexType.isSome := by
  unfold Symbol.complexType?
  cases s.definition <;> simp [Definition.kind]

/-- Among types, only complex types have one. -/
theorem findType_complexType? {s : Symbol} (h : d.findType reference = .definition s)
    {t : ComplexType} (ht : s.complexType? = some t) : s.definition = .complexType t := by
  obtain hdefinition | ⟨e, he, -⟩ := complexType?_eq_some_iff.mp ht
  · exact hdefinition
  · have hkind := findType_isType h
    rw [he] at hkind
    cases hkind

/-- **Definitions are looked up as references are.**  A base or any reference has known content
exactly if the reference is one to a complex type, or to an element that has one in place; and then
the content is that of the very definition which the reference is made from, whose name both of them
have. -/
theorem definitions_agree (d : Document) (package : Option String) (reference : String) :
    let r := Resolver.ofDocument d
    (((r.baseType? reference).isSome ↔
        (r.resolveType package reference).kind? = some .complexType) ∧
      ∀ name t, r.baseType? reference = some (name, t) →
        ∃ s, d.findType reference = .definition s ∧
          r.resolveType package reference = Resolver.reference package s ∧
          (r.resolveType package reference).name? = some (Naming.typeName name) ∧
          s.name = name ∧ s.definition = .complexType t) ∧
    ((r.complexType? reference).isSome ↔
        (r.resolve package reference).kind? = some .complexType ∨
          (r.resolve package reference).kind? = some .element ∧
            ∃ s e, d.find reference = .definition s ∧ s.definition = .element e ∧
              e.complexType.isSome) ∧
      ∀ name t, r.complexType? reference = some (name, t) →
        ∃ s, d.find reference = .definition s ∧
          r.resolve package reference = Resolver.reference package s ∧
          (r.resolve package reference).name? = some (Naming.typeName name) ∧
          s.name = name ∧
          (s.definition = .complexType t ∨
            ∃ e, s.definition = .element e ∧ e.type = none ∧ e.complexType = some t) := by
  dsimp only
  simp only [Resolver.baseType?_find, Resolver.complexType?_find, Resolver.resolveType_find,
    Resolver.resolve_find, content?_isSome_iff, content?_eq_some_iff, Finding.typeRef_kind?_iff]
  refine ⟨⟨⟨?_, ?_⟩, ?_⟩, ⟨?_, ?_⟩, ?_⟩
  · rintro ⟨s, hfound, hcontent⟩
    obtain ⟨t, ht⟩ := Option.isSome_iff_exists.mp hcontent
    exact ⟨s, hfound, by rw [findType_complexType? hfound ht]; rfl⟩
  · rintro ⟨s, hfound, hkind⟩
    exact ⟨s, hfound, complexType?_isSome_iff.mpr (.inl hkind)⟩
  · rintro _ t ⟨s, hfound, rfl, ht⟩
    rw [hfound]
    exact ⟨s, rfl, rfl, Resolver.reference_name? package s, rfl, findType_complexType? hfound ht⟩
  · rintro ⟨s, hfound, hcontent⟩
    obtain hkind | ⟨e, he, hinline⟩ := complexType?_isSome_iff.mp hcontent
    · exact .inl ⟨s, hfound, hkind⟩
    · exact .inr ⟨⟨s, hfound, by rw [he]; rfl⟩, s, e, hfound, he, hinline⟩
  · rintro (⟨s, hfound, hkind⟩ | ⟨-, s, e, hfound, he, hinline⟩)
    · exact ⟨s, hfound, complexType?_isSome_iff.mpr (.inl hkind)⟩
    · exact ⟨s, hfound, complexType?_isSome_iff.mpr (.inr ⟨e, he, hinline⟩)⟩
  · rintro _ t ⟨s, hfound, rfl, ht⟩
    refine ⟨s, hfound, by rw [hfound]; rfl, ?_, rfl, ?_⟩
    · rw [hfound]
      exact Resolver.reference_name? package s
    · obtain hdefinition | ⟨e, he, hinline⟩ := complexType?_eq_some_iff.mp ht
      · exact .inl hdefinition
      · exact .inr ⟨e, he, find_untyped hfound he, hinline⟩

end Document

end SoapBindings
