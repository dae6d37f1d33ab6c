/-
# `SoapBindings.Proofs.Reordering` — documents in another order

A document is reordered by putting the complex types of its schemas into another order.  What is
declared stays the same, and so does the weight of the document.  The tables list the same
definitions in another order, so where no two definitions share a key every search in them finds
what it found before: the two documents resolve every reference alike.
-/
import Mathlib.Data.List.Forall2
import Mathlib.Data.List.Nodup
import SoapBindings.Emission.Bound
import SoapBindings.Proofs.Resolution

namespace SoapBindings

open Xsd

/-! ## Schemas -/

namespace Xsd

theorem total_perm {weights weights' : List Nat} (h : weights.Perm weights') :
    total weights = total weights' :=
  h.foldr_eq' (fun _ _ _ _ _ => by omega) 0

/-- The complex types of the schema are put into another order, and nothing else is touched. -/
def Schema.Reordered (s s' : Schema) : Prop :=
  s.complexTypes.Perm s'.complexTypes ∧ s' = { s with complexTypes := s'.complexTypes }

namespace Schema.Reordered

variable {s s' : Schema} (h : s.Reordered s')

include h

theorem symm : s'.Reordered s := by
  obtain ⟨htypes, hrest⟩ := h
  exact ⟨htypes.symm, by rw [hrest]⟩

theorem identifier : s.identifier = s'.identifier := by rw [h.2]

theorem declares {xmlName : String} {definition : Definition}
    (hdeclares : s.Declares xmlName definition) : s'.Declares xmlName definition := by
  obtain ⟨htypes, hrest⟩ := h
  cases hdeclares with
  | element he hname => exact .element (by rwa [hrest]) hname
  | simpleType ht hname => exact .simpleType (by rwa [hrest]) hname
  | complexType ht hname => exact .complexType (htypes.subset ht) hname
  | attributeGroup hg hname => exact .attributeGroup (by rwa [hrest]) hname

theorem symbols : s.symbols.Perm s'.symbols := by
  obtain ⟨htypes, hrest⟩ := h
  rw [hrest]
  exact ((htypes.filterMap _).append_left _).append_right _

theorem groups :
    SymbolTable.namedGroups s.identifier s.groups =
      SymbolTable.namedGroups s'.identifier s'.groups := by
  rw [h.2]

theorem weight : s.weight = s'.weight := by
  obtain ⟨htypes, hrest⟩ := h
  rw [hrest]
  unfold Schema.weight
  rw [total_perm (htypes.map _)]

end Schema.Reordered

end Xsd

/-! ## Documents -/

namespace Document

/-- The complex types of every schema are put into some other order. -/
structure Reordered (d d' : Document) : Prop where
  own : List.Forall₂ Schema.Reordered d.definitions.schemas d'.definitions.schemas
  registered : List.Forall₂ Schema.Reordered d.registry.schemas d'.registry.schemas
  rest : d' = { d with
    definitions := { d.definitions with schemas := d'.definitions.schemas }
    registry := d'.registry }

/-- No two definitions at the top of a schema have one name but for the size of its letters. -/
def KeysApart (d : Document) : Prop := (d.symbols.map fun s => Text.lowercaseText s.name).Nodup

instance (d : Document) : Decidable d.KeysApart := by
  unfold KeysApart
  infer_instance

namespace Reordered

variable {d d' : Document} (h : d.Reordered d')

include h

theorem symm : d'.Reordered d where
  own := .flip (h.own.imp fun _ _ => .symm)
  registered := .flip (h.registered.imp fun _ _ => .symm)
  rest := by rw [h.rest]

theorem rootPackage : d.rootPackage = d'.rootPackage := by rw [h.rest]

theorem schemas : List.Forall₂ Schema.Reordered d.schemas d'.schemas :=
  List.rel_append h.own h.registered

/-- What is told of a schema whatever the order of its types is told of the document. -/
theorem map_eq {α : Type} {f : Schema → α} (hf : ∀ s s' : Schema, s.Reordered s' → f s = f s') :
    d.schemas.map f = d'.schemas.map f := by
  rw [← List.forall₂_eq_eq_eq, List.forall₂_map_left_iff, List.forall₂_map_right_iff]
  exact h.schemas.imp hf

theorem schemasIn {package : String} {schema : Schema} (hschema : schema ∈ d.schemasIn package) :
    ∃ schema' ∈ d'.schemasIn package, schema.Reordered schema' := by
  have hmem {schemas schemas' : List Schema}
      (h : List.Forall₂ Schema.Reordered schemas schemas') (hschema : schema ∈ schemas) :
      ∃ schema' ∈ schemas', schema.Reordered schema' := by
    induction h with
    | nil => cases hschema
    | cons hhead _ ih =>
        obtain rfl | hschema := List.mem_cons.mp hschema
        · exact ⟨_, List.mem_cons_self, hhead⟩
        · obtain ⟨schema', hschema', hreordered⟩ := ih hschema
          exact ⟨schema', List.mem_cons_of_mem _ hschema', hreordered⟩
  obtain ⟨hschema, hpackage⟩ := List.mem_filter.mp hschema
  obtain ⟨schema', hschema', hreordered⟩ := hmem h.schemas hschema
  exact ⟨schema', List.mem_filter.mpr ⟨hschema', hreordered.identifier ▸ hpackage⟩, hreordered⟩

theorem symbols : d.symbols.Perm d'.symbols := by
  have hsymbols {schemas schemas' : List Schema}
      (h : List.Forall₂ Schema.Reordered schemas schemas') :
      (schemas.flatMap (·.symbols)).Perm (schemas'.flatMap (·.symbols)) := by
    induction h with
    | nil => rfl
    | cons hhead _ ih => exact hhead.symbols.append ih
  exact hsymbols h.schemas

theorem keysApart (hkeys : d.KeysApart) : d'.KeysApart := (h.symbols.map _).nodup_iff.mp hkeys

theorem groups :
    (d.schemas.flatMap fun s => SymbolTable.namedGroups s.identifier s.groups) =
      d'.schemas.flatMap fun s => SymbolTable.namedGroups s.identifier s.groups := by
  rw [List.flatMap_def, List.flatMap_def, h.map_eq fun _ _ => Schema.Reordered.groups]

theorem expansionBound : d.expansionBound = d'.expansionBound := by
  unfold Document.expansionBound Document.weight
  rw [h.map_eq fun _ _ => Schema.Reordered.weight]

end Reordered

end Document

/-! ## Tables -/

namespace Table

variable {α : Type} {items : List (String × α)}

/-- Where no two values have one key, whatever has the key is found. -/
theorem find?_sameKey_iff (hkeys : (items.map fun item => Text.lowercaseText item.1).Nodup)
    (wanted : String) (item : String × α) :
    items.find? (fun item => sameKey item.1 wanted) = some item ↔
      item ∈ items ∧ sameKey item.1 wanted := by
  refine ⟨fun h => ⟨List.mem_of_find?_eq_some h, by simpa using List.find?_some h⟩,
    fun ⟨hmem, hkey⟩ => ?_⟩
  have hsome : (items.find? fun item => sameKey item.1 wanted).isSome :=
    List.find?_isSome.mpr ⟨item, hmem, hkey⟩
  obtain ⟨other, hother⟩ := Option.isSome_iff_exists.mp hsome
  have hkey' : sameKey other.1 wanted := by simpa using List.find?_some hother
  have hsame : Text.lowercaseText other.1 = Text.lowercaseText item.1 :=
    (eq_of_beq hkey').trans (eq_of_beq hkey).symm
  rw [hother, List.inj_on_of_nodup_map hkeys (List.mem_of_find?_eq_some hother) hmem hsame]

/-- Where no two values have one key, a search does not depend on their order. -/
theorem Lists.perm {t t' : Table α} {items' : List (String × α)} (h : t.Lists items)
    (h' : t'.Lists items') (hperm : items.Perm items')
    (hkeys : (items.map fun item => Text.lowercaseText item.1).Nodup) (wanted : String) :
    t.find? wanted = t'.find? wanted := by
  have hkeys' : (items'.map fun item => Text.lowercaseText item.1).Nodup :=
    (hperm.map _).nodup_iff.mp hkeys
  rw [h wanted, h' wanted]
  congr 1
  ext item
  rw [find?_sameKey_iff hkeys, find?_sameKey_iff hkeys', hperm.mem_iff]

end Table

namespace Resolver

/-- Two resolvers find the same. -/
structure Agree (r r' : Resolver) : Prop where
  rootPackage : r.rootPackage = r'.rootPackage
  all : ∀ name, r.symbols.all.find? name = r'.symbols.all.find? name
  elements : ∀ name, r.symbols.elements.find? name = r'.symbols.elements.find? name
  types : ∀ name, r.symbols.types.find? name = r'.symbols.types.find? name
  attributeGroups : ∀ name,
    r.symbols.attributeGroups.find? name = r'.symbols.attributeGroups.find? name
  groups : ∀ name, r.symbols.groups.find? name = r'.symbols.groups.find? name

namespace Agree

variable {r r' : Resolver} (h : r.Agree r') (package : Option String) (name : String)

include h

theorem resolveType : r.resolveType package name = r'.resolveType package name := by
  simp only [Resolver.resolveType, fallback, h.types, h.rootPackage]

theorem ofSymbol (s : Symbol) : r.ofSymbol package s = r'.ofSymbol package s := by
  simp only [Resolver.ofSymbol, h.resolveType]

theorem resolve : r.resolve package name = r'.resolve package name := by
  simp only [Resolver.resolve, fallback, h.all, h.ofSymbol, h.rootPackage]

theorem resolveElement : r.resolveElement package name = r'.resolveElement package name := by
  simp only [Resolver.resolveElement, h.elements, h.ofSymbol, h.resolve]

omit name in
theorem baseType? : r.baseType? = r'.baseType? :=
  funext fun name => by simp only [Resolver.baseType?, h.types]

theorem complexType? : r.complexType? name = r'.complexType? name := by
  simp only [Resolver.complexType?, h.all, h.baseType?]

theorem attributeGroup? : r.attributeGroup? name = r'.attributeGroup? name := by
  simp only [Resolver.attributeGroup?, h.attributeGroups]

theorem group? : r.group? name = r'.group? name := by
  simp only [Resolver.group?, h.groups]

end Agree

end Resolver

/-- Documents that differ in their order resolve every reference alike. -/
theorem Document.Reordered.resolves {d d' : Document} (h : d.Reordered d') (hkeys : d.KeysApart) :
    (Resolver.ofDocument d).Agree (.ofDocument d') := by
  have hlists := SymbolTable.ofDocument_lists d
  have hlists' := SymbolTable.ofDocument_lists d'
  have hnamed (kinds : SymbolKind → Bool) :
      (SymbolTable.named kinds d.symbols).Perm (SymbolTable.named kinds d'.symbols) :=
    (h.symbols.filter _).map _
  have hapart (kinds : SymbolKind → Bool) :
      ((SymbolTable.named kinds d.symbols).map fun item => Text.lowercaseText item.1).Nodup := by
    unfold SymbolTable.named
    rw [List.map_map]
    exact hkeys.sublist (List.filter_sublist.map _)
  exact {
    rootPackage := h.rootPackage
    all := hlists.all.perm hlists'.all (hnamed _) (hapart _)
    elements := hlists.elements.perm hlists'.elements (hnamed _) (hapart _)
    types := hlists.types.perm hlists'.types (hnamed _) (hapart _)
    attributeGroups := hlists.attributeGroups.perm hlists'.attributeGroups (hnamed _) (hapart _)
    groups := fun name => by
      have hgroups := SymbolTable.ofDocument_groups d name
      rw [h.groups] at hgroups
      exact hgroups.trans (SymbolTable.ofDocument_groups d' name).symm }

end SoapBindings
