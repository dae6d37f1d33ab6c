/-
# `SoapBindings.Proofs.Resolution` — what resolution finds

A table is filled by insertions of which the first under a key stays, so a search in it is a search
in the list of all that was inserted.  `Lists` says so of every table at once; it is kept by each
insertion, hence it holds of the tables of a document.

What a search finds is therefore a definition of the document.  References inherit that: a reference
of known kind leads to a definition that is declared under its name, and `Leads` lists the forms
that a reference can have.
-/
import SoapBindings.Resolution

namespace SoapBindings

open Xsd

/-! ## Definitions of a document -/

/-- The schema has a definition under a name. -/
inductive Xsd.Schema.Declares (schema : Schema) : String → Definition → Prop
  | element {e : Element} {name : String} :
      e ∈ schema.elements → e.name = some name → Declares schema name (.element e)
  | simpleType {t : SimpleType} {name : String} :
      t ∈ schema.simpleTypes → t.name = some name → Declares schema name (.simpleType t)
  | complexType {t : ComplexType} {name : String} :
      t ∈ schema.complexTypes → t.name = some name → Declares schema name (.complexType t)
  | attributeGroup {g : AttributeGroup} {name : String} :
      g ∈ schema.attributeGroups → g.name = some name → Declares schema name (.attributeGroup g)

theorem Xsd.Schema.declares_of_mem {schema : Schema} {s : Symbol} (h : s ∈ schema.symbols) :
    s.package = schema.identifier ∧ schema.Declares s.name s.definition := by
  simp only [symbols, List.mem_append, List.mem_filterMap, Option.map_eq_some_iff] at h
  obtain ((⟨e, he, name, hname, rfl⟩ | ⟨t, ht, name, hname, rfl⟩) | ⟨t, ht, name, hname, rfl⟩) |
    ⟨g, hg, name, hname, rfl⟩ := h
  · exact ⟨rfl, .element he hname⟩
  · exact ⟨rfl, .simpleType ht hname⟩
  · exact ⟨rfl, .complexType ht hname⟩
  · exact ⟨rfl, .attributeGroup hg hname⟩

theorem Xsd.Schema.Declares.mem_symbols {schema : Schema} {name : String} {definition : Definition}
    (h : schema.Declares name definition) :
    { name, package := schema.identifier, targetNamespace := schema.targetNamespace, definition } ∈
      schema.symbols := by
  simp only [symbols, List.mem_append, List.mem_filterMap, Option.map_eq_some_iff]
  cases h with
  | element he hname => exact .inl (.inl (.inl ⟨_, he, name, hname, rfl⟩))
  | simpleType ht hname => exact .inl (.inl (.inr ⟨_, ht, name, hname, rfl⟩))
  | complexType ht hname => exact .inl (.inr ⟨_, ht, name, hname, rfl⟩)
  | attributeGroup hg hname => exact .inr ⟨_, hg, name, hname, rfl⟩

namespace Document

/-- The named definitions, in the order in which they are entered. -/
def symbols (d : Document) : List Symbol := d.schemas.flatMap (·.symbols)

theorem declares_of_mem {d : Document} {s : Symbol} (h : s ∈ d.symbols) :
    ∃ schema ∈ d.schemas, s.package = schema.identifier ∧ schema.Declares s.name s.definition := by
  obtain ⟨schema, hschema, hs⟩ := List.mem_flatMap.mp h
  exact ⟨schema, hschema, schema.declares_of_mem hs⟩

end Document

/-! ## Tables -/

/-- Two names are one key. -/
def sameKey (a b : String) : Bool := Text.lowercaseText a == Text.lowercaseText b

namespace Table

variable {α : Type}

/-- An insertion only matters to names that nothing was found under. -/
theorem find?_insertFirst (t : Table α) (name : String) (a : α) (wanted : String) :
    (t.insertFirst name a).find? wanted =
      (t.find? wanted).or (if sameKey name wanted then some a else none) := by
  unfold insertFirst find? sameKey
  by_cases hkey : Text.lowercaseText name = Text.lowercaseText wanted
  · rw [hkey]
    cases hfound : t.lookup (Text.lowercaseText wanted) with
    | some b => simp [hfound]
    | none => simp [hfound, List.lookup_append]
  · have hne : (Text.lowercaseText wanted == Text.lowercaseText name) = false := by
      simpa using Ne.symm hkey
    cases hfound : t.lookup (Text.lowercaseText name) <;>
      simp [hfound, List.lookup_append, List.lookup_cons, hkey, hne]

/-- A search in the table is a search for a key in a list of named values. -/
def Lists (t : Table α) (items : List (String × α)) : Prop :=
  ∀ wanted, t.find? wanted = (items.find? fun item => sameKey item.1 wanted).map (·.2)

theorem lists_empty : Lists ([] : Table α) [] := fun _ => rfl

theorem Lists.insertFirst {t : Table α} {items : List (String × α)} (h : t.Lists items)
    (name : String) (a : α) : (t.insertFirst name a).Lists (items ++ [(name, a)]) := by
  intro wanted
  rw [find?_insertFirst, h wanted, List.find?_append]
  cases items.find? fun item => sameKey item.1 wanted with
  | some item => rfl
  | none => cases hkey : sameKey name wanted <;> simp [hkey]

theorem Lists.mem {t : Table α} {items : List (String × α)} (h : t.Lists items) {wanted : String}
    {a : α} (hfound : t.find? wanted = some a) :
    ∃ name, (name, a) ∈ items ∧ sameKey name wanted := by
  rw [h wanted, Option.map_eq_some_iff] at hfound
  obtain ⟨item, hitem, rfl⟩ := hfound
  have hkey := List.find?_some hitem
  exact ⟨item.1, List.mem_of_find?_eq_some hitem, by simpa using hkey⟩

end Table

namespace SymbolTable

/-- The definitions of some kinds, under their names. -/
def named (kinds : SymbolKind → Bool) (symbols : List Symbol) : List (String × Symbol) :=
  (symbols.filter fun s => kinds s.definition.kind).map fun s => (s.name, s)

theorem named_append (kinds : SymbolKind → Bool) (symbols more : List Symbol) :
    named kinds (symbols ++ more) = named kinds symbols ++ named kinds more := by
  simp [named]

theorem named_single (kinds : SymbolKind → Bool) (s : Symbol) :
    named kinds [s] = if kinds s.definition.kind then [(s.name, s)] else [] := by
  cases h : kinds s.definition.kind <;> simp [named, h]

/-- The kinds that the table of types has. -/
def isType : SymbolKind → Bool
  | .simpleType | .complexType => true
  | .element | .attributeGroup => false

/-- Every table has the definitions of its kinds, and the first one under a key is found. -/
structure Lists (t : SymbolTable) (symbols : List Symbol) : Prop where
  all : t.all.Lists (named (fun _ => true) symbols)
  elements : t.elements.Lists (named (· = .element) symbols)
  types : t.types.Lists (named isType symbols)
  attributeGroups : t.attributeGroups.Lists (named (· = .attributeGroup) symbols)

theorem lists_empty : Lists {} [] :=
  ⟨Table.lists_empty, Table.lists_empty, Table.lists_empty, Table.lists_empty⟩

theorem Lists.insert {t : SymbolTable} {symbols : List Symbol} (h : t.Lists symbols) (s : Symbol) :
    (t.insert s).Lists (symbols ++ [s]) := by
  obtain ⟨hall, helements, htypes, hgroups⟩ := h
  unfold SymbolTable.insert
  cases hkind : s.definition.kind <;> constructor <;>
    simp only [named_append, named_single, hkind, isType, decide_true, decide_false, if_true,
      Bool.false_eq_true, if_false, List.append_nil, reduceCtorEq]
  all_goals first
    | exact hall.insertFirst s.name s
    | exact helements.insertFirst s.name s
    | exact htypes.insertFirst s.name s
    | exact hgroups.insertFirst s.name s
    | assumption

theorem Lists.insertAll {t : SymbolTable} {symbols : List Symbol} (h : t.Lists symbols)
    (more : List Symbol) : (more.foldl SymbolTable.insert t).Lists (symbols ++ more) := by
  induction more generalizing t symbols with
  | nil => simpa using h
  | cons s more ih => simpa using ih (h.insert s)

/-- The groups of elements, under their names. -/
def namedGroups (package : String) (groups : List Group) : List (String × String × Group) :=
  groups.filterMap fun g => g.name.map fun name => (name, package, g)

theorem insert_groups (t : SymbolTable) (s : Symbol) : (t.insert s).groups = t.groups := by
  unfold SymbolTable.insert
  cases s.definition.kind <;> rfl

theorem insertAll_groups (t : SymbolTable) (symbols : List Symbol) :
    (symbols.foldl SymbolTable.insert t).groups = t.groups := by
  induction symbols generalizing t with
  | nil => rfl
  | cons s symbols ih => exact (ih _).trans (insert_groups t s)

theorem lists_insertGroups {t : SymbolTable} {items : List (String × String × Group)}
    (h : t.groups.Lists items) (package : String) (groups : List Group) :
    (groups.foldl (insertGroup package) t).groups.Lists (items ++ namedGroups package groups) := by
  induction groups generalizing t items with
  | nil => simpa [namedGroups] using h
  | cons g groups ih =>
      cases hname : g.name with
      | none => simpa [namedGroups, insertGroup, hname] using ih h
      | some name =>
          have hinsert : (insertGroup package t g).groups.Lists
              (items ++ [(name, package, g)]) := by
            simpa [insertGroup, hname] using h.insertFirst name (package, g)
          simpa [namedGroups, hname] using ih hinsert

/-- Groups of elements only go into their own table. -/
theorem Lists.insertGroups {t : SymbolTable} {symbols : List Symbol} (h : t.Lists symbols)
    (package : String) (groups : List Group) :
    (groups.foldl (insertGroup package) t).Lists symbols := by
  induction groups generalizing t with
  | nil => exact h
  | cons g groups ih =>
      refine ih ?_
      unfold insertGroup
      cases g.name with
      | none => exact h
      | some name => exact ⟨h.all, h.elements, h.types, h.attributeGroups⟩

theorem lists_insertSchemas {t : SymbolTable} {symbols : List Symbol}
    {groups : List (String × String × Group)} (h : t.Lists symbols)
    (hgroups : t.groups.Lists groups) (schemas : List Schema) :
    (schemas.foldl insertSchema t).Lists (symbols ++ schemas.flatMap (·.symbols)) ∧
      (schemas.foldl insertSchema t).groups.Lists
        (groups ++ schemas.flatMap fun schema => namedGroups schema.identifier schema.groups) := by
  induction schemas generalizing t symbols groups with
  | nil => simpa using ⟨h, hgroups⟩
  | cons schema schemas ih =>
      have hsymbols := (h.insertAll schema.symbols).insertGroups schema.identifier schema.groups
      have hinsert := lists_insertGroups (t := schema.symbols.foldl SymbolTable.insert t)
        (by rwa [insertAll_groups]) schema.identifier schema.groups
      simpa [insertSchema] using ih hsymbols hinsert

theorem ofDocument_lists (d : Document) : (ofDocument d).Lists d.symbols := by
  simpa [Document.symbols, ofDocument] using
    (lists_insertSchemas lists_empty Table.lists_empty d.schemas).1

theorem ofDocument_groups (d : Document) :
    (ofDocument d).groups.Lists
      (d.schemas.flatMap fun schema => namedGroups schema.identifier schema.groups) := by
  simpa [ofDocument] using (lists_insertSchemas lists_empty Table.lists_empty d.schemas).2

theorem mem_named {kinds : SymbolKind → Bool} {symbols : List Symbol} {name : String} {s : Symbol}
    (h : (name, s) ∈ named kinds symbols) :
    s ∈ symbols ∧ kinds s.definition.kind ∧ s.name = name := by
  simp only [named, List.mem_map, List.mem_filter, Prod.mk.injEq] at h
  obtain ⟨s, ⟨hs, hkind⟩, hname, rfl⟩ := h
  exact ⟨hs, hkind, hname⟩

end SymbolTable

/-! ## Definitions that are found -/

namespace Resolver

open SymbolTable

variable {d : Document} {name : String}

/-- A complex type is found as a definition of the document. -/
theorem baseType?_mem {found : String × ComplexType}
    (h : (ofDocument d).baseType? name = some found) :
    ∃ s ∈ d.symbols, s.name = found.1 ∧ s.definition = .complexType found.2 := by
  unfold baseType? at h
  dsimp only at h
  split at h
  · cases h
  · split at h
    · next s hs =>
        obtain ⟨key, hmem, -⟩ := (ofDocument_lists d).types.mem hs
        split at h
        · next t ht =>
            cases h
            exact ⟨s, (mem_named hmem).1, rfl, ht⟩
        · cases h
    · cases h

/-- The content for a reference is that of a complex type, or of an element without a type. -/
theorem complexType?_mem {found : String × ComplexType}
    (h : (ofDocument d).complexType? name = some found) :
    ∃ s ∈ d.symbols, s.name = found.1 ∧
      (s.definition = .complexType found.2 ∨
        ∃ e, s.definition = .element e ∧ e.type = none ∧ e.complexType = some found.2) := by
  unfold complexType? at h
  dsimp only at h
  split at h
  · cases h
  · split at h
    · next s hs =>
        obtain ⟨key, hmem, -⟩ := (ofDocument_lists d).all.mem hs
        have hsymbol := (mem_named hmem).1
        split at h
        · next e he =>
            split at h
            · obtain ⟨s, hs, hname, hdefinition⟩ := baseType?_mem h
              exact ⟨s, hs, hname, .inl hdefinition⟩
            · next htype =>
                obtain ⟨t, ht, rfl⟩ := Option.map_eq_some_iff.mp h
                exact ⟨s, hsymbol, rfl, .inr ⟨e, he, htype, ht⟩⟩
        · next t ht =>
            cases h
            exact ⟨s, hsymbol, rfl, .inl ht⟩
        · cases h
    · cases h

theorem attributeGroup?_mem {g : AttributeGroup}
    (h : (ofDocument d).attributeGroup? name = some g) :
    ∃ s ∈ d.symbols, s.definition = .attributeGroup g ∧ sameKey s.name (Naming.localName name) := by
  unfold attributeGroup? at h
  split at h
  · next s hs =>
      obtain ⟨key, hmem, hkey⟩ := (ofDocument_lists d).attributeGroups.mem hs
      obtain ⟨hsymbol, -, rfl⟩ := mem_named hmem
      split at h
      · next g hg =>
          cases h
          exact ⟨s, hsymbol, hg, hkey⟩
      · cases h
  · cases h

theorem group?_mem {g : Group} (h : (ofDocument d).group? name = some g) :
    ∃ schema ∈ d.schemas, g ∈ schema.groups := by
  obtain ⟨⟨package, group⟩, hfound, rfl⟩ := Option.map_eq_some_iff.mp h
  obtain ⟨key, hmem, -⟩ := (ofDocument_groups d).mem hfound
  obtain ⟨schema, hschema, hgroup⟩ := List.mem_flatMap.mp hmem
  refine ⟨schema, hschema, ?_⟩
  simp only [namedGroups, List.mem_filterMap, Option.map_eq_some_iff, Prod.mk.injEq] at hgroup
  obtain ⟨g, hg, name, -, -, -, rfl⟩ := hgroup
  exact hg

end Resolver

/-! ## The forms of references -/

theorem TypeRef.isRecord_eq_false {t : TypeRef} {kind : SymbolKind} (h : t.kind? = some kind) :
    t.isRecord = false ↔ kind = .simpleType := by
  cases t with
  | builtin scalar => cases h
  | own name _ | foreign package name _ =>
      obtain rfl : _ = some kind := h
      simp [isRecord, kind?]

namespace Resolver

open SymbolTable

@[simp] theorem reference_kind? (package : Option String) (s : Symbol) :
    (reference package s).kind? = some s.definition.kind := by
  simp only [reference]
  split <;> rfl

@[simp] theorem reference_name? (package : Option String) (s : Symbol) :
    (reference package s).name? = some (Naming.typeName s.name) := by
  simp only [reference]
  split <;> rfl

/-- What a reference in a package can stand for.  An element with a type is never what is referred
to: its type is. -/
inductive Leads (d : Document) (package : Option String) : TypeRef → Prop
  | builtin (scalar : Scalar) : Leads d package (.builtin scalar)
  | unknown (bare : String) : Leads d package ((ofDocument d).fallback package bare)
  | symbol {s : Symbol} : s ∈ d.symbols → (∀ e, s.definition = .element e → e.type = none) →
      Leads d package (reference package s)

variable {d : Document} {package : Option String}

theorem resolveType_leads (name : String) :
    Leads d package ((ofDocument d).resolveType package name) := by
  unfold resolveType
  dsimp only
  split
  · exact .builtin _
  · split
    · next s hs =>
        obtain ⟨key, hmem, -⟩ := (ofDocument_lists d).types.mem hs
        obtain ⟨hsymbol, hkind, -⟩ := mem_named hmem
        refine .symbol hsymbol fun e he => ?_
        simp [he, Definition.kind, isType] at hkind
    · exact .unknown _

theorem ofSymbol_leads {s : Symbol} (hs : s ∈ d.symbols) :
    Leads d package ((ofDocument d).ofSymbol package s) := by
  unfold ofSymbol
  split
  · next e he =>
      split
      · exact resolveType_leads _
      · next htype =>
          refine .symbol hs fun e' he' => ?_
          rw [he] at he'
          cases he'
          exact htype
  · next hother => exact .symbol hs fun e he => (hother e he).elim

theorem resolve_leads (name : String) :
    Leads d package ((ofDocument d).resolve package name) := by
  unfold resolve
  dsimp only
  split
  · exact .builtin _
  · split
    · next s hs =>
        obtain ⟨key, hmem, -⟩ := (ofDocument_lists d).all.mem hs
        exact ofSymbol_leads (mem_named hmem).1
    · exact .unknown _

theorem resolveElement_leads (name : String) :
    Leads d package ((ofDocument d).resolveElement package name) := by
  unfold resolveElement
  split
  · next s hs =>
      obtain ⟨key, hmem, -⟩ := (ofDocument_lists d).elements.mem hs
      exact ofSymbol_leads (mem_named hmem).1
  · exact resolve_leads name

/-- A type of known kind is a definition of its package, and written by its declared name. -/
theorem Leads.known {t : TypeRef} (h : Leads d package t) {kind : SymbolKind}
    (hkind : t.kind? = some kind) :
    ∃ s ∈ d.symbols, (∀ e, s.definition = .element e → e.type = none) ∧
      t = reference package s := by
  cases h with
  | builtin => cases hkind
  | unknown bare => cases package <;> cases hkind
  | symbol hs hplain => exact ⟨_, hs, hplain, rfl⟩

/-- Inside a package, what is foreign is a definition of another package. -/
theorem Leads.foreign {own package name : String} {kind : Option SymbolKind}
    (h : Leads d (some own) (.foreign package name kind)) : package ≠ own := by
  generalize ht : TypeRef.foreign package name kind = t at h
  cases h with
  | builtin => cases ht
  | unknown => cases ht
  | @symbol s hs hplain =>
      unfold reference at ht
      dsimp only at ht
      split at ht
      · cases ht
      · next hne =>
          cases ht
          exact fun heq => hne (congrArg some heq.symm)

/-- Without a package, nothing is written by its bare name. -/
theorem Leads.detached {name : String} {kind : Option SymbolKind} :
    ¬ Leads d none (.own name kind) := by
  intro h
  generalize ht : TypeRef.own name kind = t at h
  cases h with
  | builtin => cases ht
  | unknown => cases ht
  | symbol => simp [reference] at ht

/-- A `base` that is no complex type of the document leads to no record of another package. -/
theorem resolveType_noRecord {own name package bare : String} {kind : Option SymbolKind}
    (hbase : (ofDocument d).baseType? name = none)
    (h : (ofDocument d).resolveType (some own) name = .foreign package bare kind) :
    (TypeRef.foreign package bare kind).isRecord = false := by
  unfold resolveType at h
  unfold baseType? at hbase
  dsimp only at h hbase
  cases hscalar : Scalar.ofBuiltin? (Naming.localName name) with
  | some scalar => simp [hscalar] at h
  | none =>
      cases hfound : (ofDocument d).symbols.types.find? (Naming.localName name) with
      | none => simp [hscalar, hfound, fallback] at h
      | some s =>
          obtain ⟨key, hmem, -⟩ := (ofDocument_lists d).types.mem hfound
          have hkind := (mem_named hmem).2.1
          cases hdefinition : s.definition with
          | simpleType type =>
              unfold reference at h
              simp only [hscalar, hfound, hdefinition, Definition.kind] at h
              split at h
              · cases h
              · cases h
                rfl
          | complexType type => simp [hscalar, hfound, hdefinition] at hbase
          | element e => simp [hdefinition, Definition.kind, isType] at hkind
          | attributeGroup g => simp [hdefinition, Definition.kind, isType] at hkind

end Resolver

end SoapBindings
