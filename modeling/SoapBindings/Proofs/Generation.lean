/-
# `SoapBindings.Proofs.Generation` — the modules of a document fit together

Generated modules refer to each other by package and name.  Here the packages of a loaded document
are put together: the types of each come from its emission, every package that a reference can lead
to has a module, and the module declares what is referred to.
-/
import SoapBindings.Proofs.Document.Loaded
import SoapBindings.Proofs.Emission.Clients
import SoapBindings.Proofs.Emission.Links

namespace SoapBindings

open Xsd

/-- The package that a type belongs to, as seen from a module of some package. -/
def TypeRef.home? (package : String) : TypeRef → Option String
  | builtin _ => none
  | own _ _ => some package
  | foreign other _ _ => some other

/-- A definition belongs to its package, wherever it is referred to. -/
theorem Resolver.reference_home? {own : Option String} {package : String}
    (hown : ∀ here ∈ own, here = package) (s : Symbol) :
    (reference own s).home? package = some s.package := by
  simp only [reference]
  split
  · next hhere => exact congrArg some (hown _ hhere).symm
  · rfl

/-- The module declares a type under a name. -/
def Code.SourceModule.Declares (m : SourceModule) (name : String) : Prop :=
  name ∈ m.body.declarations.map (·.name)

namespace Document

open Emission

/-! ## Modules -/

section Modules

variable {d : Document} {operations : String} {g : Generated}

theorem generate_ok (h : d.generate operations = .ok g) :
    g.types = (d.packages.map fun package =>
        d.typesModule package (d.emitPackage (.ofDocument d) package)) ∧
      g.operations = d.operationsModule (.ofDocument d) operations := by
  unfold generate at h
  dsimp only at h
  split at h
  · cases h
  · split at h
    · cases h
    · split at h
      · cases h
      · cases h
        exact ⟨by simp, rfl⟩

theorem types_packages (h : d.generate operations = .ok g) :
    g.types.map (·.package) = d.packages := by
  rw [(generate_ok h).1, List.map_map]
  exact List.map_id'' (fun _ => rfl) _

/-- A module of types has what its package emitted. -/
theorem mem_types (h : d.generate operations = .ok g) {m : Code.SourceModule} (hm : m ∈ g.types) :
    m.package ∈ d.packages ∧
      m = d.typesModule m.package (d.emitPackage (.ofDocument d) m.package) := by
  rw [(generate_ok h).1] at hm
  obtain ⟨package, hpackage, rfl⟩ := List.mem_map.mp hm
  exact ⟨hpackage, rfl⟩

theorem types_declarations (h : d.generate operations = .ok g) {m : Code.SourceModule}
    (hm : m ∈ g.types) : m.body = .types (d.declarations m.package) := by
  rw [(mem_types h hm).2]
  rfl

theorem types_declares (h : d.generate operations = .ok g) {m : Code.SourceModule}
    (hm : m ∈ g.types) {name : String} :
    m.Declares name ↔ name ∈ (d.declarations m.package).map (·.name) := by
  unfold Code.SourceModule.Declares
  rw [types_declarations h hm]
  rfl

/-- Every package that is generated has a module. -/
theorem exists_types (h : d.generate operations = .ok g) {package : String}
    (hpackage : package ∈ d.packages) : ∃ m ∈ g.types, m.package = package := by
  rw [← types_packages h] at hpackage
  exact List.mem_map.mp hpackage

end Modules

/-! ## Links -/

section Links

variable {d : Document} (hall : AllIn d.rootPackage d.definitions) {operations : String}
  {g : Generated} (h : d.generate operations = .ok g)

include hall h

/-- A reference that was resolved in a package, or outside of every package, leads to a module that
declares what it names. -/
theorem leads_module {own : Option String} {package : String} {t : TypeRef}
    (hleads : Resolver.Leads d own t) (hown : ∀ here ∈ own, here = package) {kind : SymbolKind}
    (hkind : t.kind? = some kind) :
    ∃ target ∈ g.types, t.home? package = some target.package ∧
      ∃ name, t.name? = some name ∧ target.Declares name := by
  obtain ⟨s, hs, rfl, hdeclared⟩ := leads_declared hleads hkind
  obtain ⟨schema, hschema, hpackage, -⟩ := declares_of_mem hs
  obtain ⟨target, htarget, htargetPackage⟩ :=
    exists_types h (hpackage ▸ identifier_mem_packages hall hschema)
  refine ⟨target, htarget, ?_, _, Resolver.reference_name? own s, ?_⟩
  · rw [htargetPackage]
    exact Resolver.reference_home? hown s
  · rw [types_declares h htarget, htargetPackage]
    exact hdeclared

/-- What a module of types refers to is declared in the module of its package. -/
theorem types_linked {m : Code.SourceModule} (hm : m ∈ g.types) {t : TypeRef}
    (ht : t ∈ m.body.references) {kind : SymbolKind} (hkind : t.kind? = some kind) :
    ∃ target ∈ g.types, t.home? m.package = some target.package ∧
      ∃ name, t.name? = some name ∧ target.Declares name := by
  rw [types_declarations h hm] at ht
  obtain ⟨declaration, hdeclaration, ht⟩ := List.mem_flatMap.mp ht
  obtain hleads | ⟨name, kind, rfl, hname⟩ := types_refer hdeclaration ht
  · exact leads_module hall h hleads (fun _ hhere => (Option.some.inj hhere).symm) hkind
  · exact ⟨m, hm, rfl, name, rfl, (types_declares h hm).mpr hname⟩

/-- What the clients refer to is declared in the module of its package. -/
theorem operations_linked {m : Code.SourceModule} (hm : g.operations = some m) {t : TypeRef}
    (ht : t ∈ m.body.references) {kind : SymbolKind} (hkind : t.kind? = some kind) :
    ∃ target ∈ g.types, t.home? m.package = some target.package ∧
      ∃ name, t.name? = some name ∧ target.Declares name := by
  rw [(generate_ok h).2] at hm
  exact leads_module hall h ((operationsModule_references hm).1 t ht) nofun hkind

end Links

/-! ## Loaded documents -/

/-- Code is generated for a document. -/
def generates (d : Document) (operations : String) : Bool :=
  match d.generate operations with
  | .ok _ => true
  | .error _ => false

theorem exists_of_generates {d : Document} {operations : String} (h : d.generates operations) :
    ∃ g, d.generate operations = .ok g := by
  unfold generates at h
  split at h
  · next g hg => exact ⟨g, hg⟩
  · cases h

/-- **Links of the generated code are closed.**  However a document was loaded and whatever schemas
were added to it, if code is generated then there is a module for every package, no module declares
a name twice, every definition of its schemas is declared but for an element whose type has its name
already, and every reference of known kind names a declaration of the module that it leads to. -/
theorem links_closed {σ : Type} (fetch : Url → Loader σ Source) (maxDepth : Nat) (source : Source)
    (base : Option Url) (kind : DocumentKind) (extra : List Schema) (operations : String)
    {world world' : σ} {loaded : Document} {g : Generated}
    (hload : (loadSource fetch maxDepth source base kind).run world = .ok (loaded, world'))
    (hgenerate : (loaded.withSchemas extra).generate operations = .ok g) :
    let d := loaded.withSchemas extra
    g.types.map (·.package) = d.packages ∧
    (∀ m ∈ g.types, (m.body.declarations.map (·.name)).Nodup) ∧
    (∀ m ∈ g.types, ∀ schema ∈ d.schemasIn m.package, ∀ name definition,
      schema.Declares name definition → m.Declares (Naming.typeName name) ∨
        ∃ e type kind, definition = .element e ∧ e.type = some type ∧
          (Resolver.ofDocument d).resolve (some m.package) type =
            .own (Naming.typeName name) kind) ∧
    ∀ m ∈ g.modules, ∀ t ∈ m.body.references, ∀ kind, t.kind? = some kind →
      ∃ target ∈ g.types, t.home? m.package = some target.package ∧
        ∃ name, t.name? = some name ∧ target.Declares name := by
  have hall : AllIn (loaded.withSchemas extra).rootPackage (loaded.withSchemas extra).definitions :=
    loadSource_gives maxDepth source base kind world loaded world' hload
  refine ⟨types_packages hgenerate, fun m hm => ?_, fun m hm schema hschema name definition h => ?_,
    fun m hm t ht kind hkind => ?_⟩
  · rw [types_declarations hgenerate hm]
    exact declarations_nodup _ _
  · obtain hdeclared | ⟨e, type, he, htype, hcovered⟩ := declares_typeName hschema h
    · exact .inl ((types_declares hgenerate hm).mpr hdeclared)
    · obtain ⟨kind, hresolve⟩ := isCovered_iff.mp hcovered
      exact .inr ⟨e, type, kind, he, htype, hresolve⟩
  · obtain hm | hm := List.mem_append.mp hm
    · exact types_linked hall hgenerate hm ht hkind
    · exact operations_linked hall hgenerate (Option.mem_toList.mp hm) ht hkind

/-- A schema that refers to nothing else. -/
def loneSource : Source :=
  .text ("<s:schema xmlns:s='http://www.w3.org/2001/XMLSchema'><s:complexType name='a'>" ++
    "<s:attribute name='x' type='s:int'/></s:complexType></s:schema>").toList

/-- A schema with references to a type of `loneSource`. -/
def dependentSchema : Schema where
  identifier := "dependent"
  elements := [
    { name := some "b", type := some "a" },
    { name := some "c",
      complexType := some { sequence := [{ name := some "d", type := some "a" }] } }]

/-- The lone schema, loaded where nothing else is found. -/
def loneLoad : Except LoadError (Document × Unit) :=
  (loadSource (fun _ => throw .unreachable) 0 loneSource none .xsd : Loader Unit Document).run ()

theorem links_closed_dependent :
    ∃ loaded g, loneLoad = .ok (loaded, ()) ∧
      (loaded.withSchemas [dependentSchema]).generate "operations" = .ok g ∧
      ∀ m ∈ g.types, (m.body.declarations.map (·.name)).Nodup := by
  have hgenerates : loneLoad.toOption.any
      (fun result => (result.1.withSchemas [dependentSchema]).generates "operations") := by
    decide +kernel
  cases hload : loneLoad with
  | error e =>
      rw [hload] at hgenerates
      cases hgenerates
  | ok result =>
      rw [hload] at hgenerates
      obtain ⟨g, hgenerate⟩ := exists_of_generates hgenerates
      exact ⟨result.1, g, rfl, hgenerate, (links_closed _ _ _ _ _ _ _ hload hgenerate).2.1⟩

end Document

end SoapBindings
