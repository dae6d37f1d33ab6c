/-
# `SoapBindings.Proofs.Emission.Links` — references in a package lead somewhere

A record refers to types in two ways.  Most references are made by resolution, and `Resolver.Leads`
says what they can be.  The others are to an anonymous type of the record itself, whose name is
claimed in the same script just before; so the name belongs to the package, whoever declares it.

`Linked` says so of a script and of everything in it, and it is inherited from the pieces.
-/
import SoapBindings.Proofs.Emission.Declared
import SoapBindings.Proofs.Emission.Parts
import SoapBindings.Proofs.Emission.Schema

namespace SoapBindings.Emission

open Xsd Resolver

section Linked

variable (d : Document) (package : Option String)

/-- A reference made by resolution, or to a name of the package itself. -/
def Refers (names : List String) (t : TypeRef) : Prop :=
  Leads d package t ∨ ∃ name kind, t = .own name (some kind) ∧ name ∈ names

/-- The types of the record at hand and those of every definition in the script are linked. -/
structure Linked (p : Script) : Prop where
  types : ∀ t ∈ p.types, Refers d package p.names t
  nodes : ∀ node ∈ p.nodes, ∀ t ∈ node.types, Refers d package node.names t

end Linked

variable {d : Document} {package : Option String}

theorem Refers.mono {names names' : List String} {t : TypeRef} (h : Refers d package names t)
    (hnames : names ⊆ names') : Refers d package names' t := by
  obtain h | ⟨name, kind, ht, hmem⟩ := h
  · exact .inl h
  · exact .inr ⟨name, kind, ht, hnames hmem⟩

theorem plainText_leads : Leads d package plainText := .builtin .string

theorem Named.leads {t : TypeRef} (h : Named (.ofDocument d) package t) : Leads d package t := by
  cases h with
  | plain => exact plainText_leads
  | type name => exact resolve_leads name
  | element reference => exact resolveElement_leads reference
  | restricted name => exact resolveType_leads name

namespace Linked

theorem done : Linked d package .done := ⟨nofun, nofun⟩

theorem append {p q : Script} (hp : Linked d package p) (hq : Linked d package q) :
    Linked d package (p ++ q) := by
  constructor
  · intro t ht
    rw [Script.names_append]
    rw [Script.types_append] at ht
    obtain ht | ht := List.mem_append.mp ht
    · exact (hp.types t ht).mono (List.subset_append_left _ _)
    · exact (hq.types t ht).mono (List.subset_append_right _ _)
  · intro node hnode
    rw [Script.nodes_append] at hnode
    obtain hnode | hnode := List.mem_append.mp hnode
    · exact hp.nodes node hnode
    · exact hq.nodes node hnode

/-- A field with a type that was resolved. -/
theorem field {name : String} {documentation : Option String} {content : Code.Content}
    (h : Leads d package content.type) :
    Linked d package (.field name documentation content .done) := by
  refine ⟨fun t ht => ?_, nofun⟩
  rw [List.mem_singleton.mp ht]
  exact .inl h

theorem refer {type : TypeRef} (h : Leads d package type) :
    Linked d package (.refer type .done) := by
  refine ⟨fun t ht => ?_, nofun⟩
  rw [List.mem_singleton.mp ht]
  exact .inl h

theorem text {type : TypeRef} (h : Leads d package type) :
    Linked d package (.text type .done) := by
  refine ⟨fun t ht => ?_, nofun⟩
  rw [List.mem_singleton.mp ht]
  exact .inl h

theorem synonym {a : Code.Synonym} (h : Leads d package a.target) :
    Linked d package (.synonym a .done) := by
  refine ⟨nofun, fun node hnode t ht => ?_⟩
  rw [List.mem_singleton.mp hnode] at ht
  rw [List.mem_singleton.mp ht]
  exact .inl h

theorem record {name xmlName : String} {documentation : Option String} {inner : Script}
    (h : Linked d package inner) :
    Linked d package (.record name xmlName documentation inner .done) := by
  refine ⟨nofun, fun node hnode => ?_⟩
  obtain rfl | hnode := List.mem_cons.mp hnode
  · exact h.types
  · obtain hnode | hnode := List.mem_append.mp hnode
    · exact h.nodes node hnode
    · cases hnode

/-- A definition and a field that refers to it. -/
theorem anonymous {p : Script} (hp : Linked d package p) {name xmlName : String}
    {documentation : Option String} {kind : SymbolKind} {content : Code.Content}
    (hname : name ∈ p.names) (hcontent : content.type = .own name (some kind)) :
    Linked d package (p ++ .field xmlName documentation content .done) := by
  constructor
  · intro t ht
    rw [Script.types_append] at ht
    rw [Script.names_append]
    obtain ht | ht := List.mem_append.mp ht
    · exact (hp.types t ht).mono (List.subset_append_left _ _)
    · rw [List.mem_singleton.mp ht]
      exact .inr ⟨name, kind, hcontent, List.mem_append_left _ hname⟩
  · intro node hnode
    rw [Script.nodes_append] at hnode
    obtain hnode | hnode := List.mem_append.mp hnode
    · exact hp.nodes node hnode
    · cases hnode

theorem piecewise : Piecewise fun p _ => Linked d package p :=
  ⟨done, append, field plainText_leads, text plainText_leads⟩

end Linked

/-! ## The parts of a script -/

theorem restrictedType_leads (type : SimpleType) :
    Leads d package (restrictedType (.ofDocument d) package type) := by
  unfold restrictedType
  split
  · exact resolveType_leads _
  · exact plainText_leads

/-- A synonym is one of text or of what resolution leads to. -/
theorem synonymOf_leads (name : String) (type : SimpleType) (documentation : Option String) :
    Leads d package (synonymOf (.ofDocument d) package name type documentation).target := by
  have htarget : Leads d package (restrictedType (.ofDocument d) package type) :=
    restrictedType_leads type
  unfold synonymOf synonymTarget
  dsimp only
  split
  · split
    · exact plainText_leads
    · next htype _ => exact htype ▸ htarget
  · exact htarget

theorem synonymScript_linked (name : String) (type : SimpleType) (documentation : Option String) :
    Linked d package (synonymScript (.ofDocument d) package name type documentation) :=
  .synonym (synonymOf_leads name type documentation)

theorem textScript_linked (parent : String) (base : Option String) :
    Linked d package (textScript (.ofDocument d) package parent base) := by
  cases base with
  | none => exact .text plainText_leads
  | some base =>
      obtain htext | ⟨htext, -⟩ := textScript_some (.ofDocument d) package parent base
      · exact htext ▸ .text (resolveType_leads base)
      · exact htext ▸ .append (.refer (resolveType_leads base)) (.text plainText_leads)

theorem attributeScript_linked (parent : String) (a : Attribute) :
    Linked d package (attributeScript (.ofDocument d) package parent a) := by
  have hform := attributeScript_form (.ofDocument d) package parent a
  generalize attributeScript (.ofDocument d) package parent a = p at hform
  cases hform with
  | missing => exact .done
  | field htype => exact .field htype.leads
  | simpleType _ _ _ => exact (synonymScript_linked ..).anonymous List.mem_cons_self rfl

section Tasks

variable {scripts : Scripting} {k : Stacks}
  (hself : ∀ k task, Linked d package (scripts k task))

include hself

theorem elementScript_linked (parent : String) (e : Element) :
    Linked d package (elementScript (.ofDocument d) package scripts k parent e) := by
  obtain ⟨form, hform, hscript⟩ := elementScript_form (.ofDocument d) package k parent e
  rw [hscript]
  cases hform with
  | missing => exact .done
  | field htype => exact .field (elementContent_type e _ _ ▸ htype.leads)
  | complexType _ _ _ _ =>
      exact (Linked.record (hself _ _)).anonymous List.mem_cons_self (elementContent_type e _ _)
  | simpleType _ _ _ _ _ =>
      exact (synonymScript_linked ..).anonymous List.mem_cons_self (elementContent_type e _ _)

theorem step_linked (task : Task) :
    Linked d package (stepScript (.ofDocument d) package scripts k task) := by
  have hpieces : Piecewise fun p _ => Linked d package p := Linked.piecewise
  cases task with
  | content parent type =>
      exact hpieces.content scripts scripts
        ⟨fun _ _ => hself _ _, fun _ _ => hself _ _, fun _ _ => hself _ _⟩
        (fun _ _ _ _ _ _ _ => hself _ _) fun derivation _ _ => textScript_linked ..
  | element parent e => exact elementScript_linked hself parent e
  | group parent reference =>
      exact hpieces.group scripts scripts
        fun _ _ _ => ⟨fun _ _ => hself _ _, fun _ _ => hself _ _⟩
  | attributes parent attributes groups =>
      exact hpieces.attributes scripts scripts (fun a _ => attributeScript_linked parent a)
        fun _ _ _ _ _ => hself _ _

end Tasks

theorem script_linked (depth : Nat) (k : Stacks) (task : Task) :
    Linked d package (script (.ofDocument d) package depth k task) := by
  induction depth generalizing k task with
  | zero => exact ⟨nofun, nofun⟩
  | succ depth ih => exact step_linked ih task

/-! ## Schemas -/

theorem typed_linked {scripts : Scripting} (hself : ∀ k task, Linked d package (scripts k task))
    {k : Stacks} {xmlName type : String} {documentation : Option String} {found : Draft}
    (h : Typed (.ofDocument d) package k xmlName type documentation found) :
    Linked d package (found.script scripts xmlName) := by
  cases h with
  | covered => exact ⟨nofun, nofun⟩
  | text => exact .record (.text (resolve_leads type))
  | expanding => exact .record .done
  | content => exact .record (hself _ _)
  | renamed => exact .synonym (resolve_leads type)

theorem schemaScript_linked {scripts : Scripting}
    (hself : ∀ k task, Linked d package (scripts k task)) {k : Stacks} (s : Schema) :
    Linked d package (schemaScript (.ofDocument d) package scripts k s) := by
  refine Linked.piecewise.schema scripts scripts ⟨nofun, nofun⟩ fun xmlName definition _ => ?_
  cases definition with
  | simpleType t => exact synonymScript_linked ..
  | complexType t => exact .record (hself _ _)
  | attributeGroup g => exact .record (hself _ _)
  | element e =>
      simp only [draft, elementDraft]
      split
      · exact typed_linked hself (typed_of_eq rfl)
      · exact .record (hself _ _)
      · exact synonymScript_linked ..
      · exact .record .done

/-! ## Names -/

section Names

variable (r : Resolver) (package : Option String) (scripts : Scripting) (k : Stacks)

/-- Nothing is declared for an element whose type has its name already. -/
theorem draft_skip {xmlName : String} {definition : Definition}
    (h : draft r package k xmlName definition = .skip) :
    ∃ e type, definition = .element e ∧ e.type = some type ∧
      isCovered r package (Naming.typeName xmlName) type := by
  cases definition with
  | simpleType t | complexType t | attributeGroup g => cases h
  | element e =>
      simp only [draft, elementDraft] at h
      split at h
      · next htype =>
          cases typed_of_eq h with
          | covered hcovered => exact ⟨e, _, rfl, htype, hcovered⟩
      · cases h
      · cases h
      · cases h

theorem typed_names {xmlName type : String} {documentation : Option String} {found : Draft}
    (h : Typed r package k xmlName type documentation found) (hfound : found ≠ .skip) :
    Naming.typeName xmlName ∈ (found.script scripts xmlName).names := by
  cases h with
  | covered => exact absurd rfl hfound
  | text | expanding | content | renamed => exact List.mem_cons_self

/-- Every other definition claims its name. -/
theorem draft_names {xmlName : String} {definition : Definition}
    (h : draft r package k xmlName definition ≠ .skip) :
    Naming.typeName xmlName ∈
      ((draft r package k xmlName definition).script scripts xmlName).names := by
  cases definition with
  | simpleType t | complexType t | attributeGroup g => exact List.mem_cons_self
  | element e =>
      revert h
      simp only [draft, elementDraft]
      split <;> intro h
      · exact typed_names r package scripts k (typed_of_eq rfl) h
      · exact List.mem_cons_self
      · exact List.mem_cons_self
      · exact List.mem_cons_self

end Names

end SoapBindings.Emission

/-! ## Packages -/

namespace SoapBindings.Document

open Emission Resolver Xsd

variable (d : Document) (package : String)

/-- What is declared in a package. -/
def declarations : List Code.Declaration :=
  (d.emitPackage (.ofDocument d) package).declared

theorem packageScript_linked : Linked d (some package) (d.packageScript (.ofDocument d) package) :=
  Linked.piecewise.each _ (q := fun _ => .done) fun schema _ =>
    schemaScript_linked (script_linked d.expansionBound) schema

theorem emitPackage_balanced : Balanced [] (d.emitPackage (.ofDocument d) package) := by
  rw [emitPackage_eq]
  exact Script.emit_balanced _ (balanced_start _ rfl)

theorem emitPackage_fromNodes :
    FromNodes (d.packageScript (.ofDocument d) package).nodes
      (d.emitPackage (.ofDocument d) package) := by
  rw [emitPackage_eq]
  exact Script.emit_fromNodes _ (fun _ h => h) nofun

/-- No name is declared twice. -/
theorem declarations_nodup : ((d.declarations package).map (·.name)).Nodup :=
  (d.emitPackage_balanced package).names_nodup

variable {d package}

/-- A definition that is not skipped has its name declared. -/
theorem declares_draft {schema : Schema} (hschema : schema ∈ d.schemasIn package) {name : String}
    {definition : Definition} (h : schema.Declares name definition)
    (hdraft : draft (.ofDocument d) (some package) {} name definition ≠ .skip) :
    Naming.typeName name ∈ (d.declarations package).map (·.name) := by
  have hcontains := (Script.Contains.each hschema _).trans
    (schemaScript_contains (.ofDocument d) (some package)
      (script (.ofDocument d) (some package) d.expansionBound) {} h)
  rw [declarations, (d.emitPackage_balanced package).mem_names, emitPackage_eq]
  exact Script.names_emitted _ _ (hcontains.names (draft_names _ _ _ _ hdraft))

/-- Every definition of a package is declared under its name, unless it is an element whose type
has it already. -/
theorem declares_typeName {schema : Schema} (hschema : schema ∈ d.schemasIn package)
    {name : String} {definition : Definition} (h : schema.Declares name definition) :
    Naming.typeName name ∈ (d.declarations package).map (·.name) ∨
      ∃ e type, definition = .element e ∧ e.type = some type ∧
        isCovered (.ofDocument d) (some package) (Naming.typeName name) type := by
  by_cases hdraft : draft (.ofDocument d) (some package) {} name definition = .skip
  · exact .inr (draft_skip _ _ _ hdraft)
  · exact .inl (declares_draft hschema h hdraft)

/-- A declaration refers to what resolution leads to, or to a declaration of its package. -/
theorem types_refer {declaration : Code.Declaration} (h : declaration ∈ d.declarations package)
    {t : TypeRef} (ht : t ∈ declaration.types) :
    Refers d (some package) ((d.declarations package).map (·.name)) t := by
  obtain ⟨node, hnode, rfl, hsettled⟩ := d.emitPackage_fromNodes package declaration h
  have hrefers := (d.packageScript_linked package).nodes node hnode t (node.types_declaration ht)
  exact hrefers.mono fun name hname =>
    (d.emitPackage_balanced package).mem_names.mpr (hsettled.names hname)

/-- A definition that is referred to is declared under its name. -/
theorem declares_symbol {s : Symbol} (hs : s ∈ d.symbols)
    (hplain : ∀ e, s.definition = .element e → e.type = none) :
    Naming.typeName s.name ∈ (d.declarations s.package).map (·.name) := by
  obtain ⟨schema, hschema, hpackage, hdeclares⟩ := declares_of_mem hs
  have hmem : schema ∈ d.schemasIn s.package := List.mem_filter.mpr ⟨hschema, by simp [hpackage]⟩
  obtain hdeclared | ⟨e, type, he, htype, -⟩ := declares_typeName hmem hdeclares
  · exact hdeclared
  · rw [hplain e he] at htype
    cases htype

/-- A reference of known kind names a declaration of the package that it leads to. -/
theorem leads_declared {own : Option String} {t : TypeRef} (h : Leads d own t) {kind : SymbolKind}
    (hkind : t.kind? = some kind) :
    ∃ s ∈ d.symbols, t = reference own s ∧
      Naming.typeName s.name ∈ (d.declarations s.package).map (·.name) := by
  obtain ⟨s, hs, hplain, ht⟩ := h.known hkind
  exact ⟨s, hs, ht, declares_symbol hs hplain⟩

end SoapBindings.Document
