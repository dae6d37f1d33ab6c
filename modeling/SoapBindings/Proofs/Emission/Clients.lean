/-
# `SoapBindings.Proofs.Emission.Clients` — what clients refer to

Clients are written outside of every package.  They refer to types and declare none, so their
emission does nothing to the state but take note of these types, in the order in which they are
written.  `Notes` is that statement, with the list of types that were taken note of.

What is emitted does not depend on the state at all.  So a client is made of its port type by a
function, and whatever is to be known of clients is a matter of that function.
-/
import SoapBindings.Emission.Client
import SoapBindings.Generation
import SoapBindings.Proofs.Emission.Declared
import SoapBindings.Proofs.Emission.Expansion
import SoapBindings.Proofs.Resolution

namespace SoapBindings

/-! ## Clients as functions -/

namespace Wsdl

/-- What is sent for a part, where parts without an element are sent in the namespace. -/
def Part.request (part : Part) (r : Resolver) (targetNamespace : String) : Code.Request :=
  match part.element, part.type with
  | some element, _ => {
      type := r.resolveElement none element
      root := Naming.localName element
      targetNamespace := (r.elementNamespace? element).getD targetNamespace }
  | none, some type => { type := r.resolveType none type, root := part.name, targetNamespace }
  | none, none => { type := Emission.plainText, root := part.name, targetNamespace }

namespace Definitions

variable (d : Definitions) (r : Resolver)

/-- What is sent for a message: its first part, if there is one. -/
def request? (message : Option String) : Option Code.Request :=
  (message.bind d.firstPart?).map (·.request r (d.targetNamespace.getD ""))

def method (portType ident : String) (o : Operation) : Code.Method :=
  let faults := o.faults.map fun f => Naming.localName f.message
  { ident
    input := d.request? r o.input
    output := (d.request? r o.output).map (·.type)
    documentation := o.documentation.toList ++
      if faults.isEmpty then [] else ["Faults: " ++ ", ".intercalate faults]
    action := d.action portType o.name }

def client (p : PortType) : Code.Client where
  name := Naming.typeName p.name
  documentation := p.documentation
  address := d.address p.name
  methods := ((Emission.methodNames p.operations).zip p.operations).map fun (ident, o) =>
    d.method r p.name ident o

end Definitions

end Wsdl

namespace Emission

open Resolver Wsdl

/-! ## Emission that only refers -/

/-- Outside of every package, all that happens to the state is
that these types are taken note of. -/
structure Notes {α : Type} (d : Document) (x : Emitter α) (a : α) (types : List TypeRef) :
    Prop where
  run : ∀ s : Emission, s.context.package = none → x.run s = (a, types.foldl noted s)
  leads : ∀ t ∈ types, Leads d none t

section Notes

variable {d : Document} {α β : Type}

theorem foldl_noted_package (types : List TypeRef) (s : Emission) :
    (types.foldl noted s).context.package = s.context.package := by
  induction types generalizing s with
  | nil => rfl
  | cons t types ih => exact (ih _).trans (Context.note_package ..)

theorem mem_foldl_noted (types : List TypeRef) (s : Emission) {package : String} :
    package ∈ (types.foldl noted s).context.imports ↔
      package ∈ s.context.imports ∨ ∃ name kind, .foreign package name kind ∈ types := by
  induction types generalizing s with
  | nil => simp
  | cons t types ih =>
      rw [List.foldl_cons, ih, noted_imports, or_assoc]
      simp only [List.mem_cons, exists_or, eq_comm]

theorem Notes.pure (a : α) : Notes d (Pure.pure a) a [] := ⟨fun _ _ => rfl, nofun⟩

theorem Notes.bind {x : Emitter α} {f : α → Emitter β} {a : α} {b : β} {types more : List TypeRef}
    (hx : Notes d x a types) (hf : Notes d (f a) b more) : Notes d (x >>= f) b (types ++ more) := by
  refine ⟨fun s hpackage => ?_, fun t ht => ?_⟩
  · rw [run_bind, hx.run s hpackage, hf.run _ ((foldl_noted_package types s).trans hpackage),
      List.foldl_append]
  · exact (List.mem_append.mp ht).elim (hx.leads t) (hf.leads t)

theorem Notes.refer {find : Option String → TypeRef} (h : Leads d none (find none)) :
    Notes d (Emission.refer find) (find none) [find none] :=
  ⟨fun s hpackage => refer_acts find s hpackage rfl, fun _ ht => List.mem_singleton.mp ht ▸ h⟩

theorem Notes.mapM {f : α → Emitter β} {g : α → β} {types : α → List TypeRef}
    (h : ∀ a, Notes d (f a) (g a) (types a)) (items : List α) :
    Notes d (items.mapM f) (items.map g) (items.flatMap types) := by
  induction items with
  | nil => exact .pure []
  | cons item items ih =>
      rw [List.mapM_cons, List.flatMap_cons]
      exact (h item).bind (List.append_nil (items.flatMap types) ▸ ih.bind (.pure _))

end Notes

/-! ## Clients -/

variable {d : Document}

theorem messagePart_notes (part : Wsdl.Part) (targetNamespace : String) :
    Notes d (messagePart (.ofDocument d) part targetNamespace)
      (part.request (.ofDocument d) targetNamespace)
      [(part.request (.ofDocument d) targetNamespace).type] := by
  unfold messagePart Wsdl.Part.request
  cases part.element with
  | some element => exact (Notes.refer (resolveElement_leads element)).bind (.pure _)
  | none =>
      cases part.type with
      | some type => exact (Notes.refer (resolveType_leads type)).bind (.pure _)
      | none =>
          -- text is in no package, so it makes no difference that no note is taken
          exact ⟨fun _ _ => rfl, fun t ht => List.mem_singleton.mp ht ▸ .builtin .string⟩

theorem method_notes (definitions : Definitions) (portType ident : String) (o : Operation) :
    Notes d (method (.ofDocument d) definitions portType ident o)
      (definitions.method (.ofDocument d) portType ident o)
      (definitions.method (.ofDocument d) portType ident o).types := by
  unfold method Definitions.method Definitions.request? Code.Method.types
  dsimp only
  -- the answer is looked at after the request, whichever form the request has
  cases o.input.bind definitions.firstPart? with
  | none =>
      rw [pure_bind]
      cases o.output.bind definitions.firstPart? with
      | none => exact .pure _
      | some answer => exact (messagePart_notes answer _).bind (.pure _)
  | some part =>
      refine (messagePart_notes part _).bind ?_
      rw [pure_bind]
      cases o.output.bind definitions.firstPart? with
      | none => exact .pure _
      | some answer => exact (messagePart_notes answer _).bind (.pure _)

theorem client_notes (definitions : Definitions) (p : PortType) :
    Notes d (client (.ofDocument d) definitions p) (definitions.client (.ofDocument d) p)
      (definitions.client (.ofDocument d) p).types := by
  have hmethods := Notes.mapM (fun item : String × Operation =>
    method_notes (d := d) definitions p.name item.1 item.2)
    ((methodNames p.operations).zip p.operations)
  have htypes : (definitions.client (.ofDocument d) p).types = _ := List.flatMap_map ..
  rw [htypes, ← List.append_nil (List.flatMap ..)]
  exact hmethods.bind (.pure _)

end Emission

/-! ## The module of clients -/

namespace Document

open Emission Resolver

variable {d : Document} {package : String} {m : Code.SourceModule}

/-- The clients are those of the port types, and what they refer to is taken note of. -/
theorem operationsModule_some (h : d.operationsModule (.ofDocument d) package = some m) :
    m.body = .clients (d.definitions.portTypes.map (d.definitions.client (.ofDocument d))) ∧
      (∀ t ∈ m.body.references, Leads d none t) ∧
      m.imports = (m.body.references.foldl noted { context := {} }).context.imports := by
  have hclients := Notes.mapM (client_notes (d := d) d.definitions) d.definitions.portTypes
  have hreferences : (Code.Body.clients
      (d.definitions.portTypes.map (d.definitions.client (.ofDocument d)))).references = _ :=
    List.flatMap_map ..
  unfold operationsModule at h
  dsimp only at h
  rw [hclients.run { context := {} } rfl] at h
  split at h
  · cases h
  · cases h
    refine ⟨rfl, fun t ht => hclients.leads t (hreferences ▸ ht), ?_⟩
    rw [hreferences]

/-- The clients refer to types as one does outside of every package, and all packages that these are
in are imported. -/
theorem operationsModule_references (h : d.operationsModule (.ofDocument d) package = some m) :
    (∀ t ∈ m.body.references, Leads d none t) ∧
      ∀ q, q ∈ m.imports ↔ ∃ name kind, .foreign q name kind ∈ m.body.references := by
  obtain ⟨-, hleads, himports⟩ := operationsModule_some h
  refine ⟨hleads, fun q => ?_⟩
  rw [himports, mem_foldl_noted]
  exact or_iff_right List.not_mem_nil

end Document

end SoapBindings
