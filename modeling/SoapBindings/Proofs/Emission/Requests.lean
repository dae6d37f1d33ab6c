/-
# `SoapBindings.Proofs.Emission.Requests` — the namespaces of requests

A method sends its request as an element of some namespace.  Where the message names an element,
that is the namespace of the schema which declares the element, looked up apart from the type; so it
has to be shown that both come from one definition.

Where the message names a type, nothing declares the element.  The namespace is that of the service
description, and there is only one: descriptions that are imported are merged into the one that is
loaded, and afterwards nothing tells where a message came from (`requests_namespaced`).
-/
import Mathlib.Data.List.Forall2
import SoapBindings.Proofs.Document.Closure
import SoapBindings.Proofs.Modules
import SoapBindings.Proofs.Search

namespace SoapBindings

open Xsd Wsdl

namespace Code

/-- The request as the method makes it of its argument. -/
def Request.tokens (request : Request) : Tokens :=
  [":: std :: option :: Option :: Some ( :: wsdlgen_util :: soap :: Request :: new (",
    quoted request.root, ",", quoted request.targetNamespace, ", request ) ? )"]

theorem infix_request {m : Method} {request : Request} (h : m.input = some request) :
    request.tokens <:+: m.tokens := by
  have harguments : request.tokens <:+: m.arguments := by
    unfold Method.arguments
    rw [h]
    exact List.infix_append ..
  unfold Method.tokens
  refine harguments.trans ?_
  cases m.output with
  | none | some type => exact List.infix_append_of_infix_right (List.infix_append ..)

end Code

/-- The clients of the generated code. -/
def Generated.clients : Generated → List Code.Client
  | { operations := some { body := .clients clients, .. }, .. } => clients
  | _ => []

/-- The namespaces of the requests in the generated code, method by method. -/
def Generated.namespaces (g : Generated) : List (Option String) :=
  g.clients.flatMap fun c => c.methods.map fun m => m.input.map (·.targetNamespace)

/-! ## Methods -/

theorem Emission.methodNames_length (operations : List Operation) :
    (methodNames operations).length = operations.length := by
  have hfold : ∀ used : List String, (operations.foldl (fun used o =>
      used ++ [Naming.unique used (Naming.fieldName o.name)]) used).length =
        used.length + operations.length := by
    induction operations with
    | nil => exact fun used => rfl
    | cons o operations ih =>
        intro used
        rw [List.foldl_cons, ih, List.length_append, List.length_singleton, List.length_cons]
        omega
  rw [methodNames, List.length_tail, hfold, List.length_singleton]
  omega

/-- Every operation has a method, in order, which sends what its message asks for. -/
theorem Wsdl.Definitions.client_methods (d : Definitions) (r : Resolver) (p : PortType) :
    List.Forall₂ (fun (o : Operation) (m : Code.Method) => m.input = d.request? r o.input)
      p.operations (d.client r p).methods := by
  have hoperations : ((Emission.methodNames p.operations).zip p.operations).map (·.2) =
      p.operations := List.map_snd_zip (Emission.methodNames_length p.operations).ge
  have hmethods : List.Forall₂ (fun (o : Operation) (item : String × Operation) =>
      (d.method r p.name item.1 item.2).input = d.request? r o.input)
      (((Emission.methodNames p.operations).zip p.operations).map (·.2))
      ((Emission.methodNames p.operations).zip p.operations) :=
    List.forall₂_map_left_iff.mpr (List.forall₂_same.mpr fun _ _ => rfl)
  rw [hoperations] at hmethods
  exact List.forall₂_map_right_iff.mpr hmethods

namespace Document

open Emission

variable {d : Document}

/-- Every port type has a client, in order. -/
theorem generate_clients {operations : String} {g : Generated}
    (h : d.generate operations = .ok g) (hkind : d.kind = .wsdl) :
    g.clients = d.definitions.portTypes.map (d.definitions.client (.ofDocument d)) := by
  obtain ⟨types, operations⟩ := g
  have hoperations := (generate_ok h).2.symm
  dsimp only at hoperations
  cases operations with
  | some m =>
      obtain ⟨package, source, imports, body⟩ := m
      obtain ⟨rfl, -, -⟩ := operationsModule_some hoperations
      rfl
  | none =>
      unfold operationsModule at hoperations
      dsimp only at hoperations
      split at hoperations
      · next hnone =>
          have hempty : d.definitions.portTypes = [] := by simpa [hkind] using hnone
          rw [hempty]
          rfl
      · cases hoperations

/-! ## Descriptions that are merged -/

section Merging

variable {σ : Type} {fetch : Url → Loader σ Source}

/-- Whatever is merged into a description, its namespace stays. -/
theorem followImport_targetNamespace {maxDepth : Nat}
    {deeper : Option (Definitions → Option Url → List Url → Loader σ (Definitions × List Url))}
    {base : Option Url} (merged : Definitions × List Url) (found : Wsdl.Import) :
    Gives (followImport fetch maxDepth deeper base merged found)
      fun result => result.1.targetNamespace = merged.1.targetNamespace := by
  unfold followImport
  refine (Gives.any _).bind fun url _ => ?_
  split
  · exact .pure rfl
  · cases deeper with
    | none => exact .throw
    | some deeper =>
        exact (Gives.any _).bind fun d _ => (Gives.any _).bind fun result _ => .pure rfl

theorem mergeImports_targetNamespace {maxDepth levels : Nat} {d : Definitions} {base : Option Url}
    {seen : List Url} :
    Gives (mergeImports fetch maxDepth levels d base seen)
      fun result => result.1.targetNamespace = d.targetNamespace := by
  have hfold {deeper : Option
      (Definitions → Option Url → List Url → Loader σ (Definitions × List Url))} :
      Gives (d.imports.foldlM (followImport fetch maxDepth deeper base)
        ({ d with imports := [] }, seen))
        fun result => result.1.targetNamespace = d.targetNamespace :=
    Gives.foldlM (fun merged found hmerged =>
      (followImport_targetNamespace merged found).mono fun _ h => h.trans hmerged) rfl
  cases levels with
  | zero => exact hfold
  | succ levels => exact hfold

/-- A loaded document has the namespace of the description that loading begins with. -/
theorem loadSource_targetNamespace (maxDepth : Nat) (source : Source) (base : Option Url)
    (kind : DocumentKind) :
    Gives (loadSource fetch maxDepth source base kind) fun d =>
      d.kind = kind ∧ ∃ root, opening source base kind = .ok (d.rootPackage, root) ∧
        d.definitions.targetNamespace = root.targetNamespace := by
  unfold loadSource
  refine (Gives.settle fun root hroot => hroot).bind fun root hroot => ?_
  refine mergeImports_targetNamespace.bind fun merged hmerged => ?_
  exact (Gives.any _).bind fun found _ => .pure ⟨rfl, root.2, hroot, hmerged⟩

end Merging

/-! ## Elements -/

/-- A symbol has the namespace of the schema that it stands in. -/
theorem targetNamespace_of_mem {schema : Schema} {s : Symbol} (h : s ∈ schema.symbols) :
    s.targetNamespace = schema.targetNamespace := by
  simp only [Schema.symbols, List.mem_append, List.mem_filterMap, Option.map_eq_some_iff] at h
  obtain ((⟨_, _, _, _, rfl⟩ | ⟨_, _, _, _, rfl⟩) | ⟨_, _, _, _, rfl⟩) | ⟨_, _, _, _, rfl⟩ :=
    h <;> rfl

theorem first?_mem {kinds : SymbolKind → Bool} {reference : String} {s : Symbol}
    (h : d.first? kinds reference = some s) : ∃ schema ∈ d.schemas, s ∈ schema.symbols := by
  have hentry : s ∈ d.entries := List.mem_of_mem_filter (List.mem_of_find?_eq_some h)
  rw [← d.symbols_eq_entries] at hentry
  exact List.mem_flatMap.mp hentry

/-- The request for a part has the namespace of what declares it. -/
structure Namespaced (d : Document) (root : Definitions) (part : Wsdl.Part)
    (request : Code.Request) : Prop where
  /-- The type is that of the element which is found, and the namespace is that of its schema, if
  the schema has one. -/
  element : ∀ reference s, part.element = some reference →
    d.first? (· = .element) reference = some s →
    request.type = (d.follow s).typeRef (.ofDocument d) none ∧
      ∃ schema ∈ d.schemas, s ∈ schema.symbols ∧
        ∀ targetNamespace, schema.targetNamespace = some targetNamespace →
          request.targetNamespace = targetNamespace
  /-- A type is sent in the namespace of the service description. -/
  type : ∀ type, part.element = none → part.type = some type →
    request.targetNamespace = root.targetNamespace.getD ""

theorem request_namespaced (root : Definitions) (part : Wsdl.Part) :
    d.Namespaced root part (part.request (.ofDocument d) (root.targetNamespace.getD "")) := by
  unfold Wsdl.Part.request
  constructor
  · intro reference s hreference hs
    obtain ⟨schema, hschema, hmem⟩ := first?_mem hs
    simp only [hreference]
    refine ⟨?_, schema, hschema, hmem, fun targetNamespace hnamespace => ?_⟩
    · rw [Resolver.resolveElement_find, findElement, hs]
    · rw [Resolver.elementNamespace?, Resolver.elements_first, hs, Option.bind_some,
        targetNamespace_of_mem hmem, hnamespace]
      rfl
  · intro type helement htype
    simp only [helement, htype]

/-- **Requests have the namespace of their declaration.**  However a service description was loaded,
with whatever it imports and whatever schemas were added, if code is generated then every port type
has a client and every operation a method, in order.  A method whose operation sends a part makes a
request of its argument, and its text says in which namespace: for an element, that of the schema in
which the element was found whose type the argument has, if that schema has one; for a type, that of
the description which was loaded, and none if that has none. -/
theorem requests_namespaced {σ : Type} (fetch : Url → Loader σ Source) (maxDepth : Nat)
    (source : Source) (base : Option Url) (extra : List Schema) (operations : String)
    {world world' : σ} {loaded : Document} {g : Generated}
    (hload : (loadSource fetch maxDepth source base .wsdl).run world = .ok (loaded, world'))
    (hgenerate : (loaded.withSchemas extra).generate operations = .ok g) :
    let d := loaded.withSchemas extra
    ∃ root, opening source base .wsdl = .ok (d.rootPackage, root) ∧
      List.Forall₂ (fun (p : PortType) (c : Code.Client) =>
        List.Forall₂ (fun (o : Operation) (m : Code.Method) =>
          ∀ part, o.input.bind d.definitions.firstPart? = some part →
            ∃ request, m.input = some request ∧ request.tokens <:+: m.tokens ∧
              d.Namespaced root part request)
          p.operations c.methods)
        d.definitions.portTypes g.clients := by
  obtain ⟨hkind, root, hroot, hnamespace⟩ :=
    loadSource_targetNamespace maxDepth source base .wsdl world loaded world' hload
  have hsame : (loaded.withSchemas extra).definitions.targetNamespace = root.targetNamespace :=
    hnamespace
  refine ⟨root, hroot, ?_⟩
  rw [generate_clients hgenerate hkind]
  refine List.forall₂_map_right_iff.mpr (List.forall₂_same.mpr fun p _ => ?_)
  refine (Definitions.client_methods _ _ p).imp fun o m hm part hpart => ?_
  rw [Definitions.request?, hpart, hsame] at hm
  exact ⟨_, hm, Code.infix_request hm, request_namespaced root part⟩

/-! ## A desk -/

/-- A service with two operations.  The message of the first one is declared by a description that
is imported, and the element of the second one in a schema without a namespace. -/
def deskSource : Source :=
  .text (["<definitions xmlns='http://schemas.xmlsoap.org/wsdl/' ",
    "xmlns:s='http://www.w3.org/2001/XMLSchema' ", "xmlns:a='urn:a' xmlns:b='urn:b' ",
    "targetNamespace='urn:a'>", "<import namespace='urn:b' location='messages.wsdl'/>",
    "<types><s:schema>", "<s:element name='Plain' type='s:string'/>", "</s:schema></types>",
    "<message name='TellIn'>", "<part name='body' element='Plain'/></message>",
    "<portType name='Desk'><operation name='Ask'>", "<input message='b:AskIn'/></operation>",
    "<operation name='Tell'><input message='a:TellIn'/>",
    "</operation></portType></definitions>"].flatMap String.toList)

def messagesSource : Source :=
  .text (["<definitions xmlns='http://schemas.xmlsoap.org/wsdl/' ",
    "xmlns:s='http://www.w3.org/2001/XMLSchema' ", "targetNamespace='urn:b'>",
    "<message name='AskIn'>", "<part name='question' type='s:string'/>",
    "</message></definitions>"].flatMap String.toList)

/-- The service, loaded where only the messages are found. -/
def deskLoad : Except LoadError (Document × Unit) :=
  let fetch := fun url => if url = pageUrl ["messages.wsdl"] then pure messagesSource
    else throw .unreachable
  (loadSource fetch 1 deskSource (some (pageUrl ["desk.wsdl"])) .wsdl : Loader Unit Document).run ()

theorem desk_generated :
    ∃ loaded g, deskLoad = .ok (loaded, ()) ∧ loaded.generate "operations" = .ok g ∧
      loaded.definitions.portTypes.flatMap (·.operations.map (·.input)) =
        [some "b:AskIn", some "a:TellIn"] ∧
      loaded.schemas.map (fun s => (s.targetNamespace, s.elements.map (·.name))) =
        [(none, [some "Plain"])] ∧
      g.namespaces = [some "urn:a", some "urn:a"] := by
  have hfacts : deskLoad.toOption.any fun result =>
      decide (result.1.definitions.portTypes.flatMap (·.operations.map (·.input)) =
          [some "b:AskIn", some "a:TellIn"]) &&
        decide (result.1.schemas.map (fun s => (s.targetNamespace, s.elements.map (·.name))) =
          [(none, [some "Plain"])]) &&
        (result.1.generate "operations").toOption.any fun g =>
          decide (g.namespaces = [some "urn:a", some "urn:a"]) := by
    decide +kernel
  obtain ⟨⟨loaded, ⟨⟩⟩, hload, hfacts⟩ := (Option.any_eq_true _ _).mp hfacts
  simp only [Bool.and_eq_true, decide_eq_true_eq] at hfacts
  obtain ⟨⟨hinputs, hschemas⟩, hgenerated⟩ := hfacts
  obtain ⟨g, hgenerate, hnamespaces⟩ := (Option.any_eq_true _ _).mp hgenerated
  exact ⟨loaded, g, eq_ok_of_toOption hload, eq_ok_of_toOption hgenerate, hinputs, hschemas,
    of_decide_eq_true hnamespaces⟩

theorem requests_namespaced_desk :
    ∃ loaded g root, deskLoad = .ok (loaded, ()) ∧
      (loaded.withSchemas []).generate "operations" = .ok g ∧
      opening deskSource (some (pageUrl ["desk.wsdl"])) .wsdl = .ok (loaded.rootPackage, root) ∧
      List.Forall₂ (fun (p : PortType) (c : Code.Client) =>
        List.Forall₂ (fun (o : Operation) (m : Code.Method) =>
          ∀ part, o.input.bind loaded.definitions.firstPart? = some part →
            ∃ request, m.input = some request ∧ request.tokens <:+: m.tokens ∧
              (loaded.withSchemas []).Namespaced root part request)
          p.operations c.methods)
        loaded.definitions.portTypes g.clients := by
  obtain ⟨loaded, g, hload, hgenerate, -⟩ := desk_generated
  obtain ⟨root, hroot, hclients⟩ := requests_namespaced _ _ _ _ [] _ hload hgenerate
  exact ⟨loaded, g, root, hload, hgenerate, hroot, hclients⟩

/-- A message of a description that is imported is sent in the namespace of the other one, and so is
an element of no namespace. -/
theorem request_elsewhere :
    ∃ loaded g messages, deskLoad = .ok (loaded, ()) ∧ loaded.generate "operations" = .ok g ∧
      parse messagesSource = .ok (.definitions messages) ∧
      messages.targetNamespace = some "urn:b" ∧ messages.messages.map (·.name) = ["AskIn"] ∧
      loaded.definitions.portTypes.flatMap (·.operations.map (·.input)) =
        [some "b:AskIn", some "a:TellIn"] ∧
      loaded.schemas.map (fun s => (s.targetNamespace, s.elements.map (·.name))) =
        [(none, [some "Plain"])] ∧
      g.namespaces = [some "urn:a", some "urn:a"] := by
  obtain ⟨loaded, g, hload, hgenerate, hinputs, hschemas, hnamespaces⟩ := desk_generated
  have hparse : (match parse messagesSource with
      | .ok (.definitions messages) =>
        decide (messages.targetNamespace = some "urn:b" ∧
          messages.messages.map (·.name) = ["AskIn"])
      | _ => false) = true := by
    decide +kernel
  split at hparse
  · next messages hmessages =>
      obtain ⟨hnamespace, hnames⟩ := of_decide_eq_true hparse
      exact ⟨loaded, g, messages, hload, hgenerate, hmessages, hnamespace, hnames, hinputs,
        hschemas,
        hnamespaces⟩
  · cases hparse

end Document

end SoapBindings
