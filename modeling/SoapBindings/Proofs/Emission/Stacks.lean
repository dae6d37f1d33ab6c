/-
# `SoapBindings.Proofs.Emission.Stacks` — what is put on a stack is taken off again

Three stacks say what is being expanded, and an operation that puts a name on one of them takes the
top off when it is done.  That is the name it has put there only if everything in between leaves the
stacks as it found them, so this is to be shown of all operations at once.  It is, since each of
them does a script, and scripts have no action that a stack could show.

Between two definitions of a package all stacks are then empty again.  A record looks at nothing of
the state but its package and its stacks, so it is the same whatever has been declared before it.
-/
import SoapBindings.Proofs.Emission.Inline

namespace SoapBindings

open Xsd

namespace Emission

/-! ## Operations -/

/-- Whatever the state is like, the stacks are the same afterwards. -/
def KeepsStacks {α : Type} (x : Emitter α) : Prop := ∀ s, (x.run s).2.toStacks = s.toStacks

/-- Declare a definition at the top of a schema. -/
def define (r : Resolver) (self : Expansion) : Definition → Emitter PUnit
  | .element e => globalElement r self e >>= declare
  | .simpleType t => globalSimpleType r t >>= declare
  | .complexType t => globalComplexType self t >>= declare
  | .attributeGroup g => globalAttributeGroup self g >>= declare

/-- The operations of an emission in which `self` does the tasks. -/
inductive IsOperation (r : Resolver) (self : Expansion) : {α : Type} → Emitter α → Prop
  | simpleType (name : String) (type : SimpleType) (documentation : Option String) :
      IsOperation r self (simpleType r name type documentation)
  | complexType (name xmlName : String) (type : ComplexType) (documentation : Option String) :
      IsOperation r self (complexType self name xmlName type documentation)
  | inline (declared : String) (type : ComplexType) (fields : Fields) :
      IsOperation r self (inline self declared type fields)
  /-- The content of a type, an element, a group, or attributes with their groups. -/
  | task (task : Task) (fields : Fields) : IsOperation r self (self task fields)
  | globalSimpleType (type : SimpleType) : IsOperation r self (globalSimpleType r type)
  | globalComplexType (type : ComplexType) : IsOperation r self (globalComplexType self type)
  | globalElement (e : Element) : IsOperation r self (globalElement r self e)
  | globalAttributeGroup (g : AttributeGroup) : IsOperation r self (globalAttributeGroup self g)
  | schema (s : Schema) : IsOperation r self (schema r self s)
  | client (d : Wsdl.Definitions) (p : Wsdl.PortType) : IsOperation r self (client r d p)

namespace KeepsStacks

variable {α β : Type}

/-- What changes the state as a script says leaves the stacks alone. -/
theorem of_acts {x : Emitter α} {a : Option String → Stacks → α}
    {p : Option String → Stacks → Script}
    (h : ∀ package k, Acts package k x (a package k) (p package k).emit) : KeepsStacks x := by
  intro s
  rw [h s.context.package s.toStacks s rfl rfl]
  exact Script.emit_toStacks _ s

/-- To list a declaration is none of the stacks' business. -/
theorem of_declare {x : Emitter (Option Code.Declaration)} (h : KeepsStacks (x >>= declare)) :
    KeepsStacks x := h

theorem pure (a : α) : KeepsStacks (Pure.pure a) := fun _ => rfl

theorem bind {x : Emitter α} {f : α → Emitter β} (hx : KeepsStacks x)
    (hf : ∀ a, KeepsStacks (f a)) : KeepsStacks (x >>= f) :=
  fun s => (hf _ _).trans (hx s)

theorem mapM {f : α → Emitter β} (hf : ∀ a, KeepsStacks (f a)) (items : List α) :
    KeepsStacks (items.mapM f) := by
  induction items with
  | nil => exact .pure []
  | cons item items ih =>
      rw [List.mapM_cons]
      exact (hf item).bind fun _ => ih.bind fun _ => .pure _

theorem refer (find : Option String → TypeRef) : KeepsStacks (Emission.refer find) := fun _ => rfl

theorem messagePart (r : Resolver) (part : Wsdl.Part) (targetNamespace : String) :
    KeepsStacks (Emission.messagePart r part targetNamespace) := by
  unfold Emission.messagePart
  split
  · exact (refer _).bind fun _ => .pure _
  · exact (refer _).bind fun _ => .pure _
  · exact .pure _

theorem method (r : Resolver) (d : Wsdl.Definitions) (portType ident : String)
    (o : Wsdl.Operation) : KeepsStacks (Emission.method r d portType ident o) := by
  unfold Emission.method
  dsimp only
  have hpart := messagePart r
  cases o.input.bind d.firstPart? with
  | none =>
      rw [pure_bind]
      cases o.output.bind d.firstPart? with
      | none => exact .pure _
      | some answer => exact (hpart answer _).bind fun _ => .pure _
  | some part =>
      refine (hpart part _).bind fun _ => ?_
      rw [pure_bind]
      cases o.output.bind d.firstPart? with
      | none => exact .pure _
      | some answer => exact (hpart answer _).bind fun _ => .pure _

end KeepsStacks

variable {r : Resolver} {depth : Nat}

/-- **Every operation leaves the stacks as it finds them**, wherever it ends. -/
theorem IsOperation.keepsStacks {α : Type} {x : Emitter α} (h : IsOperation r (expand r depth) x) :
    KeepsStacks x := by
  have hself (package : Option String) :
      DoesAll package (expand r depth) (script r package depth) :=
    expand_does r package depth
  cases h with
  | simpleType name type documentation =>
      exact .of_declare (.of_acts fun package k => simpleType_declare name type documentation)
  | complexType name xmlName type documentation =>
      exact .of_declare (.of_acts fun package k =>
        complexType_declare (hself package) name xmlName type documentation)
  | inline declared type fields =>
      intro s
      rw [inline_run (hself _) declared type fields rfl]
      split
      · exact Script.emit_toStacks _ s
      · rfl
  | task task fields => exact .of_acts fun package k => hself package k task fields
  | globalSimpleType type =>
      exact .of_declare (.of_acts fun package k =>
        @globalSimpleType_declare r package (script r package depth) k type)
  | globalComplexType type =>
      exact .of_declare (.of_acts fun package k =>
        globalComplexType_declare (r := r) (hself package) type)
  | globalElement e =>
      exact .of_declare (.of_acts fun package k => globalElement_declare (hself package) e)
  | globalAttributeGroup g =>
      exact .of_declare (.of_acts fun package k =>
        globalAttributeGroup_declare (r := r) (hself package) g)
  | schema s => exact .of_acts fun package k => schema_acts (hself package) s
  | client d p => exact (KeepsStacks.mapM (fun _ => .method r d _ _ _) _).bind fun _ => .pure _

/-! ## Between definitions -/

theorem define_acts (r : Resolver) (package : Option String) (depth : Nat) (k : Stacks)
    (definition : Definition) :
    ∃ p : Script, Acts package k (define r (expand r depth) definition) ⟨⟩ p.emit := by
  have hself := expand_does r package depth
  cases definition with
  | element e => exact ⟨_, globalElement_declare hself e⟩
  | simpleType t => exact ⟨_, @globalSimpleType_declare r package (script r package depth) k t⟩
  | complexType t => exact ⟨_, globalComplexType_declare (r := r) hself t⟩
  | attributeGroup g => exact ⟨_, globalAttributeGroup_declare (r := r) hself g⟩

/-- After any definitions, nothing is being expanded. -/
theorem Idle.definitions {s : Emission} {package : String} (h : s.Idle package) (r : Resolver)
    (depth : Nat) (definitions : List Definition) :
    Idle ((definitions.forM (define r (expand r depth))).run s).2 package := by
  induction definitions generalizing s with
  | nil => exact h
  | cons definition definitions ih =>
      obtain ⟨p, hp⟩ := define_acts r (some package) depth {} definition
      exact ih (h.acts hp)

end Emission

namespace Document

open Emission

variable {d : Document} {package : String} {s : Emission}

/-- From the bound on, the record of a global complex type is the same at every depth. -/
theorem globalComplexType_deeper (hidle : s.Idle package) {schema : Schema} {t : ComplexType}
    {name : String} (hschema : schema ∈ d.schemas) (ht : t ∈ schema.complexTypes)
    (hname : t.name = some name) (hfree : ¬s.context.isEmitted (Naming.typeName name)) {depth : Nat}
    (hdepth : d.expansionBound ≤ depth) :
    ((globalComplexType (expand (.ofDocument d) depth) t).run s).1 =
      some (record (Naming.typeName name) name t.documentation
        (d.recordFields package (Naming.typeName name) t)) := by
  have hstands : (Task.content (Naming.typeName name) t).StandsIn d :=
    ⟨_, places_complexType hschema ht hname⟩
  have hsettles := script_settles (.ofDocument d) (some package) hdepth
    (Stacks.inRecord {} (Naming.typeName name)) _ (standsIn_whole package _ hstands)
  unfold globalComplexType
  rw [hname, recordFields, ← hsettles.2]
  refine (complexType_run (expand_does _ _ _) _ _ _ _ hidle.package).trans ?_
  rw [if_neg hfree, hidle.stacked]

/-- **Emission leaves no trace on the stacks, and so none in later records.**  Every operation
returns with the stacks as they were.  After any definitions they are empty, and then a global
complex type whose name is free becomes a record that the document, the package and its definition
determine, whatever has been declared or referred to before and however deep it may be expanded. -/
theorem records_independent (d : Document) (package : String) :
    (∀ depth : Nat, ∀ {α : Type} {x : Emitter α},
      IsOperation (.ofDocument d) (expand (.ofDocument d) depth) x → KeepsStacks x) ∧
    ∀ schema ∈ d.schemas, ∀ t ∈ schema.complexTypes, ∀ name, t.name = some name →
      ∀ depth ≥ d.expansionBound, ∀ before : List Definition,
        let self := expand (.ofDocument d) depth
        let s := ((before.forM (define (.ofDocument d) self)).run
          { context := { package := some package } }).2
        s.toStacks = {} ∧
        (¬s.context.isEmitted (Naming.typeName name) →
          ((globalComplexType self t).run s).1 =
            some (record (Naming.typeName name) name t.documentation
              (d.recordFields package (Naming.typeName name) t))) := by
  refine ⟨fun depth α x h => h.keepsStacks,
    fun schema hschema t ht name hname depth hdepth before => ?_⟩
  have hidle := (idle_start package).definitions (.ofDocument d) depth before
  exact ⟨hidle.stacked, fun hfree => globalComplexType_deeper hidle hschema ht hname hfree hdepth⟩

/-- The last type of the chain after its root has been declared and an element has taken over all of
its fields: its record is the one that it becomes when it comes first. -/
theorem records_independent_chain :
    let self := expand (.ofDocument chained) chained.expansionBound
    let start : Emission := { context := { package := some basePackage } }
    let before : List Definition := [.complexType rootType, .element topElement]
    let later := ((before.forM (define (.ofDocument chained) self)).run start).2
    later.context.isEmitted "Entity" ∧ later.context.isEmitted "Chief" ∧
      ((globalComplexType self topType).run later).1 =
        ((globalComplexType self topType).run start).1 := by
  intro self start before later
  have hemitted : later.context.isEmitted "Entity" ∧ later.context.isEmitted "Chief" := by
    decide +kernel
  have hfree : ¬later.context.isEmitted (Naming.typeName "Employee") := by decide +kernel
  have hrecord := (records_independent chained basePackage).2 _ List.mem_cons_self _
    List.mem_cons_self "Employee" rfl chained.expansionBound (Nat.le_refl _)
  exact ⟨hemitted.1, hemitted.2, ((hrecord before).2 hfree).trans ((hrecord []).2 nofun).symm⟩

end Document

end SoapBindings
