/-
# `SoapBindings.Proofs.Emission.Declared` — what a script declares

The nodes of a script are the definitions that it would declare, at any depth.  Which of them it
does declare depends on the names that are taken, but every declaration comes from a node, and when
a node is declared all that belongs to it has happened: the names that its fields refer to have been
claimed, the packages that they lead to are in use, and no field is missing for want of depth
(`Node.Settled`).

A claimed name is pending until its declaration is listed, after that of every type inside it.
`Balanced` keeps account: the names that are taken are the pending and the declared ones, each once.
At the end nothing is pending, so the declared names are the taken ones.
-/
import SoapBindings.Proofs.Code.References
import SoapBindings.Proofs.Emission.Script

namespace SoapBindings

namespace Emission

/-- The declarations, without the definitions that were skipped. -/
def declared (s : Emission) : List Code.Declaration := s.declarations.filterMap id

@[simp] theorem declared_listed_none (s : Emission) : (s.listed none).declared = s.declared := by
  simp [declared, listed]

@[simp] theorem declared_listed_some (s : Emission) (declaration : Code.Declaration) :
    (s.listed (some declaration)).declared = s.declared ++ [declaration] := by
  simp [declared, listed]

@[simp] theorem declared_noted (s : Emission) (type : TypeRef) :
    (s.noted type).declared = s.declared := rfl

@[simp] theorem declared_marked (s : Emission) (name : String) :
    (s.marked name).declared = s.declared := rfl

/-! ## Nodes -/

/-- A definition in a script. -/
inductive Node where
  | synonym (synonym : Code.Synonym)
  | record (name xmlName : String) (documentation : Option String) (inner : Script)

namespace Script

/-- The types that are taken note of for the record at hand. -/
def types : Script → List TypeRef
  | done => []
  | skip rest | synonym _ rest | record _ _ _ _ rest | cut rest => rest.types
  | refer type rest | text type rest => type :: rest.types
  | field _ _ content rest => content.type :: rest.types

/-- The names that are claimed next to the fields of the record at hand. -/
def names : Script → List String
  | done => []
  | skip rest | refer _ rest | field _ _ _ rest | text _ rest | cut rest => rest.names
  | synonym a rest => a.name :: rest.names
  | record name _ _ _ rest => name :: rest.names

/-- The definitions in a script, at any depth. -/
def nodes : Script → List Node
  | done => []
  | skip rest | refer _ rest | field _ _ _ rest | text _ rest | cut rest => rest.nodes
  | synonym a rest => .synonym a :: rest.nodes
  | record name xmlName documentation inner rest =>
    .record name xmlName documentation inner :: (inner.nodes ++ rest.nodes)

/-- No field of the record at hand is missing for want of depth. -/
def whole : Script → Prop
  | done => True
  | skip rest | refer _ rest | field _ _ _ rest | text _ rest | synonym _ rest
  | record _ _ _ _ rest => rest.whole
  | cut _ => False

@[simp] theorem types_append (p q : Script) : (p ++ q).types = p.types ++ q.types := by
  induction p with
  | done => rfl
  | _ => simp_all [types]

@[simp] theorem names_append (p q : Script) : (p ++ q).names = p.names ++ q.names := by
  induction p with
  | done => rfl
  | _ => simp_all [names]

@[simp] theorem nodes_append (p q : Script) : (p ++ q).nodes = p.nodes ++ q.nodes := by
  induction p with
  | done => rfl
  | _ => simp_all [nodes]

@[simp] theorem whole_append (p q : Script) : (p ++ q).whole ↔ p.whole ∧ q.whole := by
  induction p with
  | done => exact ⟨fun h => ⟨trivial, h⟩, fun h => h.2⟩
  | cut rest ih => exact ⟨nofun, fun h => h.1⟩
  | _ => simp_all [whole]

theorem types_each {α : Type} (items : List α) (p : α → Script) :
    (each items p).types = items.flatMap fun item => (p item).types := by
  induction items with
  | nil => rfl
  | cons item items ih => simp [ih]

theorem Contains.names {p q : Script} (h : p.Contains q) : q.names ⊆ p.names := by
  obtain ⟨before, after, rfl⟩ := h
  simp

theorem Contains.whole {p q : Script} (h : p.Contains q) (hp : p.whole) : q.whole := by
  obtain ⟨before, after, rfl⟩ := h
  exact ((whole_append _ _).mp ((whole_append _ _).mp hp).1).2

end Script

namespace Node

def name : Node → String
  | synonym a => a.name
  | record name _ _ _ => name

def declaration : Node → Code.Declaration
  | synonym a => .synonym a
  | record name xmlName documentation inner =>
    Emission.record name xmlName documentation (inner.fields {})

/-- The types that the definition refers to. -/
def types : Node → List TypeRef
  | synonym a => [a.target]
  | record _ _ _ inner => inner.types

/-- The names that are claimed for parts of the definition. -/
def names : Node → List String
  | synonym _ => []
  | record _ _ _ inner => inner.names

def whole : Node → Prop
  | synonym _ => True
  | record _ _ _ inner => inner.whole

@[simp] theorem declaration_name (node : Node) : node.declaration.name = node.name := by
  cases node <;> rfl

end Node

/-! ## Fields -/

theorem Fields.prefix_addText (fs : Fields) (type : TypeRef) :
    fs.fields <+: (fs.addText type).fields := by
  unfold Fields.addText
  split
  · exact List.prefix_rfl
  · exact List.prefix_append _ _

/-- A field comes from the script or was there before. -/
theorem Script.mem_fields {p : Script} {fs : Fields} {f : Code.Field}
    (h : f ∈ (p.fields fs).fields) : f ∈ fs.fields ∨ f.content.type ∈ p.types := by
  induction p generalizing fs with
  | done => exact .inl h
  | field name documentation content rest ih =>
      obtain h | h := ih h
      · obtain h | h := List.mem_append.mp h
        · exact .inl h
        · rw [List.mem_singleton.mp h]
          exact .inr List.mem_cons_self
      · exact .inr (List.mem_cons_of_mem _ h)
  | text type rest ih =>
      obtain h | h := ih h
      · unfold Fields.addText at h
        split at h
        · exact .inl h
        · obtain h | h := List.mem_append.mp h
          · exact .inl h
          · rw [List.mem_singleton.mp h]
            exact .inr List.mem_cons_self
      · exact .inr (List.mem_cons_of_mem _ h)
  | refer type rest ih => exact (ih h).imp_right (List.mem_cons_of_mem _)
  | skip rest ih | synonym _ rest ih | record _ _ _ _ rest _ ih | cut rest ih => exact ih h

theorem Node.types_declaration (node : Node) : node.declaration.types ⊆ node.types := by
  cases node with
  | synonym a => exact fun _ h => h
  | record name xmlName documentation inner =>
      intro type h
      obtain ⟨f, hf, rfl⟩ := List.mem_map.mp h
      obtain hf | hf := Script.mem_fields hf
      · cases hf
      · exact hf

/-! ## Settled nodes -/

theorem Script.names_emitted (p : Script) (s : Emission) :
    p.names ⊆ (p.emit s).context.emitted := by
  induction p generalizing s with
  | done => exact List.nil_subset _
  | skip rest ih | refer _ rest ih | field _ _ _ rest ih | text _ rest ih | cut rest ih =>
      exact ih _
  | synonym a rest ih =>
      refine List.cons_subset.mpr ⟨(rest.emit_grown _).emitted (claiming_emitted fun s => ?_), ih _⟩
      exact noted_grown s a.target
  | record name xmlName documentation inner rest _ ih =>
      refine List.cons_subset.mpr ⟨(rest.emit_grown _).emitted (claiming_emitted fun s => ?_), ih _⟩
      exact inner.emit_grown s

theorem Script.types_imports (p : Script) (s : Emission) {package name : String}
    {kind : Option SymbolKind} (h : .foreign package name kind ∈ p.types) :
    package ∈ (p.emit s).context.imports := by
  induction p generalizing s with
  | done => cases h
  | skip rest ih | synonym _ rest ih | record _ _ _ _ rest _ ih | cut rest ih => exact ih _ h
  | field _ _ content rest ih =>
      obtain h | h := List.mem_cons.mp h
      · exact (rest.emit_grown _).imports (noted_imports.mpr (.inr ⟨name, kind, h.symm⟩))
      · exact ih _ h
  | refer type rest ih | text type rest ih =>
      obtain h | h := List.mem_cons.mp h
      · exact (rest.emit_grown _).imports (noted_imports.mpr (.inr ⟨name, kind, h.symm⟩))
      · exact ih _ h

/-- A bound that was reached stays reached. -/
theorem Script.emit_exhausted (p : Script) {s : Emission} (h : s.exhausted) :
    (p.emit s).exhausted := by
  have hclaiming {name : String} {declare : Emission → Emission} {s : Emission} (h : s.exhausted)
      (hdeclare : ∀ s, s.exhausted → (declare s).exhausted) :
      (s.claiming name declare).exhausted := by
    unfold claiming
    split
    · exact h
    · exact hdeclare _ h
  induction p generalizing s with
  | done => exact h
  | skip rest ih | refer _ rest ih | field _ _ _ rest ih | text _ rest ih => exact ih h
  | synonym a rest ih => exact ih (hclaiming h fun _ h => h)
  | record _ _ _ inner rest ihInner ih => exact ih (hclaiming h fun _ h => ihInner h)
  | cut rest ih => exact ih rfl

theorem Script.whole_of_emit (p : Script) {s : Emission} (h : (p.emit s).exhausted = false) :
    p.whole := by
  induction p generalizing s with
  | done => trivial
  | skip rest ih | refer _ rest ih | field _ _ _ rest ih | text _ rest ih | synonym _ rest ih
  | record _ _ _ _ rest _ ih => exact ih h
  | cut rest ih =>
      have hreached := rest.emit_exhausted (s := { s with exhausted := true }) rfl
      exact absurd (hreached.symm.trans h) (by decide)

/-- All that belongs to a node has happened. -/
structure Node.Settled (node : Node) (s : Emission) : Prop where
  names : node.names ⊆ s.context.emitted
  imports : ∀ {package name : String} {kind : Option SymbolKind},
    .foreign package name kind ∈ node.types → package ∈ s.context.imports
  whole : s.exhausted = false → node.whole

/-- Every declaration of the state is settled and comes from one of the nodes. -/
def FromNodes (nodes : List Node) (s : Emission) : Prop :=
  ∀ declaration ∈ s.declared,
    ∃ node ∈ nodes, declaration = node.declaration ∧ node.Settled s

theorem FromNodes.listed {nodes : List Node} {s s' : Emission} (h : FromNodes nodes s)
    (hc : s.context.Grown s'.context) (hdeclared : s'.declared = s.declared)
    (hexhausted : s.exhausted → s'.exhausted) : FromNodes nodes s' := by
  intro declaration hmem
  obtain ⟨node, hnode, hdeclaration, hsettled⟩ := h declaration (hdeclared ▸ hmem)
  refine ⟨node, hnode, hdeclaration, fun _ hx => hc.emitted (hsettled.names hx),
    fun hx => hc.imports (hsettled.imports hx), fun hend => hsettled.whole ?_⟩
  cases hs : s.exhausted with
  | false => rfl
  | true => exact absurd ((hexhausted hs).symm.trans hend) (by decide)

theorem FromNodes.claiming {nodes : List Node} {s : Emission} (h : FromNodes nodes s)
    {name : String} {declare : Emission → Emission}
    (hdeclare : ∀ s, FromNodes nodes s → FromNodes nodes (declare s)) :
    FromNodes nodes (s.claiming name declare) := by
  unfold Emission.claiming
  split
  · exact h.listed (.refl s.context) (by simp) id
  · exact hdeclare _ (h.listed (marked_grown s name) (by simp) id)

theorem FromNodes.declare {nodes : List Node} {s : Emission} (h : FromNodes nodes s) {node : Node}
    (hnode : node ∈ nodes) (hsettled : node.Settled s) :
    FromNodes nodes (s.listed (some node.declaration)) := by
  intro declaration hmem
  rw [declared_listed_some] at hmem
  obtain hmem | hmem := List.mem_append.mp hmem
  · obtain ⟨node, hnode, hdeclaration, hbefore⟩ := h declaration hmem
    exact ⟨node, hnode, hdeclaration, hbefore.names, hbefore.imports, hbefore.whole⟩
  · exact ⟨node, hnode, List.mem_singleton.mp hmem, hsettled.names, hsettled.imports,
      hsettled.whole⟩

/-- What a script declares comes from its nodes. -/
theorem Script.emit_fromNodes {nodes : List Node} (p : Script) (hnodes : p.nodes ⊆ nodes)
    {s : Emission} (h : FromNodes nodes s) : FromNodes nodes (p.emit s) := by
  induction p generalizing s with
  | done => exact h
  | skip rest ih => exact ih hnodes (h.listed (.refl s.context) (by simp) id)
  | refer type rest ih => exact ih hnodes (h.listed (noted_grown s type) rfl id)
  | field _ _ content rest ih => exact ih hnodes (h.listed (noted_grown s content.type) rfl id)
  | text type rest ih => exact ih hnodes (h.listed (noted_grown s type) rfl id)
  | synonym a rest ih =>
      obtain ⟨hnode, hrest⟩ := List.cons_subset.mp hnodes
      refine ih hrest (h.claiming fun s h => ?_)
      refine (h.listed (noted_grown s a.target) rfl id).declare hnode
        ⟨List.nil_subset _, ?_, fun _ => trivial⟩
      intro package name kind htarget
      exact noted_imports.mpr (.inr ⟨name, kind, (List.mem_singleton.mp htarget).symm⟩)
  | record name xmlName documentation inner rest ihInner ih =>
      obtain ⟨hnode, hboth⟩ := List.cons_subset.mp hnodes
      obtain ⟨hinner, hrest⟩ := List.append_subset.mp hboth
      refine ih hrest (h.claiming fun s h => ?_)
      exact (ihInner hinner h).declare hnode ⟨inner.names_emitted s, inner.types_imports s,
        inner.whole_of_emit⟩
  | cut rest ih => exact ih hnodes (h.listed (.refl s.context) rfl fun _ => rfl)

/-! ## Names and declarations -/

/-- The names that are taken are those that are pending and those that are declared, each once. -/
structure Balanced (pending : List String) (s : Emission) : Prop where
  nodup : s.context.emitted.Nodup
  perm : s.context.emitted.Perm (pending ++ s.declared.map (·.name))

theorem Balanced.marked {pending : List String} {s : Emission} (h : Balanced pending s)
    {name : String} (hfree : s.context.isEmitted name = false) :
    Balanced (name :: pending) (s.marked name) := by
  have hemitted : (s.marked name).context.emitted = name :: s.context.emitted := by
    simp [Emission.marked, Context.markEmitted, hfree]
  constructor
  · rw [hemitted, List.nodup_cons]
    exact ⟨by simpa [Context.isEmitted] using hfree, h.nodup⟩
  · rw [hemitted]
    exact h.perm.cons name

theorem Balanced.declare {pending : List String} {s : Emission} (declaration : Code.Declaration)
    (h : Balanced (declaration.name :: pending) s) :
    Balanced pending (s.listed (some declaration)) := by
  refine ⟨h.nodup, h.perm.trans ?_⟩
  rw [declared_listed_some, List.map_append, ← List.append_assoc]
  exact (List.perm_append_singleton declaration.name _).symm

theorem Balanced.claiming {pending : List String} {s : Emission} (h : Balanced pending s)
    {name : String} {declare : Emission → Emission}
    (hdeclare : ∀ s, Balanced (name :: pending) s → Balanced pending (declare s)) :
    Balanced pending (s.claiming name declare) := by
  unfold Emission.claiming
  split
  · exact ⟨h.nodup, by simpa using h.perm⟩
  · next hfree => exact hdeclare _ (h.marked (by simpa using hfree))

theorem Balanced.noted {pending : List String} {s : Emission} (h : Balanced pending s)
    (type : TypeRef) : Balanced pending (s.noted type) := by
  have hemitted : (s.noted type).context.emitted = s.context.emitted := Context.note_emitted ..
  exact ⟨hemitted ▸ h.nodup, hemitted ▸ h.perm⟩

/-- A script declares every name that it claims. -/
theorem Script.emit_balanced (p : Script) {pending : List String} {s : Emission}
    (h : Balanced pending s) : Balanced pending (p.emit s) := by
  induction p generalizing pending s with
  | done => exact h
  | skip rest ih => exact ih ⟨h.nodup, by simpa using h.perm⟩
  | refer type rest ih => exact ih (h.noted type)
  | field _ _ content rest ih => exact ih (h.noted content.type)
  | text type rest ih => exact ih (h.noted type)
  | synonym a rest ih =>
      refine ih (h.claiming fun s h => ?_)
      exact Balanced.declare (.synonym a) (h.noted a.target)
  | record name xmlName documentation inner rest ihInner ih =>
      refine ih (h.claiming fun s h => ?_)
      exact Balanced.declare (Emission.record name xmlName documentation (inner.fields {}))
        (ihInner h)
  | cut rest ih => exact ih ⟨h.nodup, h.perm⟩

theorem balanced_start (context : Context) (h : context.emitted = []) :
    Balanced [] { context } := by
  constructor <;> simp [h, declared]

theorem Balanced.names_nodup {s : Emission} (h : Balanced [] s) :
    (s.declared.map (·.name)).Nodup := h.perm.nodup_iff.mp h.nodup

theorem Balanced.mem_names {s : Emission} (h : Balanced [] s) {name : String} :
    name ∈ s.declared.map (·.name) ↔ name ∈ s.context.emitted := h.perm.mem_iff.symm

end Emission

end SoapBindings
