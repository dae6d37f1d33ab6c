/-
# `SoapBindings.Proofs.Emission.Imports` — what is imported is used, and the other way round

Packages are noted while references are resolved, before it is known whether the reference is
written.  One direction is easy: whatever is written was noted (`Node.Settled`).

For the other direction one has to see what becomes of a reference that is noted and not written.
There are three ways for it to get lost.  Its definition may be skipped, but then it is not resolved
either.  The base of simple content may turn out to be a record, but such a base is of the package
at hand, or it would have been taken up.  And a second text has no field; so a package may be
imported for nothing, but only where a type has two derivations and each brings a text.
`Keeps` is the account of these cases.
-/
import SoapBindings.Proofs.Generation

namespace SoapBindings

open Xsd

namespace Emission

/-! ## Where imports come from -/

/-- All packages in use have a property. -/
def ImportsAre (P : String → Prop) (s : Emission) : Prop := ∀ package ∈ s.context.imports, P package

theorem ImportsAre.noted {P : String → Prop} {s : Emission} (h : ImportsAre P s) {t : TypeRef}
    (ht : ∀ package name kind, t = .foreign package name kind → P package) :
    ImportsAre P (s.noted t) := by
  intro package hpackage
  obtain hpackage | ⟨name, kind, rfl⟩ := noted_imports.mp hpackage
  · exact h package hpackage
  · exact ht package name kind rfl

theorem ImportsAre.claiming {P : String → Prop} {s : Emission} (h : ImportsAre P s) {name : String}
    {declare : Emission → Emission} (hdeclare : ∀ s, ImportsAre P s → ImportsAre P (declare s)) :
    ImportsAre P (s.claiming name declare) := by
  unfold Emission.claiming
  split
  · exact h
  · exact hdeclare _ fun package hpackage => h package (marked_imports s name ▸ hpackage)

/-- A property that the packages of all types in a script have is one of all packages in use. -/
theorem Script.emit_importsAre {P : String → Prop} (p : Script) {s : Emission}
    (htypes : ∀ package name kind, .foreign package name kind ∈ p.types → P package)
    (hnodes : ∀ node ∈ p.nodes, ∀ package name kind,
      .foreign package name kind ∈ node.types → P package)
    (h : ImportsAre P s) : ImportsAre P (p.emit s) := by
  induction p generalizing s with
  | done => exact h
  | skip rest ih => exact ih htypes hnodes h
  | refer type rest ih | text type rest ih =>
      refine ih (fun _ _ _ ht => htypes _ _ _ (List.mem_cons_of_mem _ ht)) hnodes (h.noted ?_)
      exact fun _ _ _ ht => htypes _ _ _ (List.mem_cons.mpr (.inl ht.symm))
  | field _ _ content rest ih =>
      refine ih (fun _ _ _ ht => htypes _ _ _ (List.mem_cons_of_mem _ ht)) hnodes (h.noted ?_)
      exact fun _ _ _ ht => htypes _ _ _ (List.mem_cons.mpr (.inl ht.symm))
  | synonym a rest ih =>
      obtain ⟨hnode, hrest⟩ := List.forall_mem_cons.mp hnodes
      refine ih htypes hrest (h.claiming fun s h => h.noted fun _ _ _ ht => ?_)
      exact hnode _ _ _ (List.mem_cons.mpr (.inl ht.symm))
  | record name xmlName documentation inner rest ihInner ih =>
      obtain ⟨hnode, hboth⟩ := List.forall_mem_cons.mp hnodes
      obtain ⟨hinner, hrest⟩ := List.forall_mem_append.mp hboth
      exact ih htypes hrest (h.claiming fun s h => ihInner hnode hinner h)
  | cut rest ih => exact ih htypes hnodes h

/-! ## What is written -/

/-- Nothing that was noted for the record at hand gets lost, where `full` says whether it has a text
already. -/
def Script.Keeps : Bool → Script → Prop
  | _, .done => True
  | full, .skip rest => rest.Keeps full
  | full, .refer type rest => type.isForeign = false ∧ rest.Keeps full
  | full, .field _ _ content rest => content.isText = false ∧ rest.Keeps full
  | full, .text type rest => (full → type.isForeign = false) ∧ rest.Keeps true
  | full, .synonym _ rest => rest.Keeps full
  | full, .record _ _ _ _ rest => rest.Keeps full
  | full, .cut rest => rest.Keeps full

theorem Script.Keeps.weaken {p : Script} {full : Bool} (h : p.Keeps true) : p.Keeps full := by
  induction p generalizing full with
  | done => trivial
  | skip rest ih | synonym _ rest ih | record _ _ _ _ rest _ ih | cut rest ih => exact ih h
  | refer type rest ih => exact ⟨h.1, ih h.2⟩
  | field _ _ content rest ih => exact ⟨h.1, ih h.2⟩
  | text type rest ih => exact ⟨fun _ => h.1 rfl, h.2⟩

theorem Script.Keeps.append {p q : Script} {full : Bool} (hp : p.Keeps full) (hq : q.Keeps true) :
    (p ++ q).Keeps full := by
  induction p generalizing full with
  | done => exact hq.weaken
  | skip rest ih | synonym _ rest ih | record _ _ _ _ rest _ ih | cut rest ih => exact ih hp
  | refer type rest ih => exact ⟨hp.1, ih hp.2⟩
  | field _ _ content rest ih => exact ⟨hp.1, ih hp.2⟩
  | text type rest ih => exact ⟨hp.1, ih hp.2⟩

/-- There is a text among the fields. -/
def Fields.hasText (fs : Fields) : Bool := fs.fields.any (·.content.isText)

/-- The types of the fields. -/
def Fields.types (fs : Fields) : List TypeRef := fs.fields.map (·.content.type)

theorem Fields.add_types (fs : Fields) (name : String) (documentation : Option String)
    (content : Code.Content) :
    (fs.add name documentation content).types = fs.types ++ [content.type] := by
  simp [Fields.types, Fields.add]

theorem Fields.add_hasText (fs : Fields) (name : String) (documentation : Option String)
    (content : Code.Content) :
    (fs.add name documentation content).hasText = (fs.hasText || content.isText) := by
  simp [Fields.hasText, Fields.add]

theorem Fields.addText_hasText (fs : Fields) (type : TypeRef) : (fs.addText type).hasText := by
  unfold Fields.addText
  split
  · next h => exact h
  · rw [add_hasText]
    exact Bool.or_true _

theorem Fields.mem_addText {fs : Fields} (h : fs.hasText = false) {type : TypeRef} :
    type ∈ (fs.addText type).types := by
  unfold Fields.hasText at h
  unfold Fields.addText
  rw [h, if_neg (by decide), add_types]
  exact List.mem_append_right _ List.mem_cons_self

/-- The foreign types of a script that keeps them are in its fields. -/
theorem Script.Keeps.written {p : Script} (fs : Fields) (h : p.Keeps fs.hasText) {t : TypeRef}
    (hforeign : t.isForeign) (ht : t ∈ p.types ∨ t ∈ fs.types) : t ∈ (p.fields fs).types := by
  induction p generalizing fs with
  | done => exact ht.resolve_left List.not_mem_nil
  | skip rest ih | synonym _ rest ih | record _ _ _ _ rest _ ih | cut rest ih => exact ih fs h ht
  | refer type rest ih =>
      refine ih fs h.2 (ht.imp_left fun ht => ?_)
      obtain rfl | ht := List.mem_cons.mp ht
      · rw [h.1] at hforeign
        cases hforeign
      · exact ht
  | field name documentation content rest ih =>
      refine ih (fs.add name documentation content) ?_ ?_
      · rw [Fields.add_hasText, h.1, Bool.or_false]
        exact h.2
      · rw [Fields.add_types]
        obtain ht | ht := ht
        · obtain rfl | ht := List.mem_cons.mp ht
          · exact .inr (List.mem_append_right _ List.mem_cons_self)
          · exact .inl ht
        · exact .inr (List.mem_append_left _ ht)
  | text type rest ih =>
      refine ih (fs.addText type) ?_ ?_
      · rw [Fields.addText_hasText]
        exact h.2
      · obtain ht | ht := ht
        · obtain rfl | ht := List.mem_cons.mp ht
          · cases hfull : fs.hasText with
            | true =>
                rw [h.1 hfull] at hforeign
                cases hforeign
            | false => exact .inr (Fields.mem_addText hfull)
          · exact .inl ht
        · exact .inr (List.map_subset _ (Fields.prefix_addText fs type).subset ht)

/-! ## Which imports are used -/

/-- Every foreign type that belongs to the definition is written in its declaration. -/
def Node.Written (node : Node) : Prop :=
  ∀ t ∈ node.types, t.isForeign → t ∈ node.declaration.types

theorem Node.written_synonym (a : Code.Synonym) : (Node.synonym a).Written := fun _ h _ => h

theorem Node.written_record {name xmlName : String} {documentation : Option String}
    {inner : Script} (h : inner.Keeps false) :
    (Node.record name xmlName documentation inner).Written :=
  fun _ ht hforeign => Script.Keeps.written {} h hforeign (.inl ht)

/-- Every package in use is that of a type that is written in a declaration or is still pending. -/
def Justified (pending : List TypeRef) (s : Emission) : Prop :=
  ∀ package ∈ s.context.imports, ∃ name kind, .foreign package name kind ∈ pending ∨
    ∃ declaration ∈ s.declared, .foreign package name kind ∈ declaration.types

namespace Justified

variable {pending : List TypeRef} {s : Emission}

theorem mono {pending' : List TypeRef} {s' : Emission} (h : Justified pending s)
    (hpending : pending ⊆ pending') (himports : s'.context.imports = s.context.imports)
    (hdeclared : s.declared ⊆ s'.declared) : Justified pending' s' := by
  intro package hpackage
  obtain ⟨name, kind, ht | ⟨declaration, hmem, ht⟩⟩ := h package (himports ▸ hpackage)
  · exact ⟨name, kind, .inl (hpending ht)⟩
  · exact ⟨name, kind, .inr ⟨declaration, hdeclared hmem, ht⟩⟩

theorem noted (h : Justified pending s) (t : TypeRef) :
    Justified (t :: pending) (s.noted t) := by
  intro package hpackage
  obtain hpackage | ⟨name, kind, rfl⟩ := noted_imports.mp hpackage
  · exact h.mono (List.subset_cons_self ..) rfl (fun _ h => h) package hpackage
  · exact ⟨name, kind, .inl List.mem_cons_self⟩

/-- A declaration in which all of its types are written settles them. -/
theorem declare (node : Node) (h : Justified (node.types ++ pending) s) (hwritten : node.Written) :
    Justified pending (s.listed (some node.declaration)) := by
  have hdeclared := declared_listed_some s node.declaration
  intro package hpackage
  obtain ⟨name, kind, ht | ⟨declaration, hmem, ht⟩⟩ := h package hpackage
  · obtain ht | ht := List.mem_append.mp ht
    · refine ⟨name, kind, .inr ⟨node.declaration, ?_, hwritten _ ht rfl⟩⟩
      exact hdeclared ▸ List.mem_append_right _ List.mem_cons_self
    · exact ⟨name, kind, .inl ht⟩
  · exact ⟨name, kind, .inr ⟨declaration, hdeclared ▸ List.mem_append_left _ hmem, ht⟩⟩

theorem claiming (h : Justified pending s) {name : String} {declare : Emission → Emission}
    (hdeclare : ∀ s, Justified pending s → Justified pending (declare s)) :
    Justified pending (s.claiming name declare) := by
  unfold Emission.claiming
  split
  · exact h.mono (fun _ h => h) rfl (by simp)
  · exact hdeclare _ (h.mono (fun _ h => h) (marked_imports s name) fun _ h => h)

end Justified

/-- Where all nodes are written, only types of the record at hand are left pending. -/
theorem Script.emit_justified (p : Script) (hnodes : ∀ node ∈ p.nodes, node.Written)
    {pending : List TypeRef} {s : Emission} (h : Justified pending s) :
    Justified (p.types ++ pending) (p.emit s) := by
  induction p generalizing pending s with
  | done => exact h
  | skip rest ih => exact ih hnodes (h.mono (fun _ h => h) rfl (by simp))
  | refer type rest ih | text type rest ih =>
      refine (ih hnodes (h.noted type)).mono (fun t ht => ?_) rfl fun _ h => h
      exact List.perm_middle.mem_iff.mp ht
  | field _ _ content rest ih =>
      refine (ih hnodes (h.noted content.type)).mono (fun t ht => ?_) rfl fun _ h => h
      exact List.perm_middle.mem_iff.mp ht
  | synonym a rest ih =>
      obtain ⟨hnode, hrest⟩ := List.forall_mem_cons.mp hnodes
      refine ih hrest (h.claiming fun s h => ?_)
      exact Justified.declare (.synonym a) (h.noted a.target) hnode
  | record name xmlName documentation inner rest ihInner ih =>
      obtain ⟨hnode, hboth⟩ := List.forall_mem_cons.mp hnodes
      obtain ⟨hinner, hrest⟩ := List.forall_mem_append.mp hboth
      refine ih hrest (h.claiming fun s h => ?_)
      exact Justified.declare (.record name xmlName documentation inner) (ihInner hinner h) hnode
  | cut rest ih => exact ih hnodes (h.mono (fun _ h => h) rfl fun _ h => h)

/-! ## Scripts that keep what they note -/

/-- Neither the record at hand nor any definition in the script loses a foreign type. -/
structure Keeping (full : Bool) (p : Script) : Prop where
  keeps : p.Keeps full
  nodes : ∀ node ∈ p.nodes, node.Written

namespace Keeping

theorem weaken {full : Bool} {p : Script} (h : Keeping true p) : Keeping full p :=
  ⟨h.keeps.weaken, h.nodes⟩

/-- A script that keeps everything somewhere keeps it at the start of a record. -/
theorem start {full : Bool} {p : Script} (h : Keeping full p) : Keeping false p := by
  cases full with
  | false => exact h
  | true => exact h.weaken

theorem append {full : Bool} {p q : Script} (hp : Keeping full p) (hq : Keeping true q) :
    Keeping full (p ++ q) := by
  refine ⟨hp.keeps.append hq.keeps, fun node hnode => ?_⟩
  rw [Script.nodes_append] at hnode
  exact (List.mem_append.mp hnode).elim (hp.nodes node) (hq.nodes node)

theorem done {full : Bool} : Keeping full .done := ⟨trivial, nofun⟩

theorem field {name : String} {documentation : Option String} {content : Code.Content}
    (h : content.isText = false) : Keeping true (.field name documentation content .done) :=
  ⟨⟨h, trivial⟩, nofun⟩

theorem plain : Keeping true (.text plainText .done) := ⟨⟨fun _ => rfl, trivial⟩, nofun⟩

theorem synonym (a : Code.Synonym) : Keeping true (.synonym a .done) :=
  ⟨trivial, fun _ hnode => List.mem_singleton.mp hnode ▸ Node.written_synonym a⟩

theorem record {name xmlName : String} {documentation : Option String} {inner : Script}
    (h : Keeping false inner) : Keeping true (.record name xmlName documentation inner .done) := by
  refine ⟨trivial, fun node hnode => ?_⟩
  obtain rfl | hnode := List.mem_cons.mp hnode
  · exact Node.written_record h.keeps
  · obtain hnode | hnode := List.mem_append.mp hnode
    · exact h.nodes node hnode
    · cases hnode

/-- Without a text of its own, a script keeps everything piece by piece. -/
theorem piecewise : Piecewise fun p _ => Keeping true p :=
  ⟨done, append, field rfl, plain⟩

end Keeping

/-! ### Tasks -/

/-- No type of the document has two derivations, as the grammar of schemas has it. -/
def SingleDerivations (d : Document) : Prop :=
  ∀ place ∈ d.places, place.2.complexContent = none ∨ place.2.simpleContent = none

instance (d : Document) : Decidable (SingleDerivations d) :=
  inferInstanceAs (Decidable (∀ place ∈ d.places, _))

/-- A task besides content may find a text in place, since it brings none. -/
def Task.addsNoText : Task → Bool
  | .content _ _ => false
  | .element _ _ | .group _ _ | .attributes _ _ _ => true

section Tasks

variable {d : Document} {own : String}

theorem attributeScript_keeping (r : Resolver) (package : Option String) (parent : String)
    (a : Attribute) : Keeping true (attributeScript r package parent a) := by
  have hform := attributeScript_form r package parent a
  generalize attributeScript r package parent a = p at hform
  cases hform with
  | missing => exact .done
  | field _ => exact .field rfl
  | simpleType _ _ _ => exact (Keeping.synonym _).append (.field rfl)

/-- A base that is no type of the document leads to no record elsewhere, so nothing is lost where
its text is replaced. -/
theorem textScript_keeping {parent : String} {base : Option String}
    (hbase : base.bind (Resolver.ofDocument d).baseType? = none) :
    Keeping false (textScript (.ofDocument d) (some own) parent base) := by
  cases base with
  | none => exact Keeping.plain.weaken
  | some base =>
      obtain htext | ⟨htext, hreplaced⟩ := textScript_some (.ofDocument d) (some own) parent base
      · exact htext ▸ ⟨⟨nofun, trivial⟩, nofun⟩
      · refine htext ▸ ⟨⟨?_, nofun, trivial⟩, nofun⟩
        cases htype : (Resolver.ofDocument d).resolveType (some own) base with
        | builtin scalar => rfl
        | own name kind => rfl
        | foreign package name kind =>
            rw [htype] at hreplaced
            obtain ⟨kind, hown⟩ | hrecord := hreplaced
            · cases hown
            · rw [Resolver.resolveType_noRecord hbase htype] at hrecord
              cases hrecord

variable {scripts : Scripting} {k : Stacks}
  (hself : ∀ k task, task.StandsIn d → Keeping task.addsNoText (scripts k task))

include hself

theorem elementScript_keeping {r : Resolver} {package : Option String} {parent home : String}
    {e : Element} (hplaces : e.places home ⊆ d.places) :
    Keeping true (elementScript r package scripts k parent e) := by
  obtain ⟨form, hform, hscript⟩ := elementScript_form r package k parent e
  rw [hscript]
  cases hform with
  | missing => exact .done
  | field _ => exact .field (elementContent_isText ..)
  | complexType _ hname _ ht =>
      rw [Element.places_anonymous ht hname] at hplaces
      exact (Keeping.record (hself _ (.content _ _) ⟨_, hplaces⟩)).append
        (.field (elementContent_isText ..))
  | simpleType _ _ _ _ _ => exact (Keeping.synonym _).append (.field (elementContent_isText ..))

theorem inside_keeping {parent : String} {t : ComplexType}
    (ht : (Task.content parent t).StandsIn d) :
    Inside (fun p _ => Keeping true p) scripts scripts k parent t where
  elements e he := hself k (.element parent e) ((Subtask.element (k := k) he).standsIn ht)
  groups g hg := hself k (.group parent g) ((Subtask.group (k := k) hg).standsIn ht)
  attributes part hpart :=
    hself k (.attributes parent part.1 part.2) ((Subtask.attributes (k := k) hpart).standsIn ht)

theorem bases_keeping {parent : String} {t : ComplexType}
    (ht : (Task.content parent t).StandsIn d) :
    Bases (fun p _ => Keeping false p) (.ofDocument d) scripts scripts k t :=
  fun _ hmem hkind _ type hfound hopen =>
    hself _ (.content _ type) ((Subtask.base hmem hkind hfound hopen).standsIn ht)

theorem complexContentScript_keeping {parent : String} {t : ComplexType}
    (ht : (Task.content parent t).StandsIn d) {derivation : Derivation}
    (hmem : derivation ∈ t.derivations) :
    Keeping false (complexContentScript (.ofDocument d) scripts k parent derivation) := by
  refine .append ?_ (Keeping.piecewise.addition (inside_keeping hself ht) hmem)
  split
  · next name type hbase =>
      split at hbase
      · next hkind =>
          exact Piecewise.inline (R := fun p _ => Keeping false p) scripts scripts .done
            (bases_keeping hself ht derivation hmem hkind name type hbase)
      · cases hbase
  · exact .done

theorem simpleContentScript_keeping {parent : String} {t : ComplexType}
    (ht : (Task.content parent t).StandsIn d) {derivation : Derivation}
    (hmem : derivation ∈ t.derivations) :
    Keeping false (simpleContentScript (.ofDocument d) (some own) scripts k parent derivation) := by
  refine .append ?_ (Keeping.piecewise.addition (inside_keeping hself ht) hmem)
  split
  · next name type hbase =>
      split
      · next hkind =>
          exact Piecewise.inline (R := fun p _ => Keeping false p) scripts scripts
            Keeping.plain.weaken (bases_keeping hself ht derivation hmem hkind name type hbase)
      · exact Keeping.plain.weaken
  · next hbase => exact textScript_keeping hbase

/-- A type with at most one derivation has at most one text besides its own plain one. -/
theorem contentScript_keeping (hsingle : SingleDerivations d) {parent : String}
    {t : ComplexType} (ht : (Task.content parent t).StandsIn d) :
    Keeping false (contentScript (.ofDocument d) (some own) scripts k parent t) := by
  have hpieces := Keeping.piecewise
  have hinside : Inside (fun p _ => Keeping true p) scripts scripts k parent t :=
    inside_keeping hself ht
  have hderived : Keeping false
      (.ofOption t.complexContent (complexContentScript (.ofDocument d) scripts k parent) ++
        .ofOption t.simpleContent
          (simpleContentScript (.ofDocument d) (some own) scripts k parent)) := by
    have hcomplex : ∀ derivation ∈ t.derivations, Keeping false
        (complexContentScript (.ofDocument d) scripts k parent derivation) :=
      fun _ hmem => complexContentScript_keeping hself ht hmem
    have hsimple : ∀ derivation ∈ t.derivations, Keeping false
        (simpleContentScript (.ofDocument d) (some own) scripts k parent derivation) :=
      fun _ hmem => simpleContentScript_keeping hself ht hmem
    unfold ComplexType.derivations at hcomplex hsimple
    obtain ⟨home, hplaces⟩ := ht
    obtain hnone | hnone := hsingle _ (hplaces (t.mem_places home))
    · rw [hnone] at hsimple ⊢
      cases hs : t.simpleContent with
      | none => exact .done
      | some derivation => exact hsimple derivation (by simp [hs])
    · rw [hnone] at hcomplex ⊢
      cases hc : t.complexContent with
      | none => exact .done
      | some derivation => exact (hcomplex derivation (by simp [hc])).append .done
  have helements := hpieces.each (t.sequence ++ t.choice ++ t.all) (q := fun _ => .done)
    fun e he => hinside.elements e (List.mem_append_right _ he)
  have hgroups := hpieces.each t.groups (q := fun _ => .done) fun g hg =>
    hinside.groups g (List.mem_append_right _ hg)
  have hattributes := hinside.attributes (t.attributes, t.attributeGroups)
    (List.mem_append_right _ List.mem_cons_self)
  refine ((((hderived.append helements).append hgroups).append
    (hpieces.wildcards t.wildcards)).append hattributes).append ?_
  split
  · exact .plain
  · exact .done

theorem step_keeping (hsingle : SingleDerivations d) {task : Task} (htask : task.StandsIn d) :
    Keeping task.addsNoText (stepScript (.ofDocument d) (some own) scripts k task) := by
  have hpieces := Keeping.piecewise
  cases task with
  | content parent type => exact contentScript_keeping hself hsingle htask
  | element parent e =>
      obtain ⟨home, hplaces⟩ := htask
      exact elementScript_keeping hself hplaces
  | group parent reference =>
      refine hpieces.group scripts scripts fun g hg hopen => ⟨fun e he => ?_, fun n hn => ?_⟩
      · exact hself _ (.element parent e) ((Subtask.groupElement hg hopen he).standsIn htask)
      · exact hself _ (.group parent n) ((Subtask.groupReference hg hopen hn).standsIn htask)
  | attributes parent attributes groups =>
      exact hpieces.attributes scripts scripts
        (fun a _ => attributeScript_keeping _ _ parent a)
        fun _ hmem g hg hopen => hself _ (.attributes parent g.attributes g.attributeGroups)
          ((Subtask.attributeGroup hmem hg hopen).standsIn htask)

end Tasks

theorem script_keeping {d : Document} (hsingle : SingleDerivations d) (own : String) (depth : Nat)
    (k : Stacks) {task : Task} (htask : task.StandsIn d) :
    Keeping task.addsNoText (script (.ofDocument d) (some own) depth k task) := by
  induction depth generalizing k task with
  | zero => exact ⟨trivial, nofun⟩
  | succ depth ih => exact step_keeping (fun k task htask => ih k htask) hsingle htask

/-! ### Schemas -/

theorem schemaScript_keeping {d : Document} {own : String} {scripts : Scripting} {k : Stacks}
    (hself : ∀ k task, task.StandsIn d → Keeping task.addsNoText (scripts k task)) {schema : Schema}
    (hschema : schema ∈ d.schemas) :
    Keeping true (schemaScript (.ofDocument d) (some own) scripts k schema) := by
  refine Keeping.piecewise.schema scripts scripts ⟨trivial, nofun⟩ fun xmlName definition h => ?_
  cases hdraft : draft (.ofDocument d) (some own) k xmlName definition with
  | skip => exact ⟨trivial, nofun⟩
  | synonym a => exact .synonym a
  | plain documentation text =>
      refine .record ?_
      cases text with
      | none => exact .done
      | some type => exact ⟨⟨nofun, trivial⟩, nofun⟩
  | record documentation k' task =>
      exact .record (hself k' task (draft_standsIn hschema h hdraft)).start

/-- Definitions at the top of a schema are in no record. -/
theorem schemaScript_types (r : Resolver) (package : Option String) (scripts : Scripting)
    (k : Stacks) (schema : Schema) : (schemaScript r package scripts k schema).types = [] := by
  have hdraft (xmlName : String) (definition : Definition) :
      ((draft r package k xmlName definition).script scripts xmlName).types = [] := by
    cases draft r package k xmlName definition <;> rfl
  have hdefinition (name : Option String) (definition : Definition) :
      (definitionScript r package scripts k name definition).types = [] := by
    cases name with
    | none => rfl
    | some xmlName => exact hdraft xmlName definition
  simp [schemaScript, Script.types_each, hdefinition]

end Emission

/-! ## Modules -/

namespace Document

open Emission

variable {d : Document}

/-- Every package that is used in a package is another one. -/
theorem emitPackage_imports_ne (d : Document) (package : String) :
    package ∉ (d.emitPackage (.ofDocument d) package).context.imports := by
  have hlinked := d.packageScript_linked package
  have hforeign {names : List String} {other name : String} {kind : Option SymbolKind}
      (h : Refers d (some package) names (.foreign other name kind)) : other ≠ package := by
    obtain h | ⟨_, _, h, -⟩ := h
    · exact h.foreign
    · cases h
  rw [emitPackage_eq]
  have hstart : ImportsAre (· ≠ package) { context := { package := some package } } := nofun
  intro h
  refine Script.emit_importsAre _ (fun other name kind ht => ?_)
    (fun node hnode other name kind ht => ?_) hstart package h rfl
  · exact hforeign (hlinked.types _ ht)
  · exact hforeign (hlinked.nodes node hnode _ ht)

/-- Whatever is written in a package is imported. -/
theorem emitPackage_imports {package : String} {declaration : Code.Declaration}
    (h : declaration ∈ d.declarations package) {other name : String} {kind : Option SymbolKind}
    (ht : .foreign other name kind ∈ declaration.types) :
    other ∈ (d.emitPackage (.ofDocument d) package).context.imports := by
  obtain ⟨node, -, rfl, hsettled⟩ := d.emitPackage_fromNodes package declaration h
  exact hsettled.imports (node.types_declaration ht)

/-- Whatever is imported in a package is written, where no type has two derivations. -/
theorem emitPackage_imports_used (hsingle : SingleDerivations d) {package other : String}
    (h : other ∈ (d.emitPackage (.ofDocument d) package).context.imports) :
    ∃ declaration ∈ d.declarations package, ∃ name kind,
      .foreign other name kind ∈ declaration.types := by
  have hkeeping : Keeping true (d.packageScript (.ofDocument d) package) :=
    Keeping.piecewise.each _ (q := fun _ => .done) fun schema hschema =>
      schemaScript_keeping (fun k _ htask => script_keeping hsingle package _ k htask)
        (d.schemasIn_subset package hschema)
  have htypes : (d.packageScript (.ofDocument d) package).types = [] := by
    simp [packageScript, Script.types_each, schemaScript_types]
  have hstart : Justified [] { context := { package := some package } } := nofun
  have hjustified := Script.emit_justified _ hkeeping.nodes hstart
  rw [htypes, ← emitPackage_eq] at hjustified
  obtain ⟨name, kind, ht | ⟨declaration, hmem, ht⟩⟩ := hjustified other h
  · cases ht
  · exact ⟨declaration, hmem, name, kind, ht⟩

section Modules

variable {operations : String} {g : Generated} (h : d.generate operations = .ok g)

include h

theorem types_imports {m : Code.SourceModule} (hm : m ∈ g.types) :
    m.imports = (d.emitPackage (.ofDocument d) m.package).context.imports := by
  rw [(mem_types h hm).2]
  rfl

theorem mem_types_references {m : Code.SourceModule} (hm : m ∈ g.types) {t : TypeRef} :
    t ∈ m.body.references ↔ ∃ declaration ∈ d.declarations m.package, t ∈ declaration.types := by
  rw [types_declarations h hm]
  exact List.mem_flatMap

theorem types_imports_of_reference {m : Code.SourceModule} (hm : m ∈ g.types)
    {package name : String} {kind : Option SymbolKind}
    (ht : .foreign package name kind ∈ m.body.references) : package ∈ m.imports := by
  obtain ⟨declaration, hdeclaration, ht⟩ := (mem_types_references h hm).mp ht
  rw [types_imports h hm]
  exact emitPackage_imports hdeclaration ht

theorem types_reference_of_imports (hsingle : SingleDerivations d) {m : Code.SourceModule}
    (hm : m ∈ g.types) {package : String} (hpackage : package ∈ m.imports) :
    ∃ name kind, .foreign package name kind ∈ m.body.references := by
  rw [types_imports h hm] at hpackage
  obtain ⟨declaration, hdeclaration, name, kind, ht⟩ := emitPackage_imports_used hsingle hpackage
  exact ⟨name, kind, (mem_types_references h hm).mpr ⟨declaration, hdeclaration, ht⟩⟩

end Modules

/-- **Imports are right.**  Every package that a module refers to is imported and its header says
so; no module of types imports its own package, and the clients write no type by its bare name; and
where no type has two derivations, every imported package stands in front of a type in the text. -/
theorem imports_exact (d : Document) (operations : String) {g : Generated}
    (h : d.generate operations = .ok g) :
    (∀ m ∈ g.modules, ∀ package name kind, .foreign package name kind ∈ m.body.references →
      package ∈ m.imports ∧ ["use super ::", Naming.moduleName package, ";"] <:+: m.header) ∧
    (∀ m ∈ g.types, m.package ∉ m.imports) ∧
    (∀ m, g.operations = some m → ∀ name kind, .own name kind ∉ m.body.references) ∧
    (SingleDerivations d → ∀ m ∈ g.modules, ∀ package ∈ m.imports, ∃ name kind,
      .foreign package name kind ∈ m.body.references ∧
        [Naming.moduleName package, "::", Naming.typeIdentifier name] <:+: m.body.tokens) := by
  have hclients {m : Code.SourceModule} (hm : g.operations = some m) :=
    operationsModule_references (hm ▸ (generate_ok h).2.symm)
  refine ⟨fun m hm package name kind ht => ?_, fun m hm => ?_, fun m hm name kind ht => ?_,
    fun hsingle m hm package hpackage => ?_⟩
  · have hmem : package ∈ m.imports := by
      obtain hm | hm := List.mem_append.mp hm
      · exact types_imports_of_reference h hm ht
      · exact ((hclients (Option.mem_toList.mp hm)).2 package).mpr ⟨name, kind, ht⟩
    exact ⟨hmem, Code.infix_header hmem⟩
  · rw [types_imports h hm]
    exact emitPackage_imports_ne d m.package
  · exact absurd ((hclients hm).1 _ ht) Resolver.Leads.detached
  · obtain ⟨name, kind, ht⟩ : ∃ name kind, .foreign package name kind ∈ m.body.references := by
      obtain hm | hm := List.mem_append.mp hm
      · exact types_reference_of_imports h hsingle hm hpackage
      · exact ((hclients (Option.mem_toList.mp hm)).2 package).mp hpackage
    exact ⟨name, kind, ht, Code.infix_body ht rfl⟩

/-- A service that answers with a record which holds a type of another package. -/
def twoPackages : Document where
  kind := .wsdl
  location := none
  rootPackage := basePackage
  definitions := {
    schemas := [{
      identifier := basePackage
      elements := [{
        name := some "answer"
        complexType := some { sequence := [{ name := some "amount", type := some "money" }] } }] }]
    messages := [{ name := "answer", parts := [{ name := "body", element := some "answer" }] }]
    portTypes := [{
      name := "quotes"
      operations := [{ name := "ask", output := some "answer" }] }] }
  registry := { schemas := [{
    identifier := "money"
    complexTypes := [{ name := some "money", attributes := [{ name := some "currency" }] }] }] }

theorem imports_exact_twoPackages :
    SingleDerivations twoPackages ∧ ∃ g, twoPackages.generate "operations" = .ok g ∧
      g.modules.map (·.imports) = [["money"], [], [basePackage]] ∧
      ∀ m ∈ g.modules, ∀ package ∈ m.imports,
        ∃ name kind, .foreign package name kind ∈ m.body.references := by
  have hsingle : SingleDerivations twoPackages := by decide +kernel
  obtain ⟨g, hgenerate⟩ : ∃ g, twoPackages.generate "operations" = .ok g :=
    exists_of_generates (by decide +kernel)
  have himports : (twoPackages.generate "operations").toOption.map (·.modules.map (·.imports)) =
      some [["money"], [], [basePackage]] := by decide +kernel
  rw [hgenerate] at himports
  refine ⟨hsingle, g, hgenerate, Option.some.inj himports, fun m hm package hpackage => ?_⟩
  obtain ⟨name, kind, ht, -⟩ :=
    (imports_exact twoPackages "operations" hgenerate).2.2.2 hsingle m hm package hpackage
  exact ⟨name, kind, ht⟩

end Document

end SoapBindings
