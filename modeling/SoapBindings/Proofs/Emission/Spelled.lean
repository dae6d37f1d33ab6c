/-
# `SoapBindings.Proofs.Emission.Spelled` — declarations by names that are spelled

Where the names of a document are spellable so is whatever is made of them, and only constants are
left to look at: those of a type whose name begins with a digit.

A script says which names it uses before anything is emitted.  `Script.Spelled` is shown along the
tasks of an expansion, and what a spelled script emits is spelled, whatever is skipped.
-/
import SoapBindings.Proofs.Emission.Links
import SoapBindings.Proofs.Emission.Names

namespace SoapBindings

open Xsd

namespace Emission

/-! ## Declarations -/

/-- The names of a synonym are spelled.  Its constants have identifiers unless its own name begins
with a digit. -/
structure SpelledSynonym (a : Code.Synonym) : Prop where
  name : Naming.Spelling a.name.toList
  target : a.target.Spelled
  constants : ∀ c ∈ a.constants, Naming.isIdentifier c.ident = !Naming.beginsWithDigit a.name

/-- The fields of a record are named by identifiers, and their types are spelled. -/
structure Fields.Spelled (fs : Fields) : Prop where
  fields : ∀ f ∈ fs.fields, Naming.isIdentifier f.ident ∧ f.content.type.Spelled
  unwritten : ∀ t ∈ fs.unwritten, t.Spelled

/-- The names in a declaration are spelled. -/
def SpelledDeclaration : Code.Declaration → Prop
  | .synonym a => SpelledSynonym a
  | .record r => Naming.Spelling r.name.toList ∧
      Fields.Spelled { fields := r.fields, unwritten := r.unwritten }

/-- A declaration can be written unless it has constants whose names begin with a digit. -/
theorem SpelledDeclaration.identifiers {declaration : Code.Declaration}
    (h : SpelledDeclaration declaration) :
    declaration.identifiers.all Naming.isIdentifier ↔
      ∀ a, declaration = .synonym a → a.constants ≠ [] → Naming.beginsWithDigit a.name = false := by
  cases declaration with
  | record r =>
      refine iff_of_true (List.all_eq_true.mpr fun name hname => ?_) nofun
      obtain hname | hname := List.mem_append.mp hname
      · obtain rfl | hname := List.mem_cons.mp hname
        · exact Naming.isIdentifier_typeIdentifier h.1
        · obtain ⟨f, hf, hname⟩ := List.mem_flatMap.mp hname
          obtain ⟨hident, htype⟩ := h.2.fields f hf
          obtain rfl | hname := List.mem_cons.mp hname
          · exact hident
          · exact htype.identifiers name hname
      · obtain ⟨t, ht, hname⟩ := List.mem_flatMap.mp hname
        exact (h.2.unwritten t ht).identifiers name hname
  | synonym a =>
      have hname := Naming.isIdentifier_typeIdentifier h.name
      have htarget := List.all_eq_true.mpr h.target.identifiers
      simp only [Code.Declaration.identifiers, List.all_cons, List.all_append, hname, htarget,
        Bool.true_and, List.all_map, List.all_eq_true, Function.comp_apply]
      constructor
      · intro hall _ heq hne
        cases heq
        obtain ⟨c, hc⟩ := List.exists_mem_of_ne_nil _ hne
        have hident := hall c hc
        rw [h.constants c hc] at hident
        simpa using hident
      · intro hdigit c hc
        rw [h.constants c hc, hdigit a rfl (List.ne_nil_of_mem hc)]
        rfl

/-! ### Fields -/

theorem Fields.Spelled.add {fs : Fields} (h : fs.Spelled) {name : String}
    (hname : Naming.isSpellable name) (documentation : Option String) {content : Code.Content}
    (hcontent : content.type.Spelled) : (fs.add name documentation content).Spelled := by
  refine ⟨fun f hf => ?_, h.unwritten⟩
  obtain hf | hf := List.mem_append.mp hf
  · exact h.fields f hf
  · rw [List.mem_singleton.mp hf]
    exact ⟨(Naming.isIdentifier_unique ..).trans (Naming.isIdentifier_fieldName hname), hcontent⟩

theorem Fields.Spelled.addText {fs : Fields} (h : fs.Spelled) {type : TypeRef}
    (htype : type.Spelled) : (fs.addText type).Spelled := by
  unfold Fields.addText
  split
  · exact ⟨h.fields, List.forall_mem_append.mpr ⟨h.unwritten, List.forall_mem_singleton.mpr htype⟩⟩
  · exact h.add (by decide +kernel) none htype

/-! ### Constants -/

theorem constants_spelled {synonym : String} (h : Naming.Spelling synonym.toList)
    (target : TypeRef) {values : List Enumeration}
    (hvalues : ∀ e ∈ values, Naming.isSpellable e.value) :
    ∀ c ∈ constants synonym target values,
      Naming.isIdentifier c.ident = !Naming.beginsWithDigit synonym := by
  have hstart : ∀ c ∈ ([] : List Code.Constant),
      Naming.isIdentifier c.ident = !Naming.beginsWithDigit synonym := nofun
  unfold constants
  refine List.foldlRecOn (motive := fun done : List Code.Constant => ∀ c ∈ done,
    Naming.isIdentifier c.ident = !Naming.beginsWithDigit synonym) _ _ hstart
    fun done hdone item hitem c hc => ?_
  obtain hc | hc := List.mem_append.mp hc
  · exact hdone c hc
  · rw [List.mem_singleton.mp hc, Naming.isIdentifier_unique]
    exact isIdentifier_constantName h item.2 (hvalues item.1 (List.fst_mem_of_mem_zipIdx hitem))

/-! ## Scripts -/

/-- The names in a script are spelled. -/
def Script.Spelled : Script → Prop
  | done => True
  | skip rest => rest.Spelled
  | refer type rest => type.Spelled ∧ rest.Spelled
  | field name _ content rest =>
    (Naming.isSpellable name ∧ content.type.Spelled) ∧ rest.Spelled
  | text type rest => type.Spelled ∧ rest.Spelled
  | synonym a rest => SpelledSynonym a ∧ rest.Spelled
  | record name _ _ inner rest => (Naming.Spelling name.toList ∧ inner.Spelled) ∧ rest.Spelled
  | cut rest => rest.Spelled

namespace Script.Spelled

theorem append {p q : Script} (hp : p.Spelled) (hq : q.Spelled) : (p ++ q).Spelled := by
  induction p with
  | done => exact hq
  | skip rest ih | cut rest ih => exact ih hp
  | refer _ rest ih | field _ _ _ rest ih | text _ rest ih | synonym _ rest ih
  | record _ _ _ _ rest _ ih => exact ⟨hp.1, ih hp.2⟩

theorem piecewise : Piecewise fun p _ => p.Spelled :=
  ⟨trivial, append, ⟨⟨by decide +kernel, trivial⟩, trivial⟩, ⟨trivial, trivial⟩⟩

/-- The fields of a spelled script have identifiers. -/
theorem fields {p : Script} (hp : p.Spelled) {fs : Fields} (h : fs.Spelled) :
    (p.fields fs).Spelled := by
  induction p generalizing fs with
  | done => exact h
  | skip rest ih | cut rest ih => exact ih hp h
  | refer _ rest ih | synonym _ rest ih | record _ _ _ _ rest _ ih => exact ih hp.2 h
  | field name documentation content rest ih =>
      exact ih hp.2 (h.add hp.1.1 documentation hp.1.2)
  | text type rest ih => exact ih hp.2 (h.addText hp.1)

end Script.Spelled

/-- The names in all that was emitted are spelled. -/
structure Spelled (s : Emission) : Prop where
  declared : ∀ declaration ∈ s.declared, SpelledDeclaration declaration
  imports : AllSpellable s.context.imports

namespace Spelled

variable {s : Emission} (h : s.Spelled)

include h

theorem noted {t : TypeRef} (ht : t.Spelled) : (s.noted t).Spelled := by
  refine ⟨h.declared, fun package hpackage => ?_⟩
  obtain hpackage | ⟨name, kind, rfl⟩ := noted_imports.mp hpackage
  · exact h.imports package hpackage
  · exact ht.1

theorem listed {declaration : Code.Declaration} (hdeclaration : SpelledDeclaration declaration) :
    (s.listed (some declaration)).Spelled := by
  refine ⟨?_, h.imports⟩
  rw [declared_listed_some]
  exact List.forall_mem_append.mpr ⟨h.declared, List.forall_mem_singleton.mpr hdeclaration⟩

theorem claiming {name : String} {declare : Emission → Emission}
    (hdeclare : ∀ s : Emission, s.Spelled → (declare s).Spelled) :
    (s.claiming name declare).Spelled := by
  unfold Emission.claiming
  split
  · exact ⟨by simpa using h.declared, h.imports⟩
  · exact hdeclare _ ⟨h.declared, fun package hpackage =>
      h.imports package (marked_imports s name ▸ hpackage)⟩

end Spelled

/-- What a spelled script emits is spelled. -/
theorem Script.Spelled.emit {p : Script} (hp : p.Spelled) {s : Emission} (h : s.Spelled) :
    (p.emit s).Spelled := by
  induction p generalizing s with
  | done => exact h
  | skip rest ih => exact ih hp ⟨by simpa using h.declared, h.imports⟩
  | cut rest ih => exact ih hp ⟨h.declared, h.imports⟩
  | refer type rest ih | text type rest ih => exact ih hp.2 (h.noted hp.1)
  | field _ _ content rest ih => exact ih hp.2 (h.noted hp.1.2)
  | synonym a rest ih =>
      exact ih hp.2 (h.claiming fun s h => (h.noted hp.1.target).listed hp.1)
  | record name xmlName documentation inner rest ihInner ih =>
      refine ih hp.2 (h.claiming fun s h => (ihInner hp.1.2 h).listed ⟨hp.1.1, ?_⟩)
      exact hp.1.2.fields ⟨nofun, nofun⟩

/-! ## Tasks -/

/-- The type that the parts of a task are named after. -/
def Task.parent : Task → String
  | .content parent _ | .element parent _ | .group parent _ => parent
  | .attributes parent _ _ => parent

/-- The names in a task itself.  Those in types and groups are of the document. -/
def Task.names : Task → List String
  | .content _ _ | .group _ _ => []
  | .element _ e => e.names
  | .attributes _ own _ => own.flatMap (·.names)

/-- A task that stands in the document, with names that are spelled. -/
structure Task.Spelled (d : Document) (task : Task) : Prop where
  standsIn : task.StandsIn d
  parent : Naming.Spelling task.parent.toList
  names : AllSpellable task.names

theorem anonymousName_spelling {parent name : String} (hparent : Naming.Spelling parent.toList)
    (hname : Naming.isSpellable name) : Naming.Spelling (anonymousName parent name).toList := by
  rw [anonymousName, String.toList_append]
  exact hparent.append (Naming.typeName_spelling hname)

section Tasks

variable {d : Document} (hd : AllSpellable d.names)

include hd

theorem Subtask.spelled {k k' : Stacks} {task task' : Task}
    (h : Subtask (.ofDocument d) k task k' task') (htask : task.Spelled d) : task'.Spelled d := by
  refine ⟨h.standsIn htask.standsIn, ?_, ?_⟩
  · cases h with
    | base _ _ hfound _ =>
        obtain ⟨base, -, hfound⟩ := Option.bind_eq_some_iff.mp hfound
        obtain ⟨s, hs, hname, -⟩ := Resolver.baseType?_mem hfound
        have hspellable := (Document.spellable_symbol hd hs).1
        rw [hname] at hspellable
        exact Naming.typeName_spelling hspellable
    | element | group | attributes | groupElement | groupReference | attributeGroup =>
        exact htask.parent
  · cases h with
    | element he =>
        obtain ⟨home, hplaces⟩ := htask.standsIn
        have hnames := Document.spellable_place hd (hplaces (ComplexType.mem_places home _))
        exact (ComplexType.spellable_parts hnames).2.1 _ he
    | attributes hpart =>
        obtain ⟨home, hplaces⟩ := htask.standsIn
        have hnames := Document.spellable_place hd (hplaces (ComplexType.mem_places home _))
        exact (ComplexType.spellable_parts hnames).2.2 _ hpart
    | groupElement hg _ he =>
        obtain ⟨schema, hschema, hmem⟩ := Resolver.group?_mem hg
        exact Document.spellable_group hd hschema hmem he
    | attributeGroup _ hg _ =>
        obtain ⟨s, hs, hdefinition, -⟩ := Resolver.attributeGroup?_mem hg
        obtain ⟨schema, hschema, -, hdeclares⟩ := Document.declares_of_mem hs
        rw [hdefinition] at hdeclares
        cases hdeclares with
        | attributeGroup hmem _ => exact Document.spellable_attributeGroup hd hschema hmem
    | group | base | groupReference => exact fun _ hname => absurd hname List.not_mem_nil

/-! ### Types in place -/

theorem synonymScript_spelled {package : Option String} {name : String}
    (hname : Naming.Spelling name.toList) {t : SimpleType} (ht : AllSpellable t.names)
    (documentation : Option String) :
    (synonymScript (.ofDocument d) package name t documentation).Spelled := by
  obtain ⟨hbase, hvalues⟩ := allSpellable_append.mp ht
  have hrestricted : (restrictedType (.ofDocument d) package t).Spelled := by
    unfold restrictedType
    split
    · next base hrestricts =>
        refine Resolver.resolveType_spelled hd (allSpellable_map.mp hbase base ?_)
        exact Option.mem_toList.mpr hrestricts
    · trivial
  refine ⟨⟨hname, ?_, constants_spelled hname _ (allSpellable_map.mp hvalues)⟩, trivial⟩
  unfold synonymOf synonymTarget
  dsimp only
  split
  · next hown =>
      rw [hown] at hrestricted
      split
      · trivial
      · exact hrestricted
  · exact hrestricted

theorem textScript_spelled {package : Option String} (parent : String) {base : Option String}
    (hbase : ∀ name, base = some name → Naming.isSpellable (Naming.localName name)) :
    (textScript (.ofDocument d) package parent base).Spelled := by
  cases base with
  | none => exact ⟨trivial, trivial⟩
  | some base =>
      have htype : ((Resolver.ofDocument d).resolveType package base).Spelled :=
        Resolver.resolveType_spelled hd (hbase base rfl)
      obtain htext | ⟨htext, -⟩ := textScript_some (.ofDocument d) package parent base
      · exact htext ▸ ⟨htype, trivial⟩
      · exact htext ▸ ⟨htype, trivial, trivial⟩

theorem attributeScript_spelled {package : Option String} {parent : String}
    (hparent : Naming.Spelling parent.toList) {a : Attribute} (ha : AllSpellable a.names) :
    (attributeScript (.ofDocument d) package parent a).Spelled := by
  obtain ⟨hname, href, htype, hsimple⟩ := spellable_parts ha
  unfold attributeScript attributeTypeScript
  cases hown : a.name with
  | some name =>
      have hname := hname name hown
      cases hnamed : a.type with
      | some type => exact ⟨⟨hname, Resolver.resolveType_spelled hd (htype type hnamed)⟩, trivial⟩
      | none =>
          cases ht : a.simpleType with
          | some t =>
              have hanonymous := anonymousName_spelling hparent hname
              exact (synonymScript_spelled hd hanonymous (hsimple t ht) t.documentation).append
                ⟨⟨hname, hanonymous⟩, trivial⟩
          | none => exact ⟨⟨hname, trivial⟩, trivial⟩
  | none =>
      cases hreference : a.ref with
      | some reference => exact ⟨⟨href reference hreference, trivial⟩, trivial⟩
      | none => trivial

section Steps

variable {package : Option String} {scripts : Scripting} {k : Stacks}
  (hself : ∀ k task, task.Spelled d → (scripts k task).Spelled)

include hself

theorem elementScript_spelled {parent : String} {e : Element}
    (htask : (Task.element parent e).Spelled d) :
    (elementScript (.ofDocument d) package scripts k parent e).Spelled := by
  obtain ⟨hname, href, htype, hsimple⟩ := spellable_parts htask.names
  have hfield {name : String} {type : TypeRef} (hname : Naming.isSpellable name)
      (htype : type.Spelled) : (Script.field name e.documentation
        (elementContent e name type) .done).Spelled :=
    ⟨⟨hname, (elementContent_type e name type).symm ▸ htype⟩, trivial⟩
  unfold elementScript elementTypeScript
  cases hreference : e.ref with
  | some reference =>
      have href := href reference hreference
      exact hfield href (Resolver.resolveElement_spelled hd href)
  | none =>
      cases hown : e.name with
      | none => trivial
      | some name =>
          have hname := hname name hown
          have hanonymous := anonymousName_spelling htask.parent hname
          cases hnamed : e.type with
          | some type => exact hfield hname (Resolver.resolve_spelled hd (htype type hnamed))
          | none =>
              cases ht : e.complexType with
              | some t =>
                  obtain ⟨home, hplaces⟩ := htask.standsIn
                  rw [Element.places_anonymous ht hown] at hplaces
                  have hinner := hself (k.inRecord (anonymousName parent name))
                    (.content (anonymousName parent name) t) ⟨⟨_, hplaces⟩, hanonymous, nofun⟩
                  have hrecord : (recordScript scripts k (anonymousName parent name) name t
                    t.documentation).Spelled := ⟨⟨hanonymous, hinner⟩, trivial⟩
                  exact hrecord.append (hfield hname hanonymous)
              | none =>
                  cases hs : e.simpleType with
                  | some t =>
                      exact (synonymScript_spelled hd hanonymous (hsimple t hs)
                        t.documentation).append (hfield hname hanonymous)
                  | none => exact hfield hname trivial

theorem step_spelled {task : Task} (htask : task.Spelled d) :
    (stepScript (.ofDocument d) package scripts k task).Spelled := by
  have hpieces := Script.Spelled.piecewise
  have hsub {k' : Stacks} {task' : Task} (h : Subtask (.ofDocument d) k task k' task') :
      (scripts k' task').Spelled := hself k' task' (h.spelled hd htask)
  cases task with
  | content parent type =>
      obtain ⟨home, hplaces⟩ := htask.standsIn
      have hnames := Document.spellable_place hd (hplaces (type.mem_places home))
      refine hpieces.content scripts scripts
        ⟨fun _ he => hsub (.element he), fun _ hg => hsub (.group hg),
          fun _ hpart => hsub (.attributes hpart)⟩
        (fun _ hmem hkind _ _ hfound hopen => hsub (.base hmem hkind hfound hopen)) ?_
      exact fun derivation hmem _ =>
        textScript_spelled hd parent ((ComplexType.spellable_parts hnames).1 derivation hmem)
  | element parent e => exact elementScript_spelled hd hself htask
  | group parent reference =>
      exact hpieces.group scripts scripts fun g hg hopen =>
        ⟨fun e he => hsub (.groupElement hg hopen he),
          fun n hn => hsub (.groupReference hg hopen hn)⟩
  | attributes parent attributes groups =>
      refine hpieces.attributes scripts scripts (fun a ha => ?_) fun _ hmem g hg hopen =>
        hsub (.attributeGroup hmem hg hopen)
      exact attributeScript_spelled hd htask.parent (allSpellable_flatMap.mp htask.names a ha)

end Steps

theorem script_spelled (package : Option String) (depth : Nat) (k : Stacks) {task : Task}
    (htask : task.Spelled d) : (script (.ofDocument d) package depth k task).Spelled := by
  induction depth generalizing k task with
  | zero => trivial
  | succ depth ih => exact step_spelled hd (fun k _ htask => ih k htask) htask

/-! ## Schemas -/

section Schemas

variable {package : Option String} {scripts : Scripting} {k : Stacks}
  (hself : ∀ k task, task.Spelled d → (scripts k task).Spelled)

include hself

theorem typed_spelled {xmlName type : String} {documentation : Option String} {found : Draft}
    (hname : Naming.isSpellable xmlName) (htype : Naming.isSpellable (Naming.localName type))
    (h : Typed (.ofDocument d) package k xmlName type documentation found) :
    (found.script scripts xmlName).Spelled := by
  have hxmlName := Naming.typeName_spelling hname
  have hresolved : ((Resolver.ofDocument d).resolve package type).Spelled :=
    Resolver.resolve_spelled hd htype
  cases h with
  | covered => trivial
  | text => exact ⟨⟨hxmlName, hresolved, trivial⟩, trivial⟩
  | expanding => exact ⟨⟨hxmlName, trivial⟩, trivial⟩
  | @content declared t hfound =>
      obtain ⟨s, hs, hdeclared, -⟩ := Resolver.complexType?_mem hfound
      have hspellable := (Document.spellable_symbol hd hs).1
      rw [hdeclared] at hspellable
      exact ⟨⟨hxmlName, hself _ (.content _ t)
        ⟨Document.places_content hfound, Naming.typeName_spelling hspellable, nofun⟩⟩, trivial⟩
  | renamed => exact ⟨⟨hxmlName, hresolved, nofun⟩, trivial⟩

theorem draft_spelled {schema : Schema} (hschema : schema ∈ d.schemas) {xmlName : String}
    {definition : Definition} (h : schema.Declares xmlName definition) :
    ((draft (.ofDocument d) package k xmlName definition).script scripts xmlName).Spelled := by
  have hname := Document.spellable_declares hd hschema h
  have hxmlName := Naming.typeName_spelling hname
  cases h with
  | simpleType ht _ =>
      exact synonymScript_spelled hd hxmlName (Document.spellable_simpleType hd hschema ht) _
  | complexType ht hown =>
      exact ⟨⟨hxmlName, hself _ (.content _ _)
        ⟨⟨_, Document.places_complexType hschema ht hown⟩, hxmlName, nofun⟩⟩, trivial⟩
  | attributeGroup hg _ =>
      exact ⟨⟨hxmlName, hself _ (.attributes _ _ _)
        ⟨Document.attributeGroupReferences_group hschema hg, hxmlName,
          Document.spellable_attributeGroup hd hschema hg⟩⟩, trivial⟩
  | @element e _ he hown =>
      obtain ⟨-, -, htype, hsimple⟩ := spellable_parts (Document.spellable_element hd hschema he)
      simp only [draft, elementDraft]
      split
      · next type hnamed => exact typed_spelled hd hself hname (htype type hnamed) (typed_of_eq rfl)
      · next t _ ht =>
          have hplaces := Document.places_element hschema he
          rw [Element.places_anonymous ht hown] at hplaces
          exact ⟨⟨hxmlName, hself _ (.content _ t) ⟨⟨_, hplaces⟩, hxmlName, nofun⟩⟩, trivial⟩
      · next t _ _ ht => exact synonymScript_spelled hd hxmlName (hsimple t ht) _
      · exact ⟨⟨hxmlName, trivial⟩, trivial⟩

theorem schemaScript_spelled {schema : Schema} (hschema : schema ∈ d.schemas) :
    (schemaScript (.ofDocument d) package scripts k schema).Spelled :=
  Script.Spelled.piecewise.schema scripts scripts trivial fun _ _ h =>
    draft_spelled hd hself hschema h

end Schemas

end Tasks

end Emission

end SoapBindings
