/-
# `SoapBindings.Proofs.Emission.Parts` — scripts piece by piece

The scripts of two open recursions are put together in the same way.  A relation that holds of
scripts piece by piece holds of them as soon as it holds of the tasks inside, and the lemmas here
say which tasks those are: the ones that the type, group or attribute group at hand leads to, with
the stacks that they are done with.  Elements and attributes are not taken apart any further; each
has one of a few forms.

A property of one script is a relation that does not look at the other.
-/
import SoapBindings.Proofs.Emission.Places
import SoapBindings.Proofs.Emission.Schema

namespace SoapBindings.Emission

open Xsd

/-! ## Tasks inside a task -/

/-- A task leads to another one for the same record, with the stacks that it is done with. -/
inductive Subtask (r : Resolver) : Stacks → Task → Stacks → Task → Prop
  | element {k : Stacks} {parent : String} {t : ComplexType} {e : Element} : e ∈ t.inPlace →
      Subtask r k (.content parent t) k (.element parent e)
  | group {k : Stacks} {parent reference : String} {t : ComplexType} :
      reference ∈ t.groupReferences →
      Subtask r k (.content parent t) k (.group parent reference)
  | attributes {k : Stacks} {parent : String} {t : ComplexType}
      {part : List Attribute × List String} : part ∈ t.attributeParts →
      Subtask r k (.content parent t) k (.attributes parent part.1 part.2)
  | base {k : Stacks} {parent declared : String} {t type : ComplexType} {d : Derivation} :
      d ∈ t.derivations → d.kind = .extension → d.base.bind r.baseType? = some (declared, type) →
      Naming.typeName declared ∉ k.expanding →
      Subtask r k (.content parent t) (k.inBase (Naming.typeName declared))
        (.content (Naming.typeName declared) type)
  | groupElement {k : Stacks} {parent reference : String} {g : Group} {e : Element} :
      r.group? reference = some g → Naming.localName reference ∉ k.groups → e ∈ g.elements →
      Subtask r k (.group parent reference) (k.inGroup (Naming.localName reference))
        (.element parent e)
  | groupReference {k : Stacks} {parent reference nested : String} {g : Group} :
      r.group? reference = some g → Naming.localName reference ∉ k.groups → nested ∈ g.groups →
      Subtask r k (.group parent reference) (k.inGroup (Naming.localName reference))
        (.group parent nested)
  | attributeGroup {k : Stacks} {parent reference : String} {attributes : List Attribute}
      {groups : List String} {g : AttributeGroup} : reference ∈ groups →
      r.attributeGroup? reference = some g →
      Text.lowercaseText (Naming.localName reference) ∉ k.attributeGroups →
      Subtask r k (.attributes parent attributes groups)
        (k.inAttributeGroup (Text.lowercaseText (Naming.localName reference)))
        (.attributes parent g.attributes g.attributeGroups)

theorem Subtask.standsIn {d : Document} {k k' : Stacks} {task task' : Task}
    (h : Subtask (.ofDocument d) k task k' task') (htask : task.StandsIn d) :
    task'.StandsIn d := by
  cases h with
  | @element parent t e he =>
      obtain ⟨home, hplaces⟩ := htask
      exact ⟨home, fun _ hplace => hplaces (ComplexType.places_inPlace he home hplace)⟩
  | @group _ _ t hreference =>
      obtain ⟨home, hplaces⟩ := htask
      exact (Document.references_place (hplaces (t.mem_places home))).1 hreference
  | @attributes _ t part hpart =>
      obtain ⟨home, hplaces⟩ := htask
      have hreferences := (Document.references_place (hplaces (t.mem_places home))).2
      exact fun _ hreference => hreferences (List.mem_flatMap.mpr ⟨part, hpart, hreference⟩)
  | base _ _ hfound _ =>
      obtain ⟨base, -, hfound⟩ := Option.bind_eq_some_iff.mp hfound
      exact ⟨_, Document.places_baseType hfound⟩
  | groupElement hg _ he =>
      obtain ⟨schema, hschema, hmem⟩ := Resolver.group?_mem hg
      exact ⟨"", Document.places_group hschema hmem he⟩
  | groupReference hg _ hnested =>
      obtain ⟨schema, hschema, hmem⟩ := Resolver.group?_mem hg
      exact Document.groupReferences_group hschema hmem hnested
  | attributeGroup _ hg _ =>
      obtain ⟨s, hs, hdefinition, -⟩ := Resolver.attributeGroup?_mem hg
      obtain ⟨schema, hschema, -, hdeclares⟩ := Document.declares_of_mem hs
      rw [hdefinition] at hdeclares
      cases hdeclares with
      | attributeGroup hmem _ => exact Document.attributeGroupReferences_group hschema hmem

/-- A record at the top of a schema has content that stands in the document. -/
theorem draft_standsIn {d : Document} {package : Option String} {k k' : Stacks} {schema : Schema}
    (hschema : schema ∈ d.schemas) {xmlName : String} {definition : Definition}
    (h : schema.Declares xmlName definition) {documentation : Option String} {task : Task}
    (hdraft : draft (.ofDocument d) package k xmlName definition =
      .record documentation k' task) : task.StandsIn d := by
  cases h with
  | simpleType _ _ => cases hdraft
  | complexType ht hname =>
      cases hdraft
      exact ⟨_, Document.places_complexType hschema ht hname⟩
  | attributeGroup hg _ =>
      cases hdraft
      exact Document.attributeGroupReferences_group hschema hg
  | @element e _ he hname =>
      simp only [draft, elementDraft] at hdraft
      split at hdraft
      · cases typed_of_eq hdraft with
        | content hfound => exact Document.places_content hfound
      · next ht =>
          cases hdraft
          exact ⟨_, Element.places_anonymous ht hname "" ▸ Document.places_element hschema he⟩
      · cases hdraft
      · cases hdraft

/-! ## Elements and attributes -/

section Forms

variable (r : Resolver) (package : Option String)

/-- The type of a field that is known by a name, or that has none. -/
inductive Named : TypeRef → Prop
  | plain : Named plainText
  | type (name : String) : Named (r.resolve package name)
  | element (reference : String) : Named (r.resolveElement package reference)
  | restricted (name : String) : Named (r.resolveType package name)

/-- What an element becomes, by the scripts of the tasks inside it. -/
inductive ElementForm (k : Stacks) (parent : String) (e : Element) : (Scripting → Script) → Prop
  | missing : ElementForm k parent e fun _ => .done
  | field {name : String} {type : TypeRef} : Named r package type →
      ElementForm k parent e fun _ =>
        .field name e.documentation (elementContent e name type) .done
  | complexType {name : String} {t : ComplexType} :
      e.ref = none → e.name = some name → e.type = none → e.complexType = some t →
      ElementForm k parent e fun scripts =>
        recordScript scripts k (anonymousName parent name) name t t.documentation ++
          .field name e.documentation
            (elementContent e name (.own (anonymousName parent name) (some .complexType))) .done
  | simpleType {name : String} {t : SimpleType} :
      e.ref = none → e.name = some name → e.type = none → e.complexType = none →
      e.simpleType = some t →
      ElementForm k parent e fun _ =>
        synonymScript r package (anonymousName parent name) t t.documentation ++
          .field name e.documentation
            (elementContent e name (.own (anonymousName parent name) (some .simpleType))) .done

theorem elementScript_form (k : Stacks) (parent : String) (e : Element) :
    ∃ form, ElementForm r package k parent e form ∧
      ∀ scripts, elementScript r package scripts k parent e = form scripts := by
  unfold elementScript elementTypeScript
  cases href : e.ref with
  | some reference => exact ⟨_, .field (.element reference), fun _ => rfl⟩
  | none =>
      cases hname : e.name with
      | none => exact ⟨_, .missing, fun _ => rfl⟩
      | some name =>
          cases htype : e.type with
          | some type => exact ⟨_, .field (.type type), fun _ => rfl⟩
          | none =>
              cases ht : e.complexType with
              | some t => exact ⟨_, .complexType href hname htype ht, fun _ => rfl⟩
              | none =>
                  cases hsimple : e.simpleType with
                  | some t => exact ⟨_, .simpleType href hname htype ht hsimple, fun _ => rfl⟩
                  | none => exact ⟨_, .field .plain, fun _ => rfl⟩

/-- What an attribute becomes. -/
inductive AttributeForm (parent : String) (a : Attribute) : Script → Prop
  | missing : AttributeForm parent a .done
  | field {name : String} {type : TypeRef} : Named r package type →
      AttributeForm parent a (.field name a.documentation (.attr name type) .done)
  | simpleType {name : String} {t : SimpleType} :
      a.name = some name → a.type = none → a.simpleType = some t →
      AttributeForm parent a
        (synonymScript r package (anonymousName parent name) t t.documentation ++
          .field name a.documentation
            (.attr name (.own (anonymousName parent name) (some .simpleType))) .done)

theorem attributeScript_form (parent : String) (a : Attribute) :
    AttributeForm r package parent a (attributeScript r package parent a) := by
  unfold attributeScript attributeTypeScript
  cases hname : a.name with
  | none =>
      cases a.ref with
      | none => exact .missing
      | some reference => exact .field .plain
  | some name =>
      cases htype : a.type with
      | some type => exact .field (.restricted type)
      | none =>
          cases ht : a.simpleType with
          | some t => exact .simpleType hname htype ht
          | none => exact .field .plain

end Forms

/-! ## Pieces -/

/-- The text of simple content has the type of the base, unless that is a record or the type
itself. -/
theorem textScript_some (r : Resolver) (package : Option String) (parent base : String) :
    textScript r package parent (some base) = .text (r.resolveType package base) .done ∨
      textScript r package parent (some base) =
          .refer (r.resolveType package base) (.text plainText .done) ∧
        ((∃ kind, r.resolveType package base = .own parent kind) ∨
          (r.resolveType package base).isRecord) := by
  unfold textScript
  dsimp only
  cases htype : r.resolveType package base with
  | builtin scalar => exact .inl rfl
  | own name kind =>
      by_cases hparent : name = parent
      · subst hparent
        exact .inr ⟨by simp, .inl ⟨kind, rfl⟩⟩
      · cases hrecord : (TypeRef.own name kind).isRecord <;> simp [hparent]
  | foreign package name kind =>
      cases hrecord : (TypeRef.foreign package name kind).isRecord <;> simp

/-- A relation that scripts inherit from their pieces.  It holds of the pieces
that no task is in. -/
structure Piecewise (R : Script → Script → Prop) : Prop where
  done : R .done .done
  append : ∀ {p q p' q' : Script}, R p q → R p' q' → R (p ++ p') (q ++ q')
  wildcard : R (.field "any" none .wildcard .done) (.field "any" none .wildcard .done)
  plain : R (.text plainText .done) (.text plainText .done)

/-- The bases that the content of a type takes up, by two open recursions. -/
def Bases (R : Script → Script → Prop) (r : Resolver) (scripts scripts' : Scripting) (k : Stacks)
    (t : ComplexType) : Prop :=
  ∀ d ∈ t.derivations, d.kind = .extension →
    ∀ declared type, d.base.bind r.baseType? = some (declared, type) →
    Naming.typeName declared ∉ k.expanding →
    R (scripts (k.inBase (Naming.typeName declared)) (.content (Naming.typeName declared) type))
      (scripts' (k.inBase (Naming.typeName declared)) (.content (Naming.typeName declared) type))

/-- The tasks inside the content of a type beside its bases. -/
structure Inside (R : Script → Script → Prop) (scripts scripts' : Scripting) (k : Stacks)
    (parent : String) (t : ComplexType) : Prop where
  elements : ∀ e ∈ t.inPlace, R (scripts k (.element parent e)) (scripts' k (.element parent e))
  groups : ∀ g ∈ t.groupReferences, R (scripts k (.group parent g)) (scripts' k (.group parent g))
  attributes : ∀ part ∈ t.attributeParts,
    R (scripts k (.attributes parent part.1 part.2)) (scripts' k (.attributes parent part.1 part.2))

namespace Piecewise

variable {R : Script → Script → Prop} (hR : Piecewise R)

include hR

theorem each {α : Type} (items : List α) {p q : α → Script}
    (h : ∀ item ∈ items, R (p item) (q item)) : R (.each items p) (.each items q) := by
  induction items with
  | nil => exact hR.done
  | cons item items ih =>
      exact hR.append (h item List.mem_cons_self)
        (ih fun item hitem => h item (List.mem_cons_of_mem _ hitem))

theorem ofOption {α : Type} (item : Option α) {p q : α → Script}
    (h : ∀ a, item = some a → R (p a) (q a)) : R (.ofOption item p) (.ofOption item q) := by
  cases item with
  | none => exact hR.done
  | some a => exact h a rfl

theorem wildcards (found : List Wildcard) : R (wildcardScript found) (wildcardScript found) := by
  unfold wildcardScript
  split
  · exact hR.done
  · exact hR.wildcard

variable {r : Resolver} {package : Option String} {scripts scripts' : Scripting} {k : Stacks}
  {parent : String}

/-! ## Content -/

omit hR in
variable (scripts scripts') in
/-- The content of a base is done with the base among what is being expanded. -/
theorem inline {declared : String} {type : ComplexType} {p : Script} (hp : R p p)
    (h : Naming.typeName declared ∉ k.expanding →
      R (scripts (k.inBase (Naming.typeName declared)) (.content (Naming.typeName declared) type))
        (scripts' (k.inBase (Naming.typeName declared))
          (.content (Naming.typeName declared) type))) :
    R ((inlineScript scripts k declared type).getD p)
      ((inlineScript scripts' k declared type).getD p) := by
  unfold inlineScript
  dsimp only
  split
  · exact hp
  · next hexpanding => exact h (by simpa using hexpanding)

section Content

variable {t : ComplexType} (hinside : Inside R scripts scripts' k parent t)

include hinside

theorem addition {d : Derivation} (hd : d ∈ t.derivations) :
    R (additionScript scripts k parent d) (additionScript scripts' k parent d) := by
  have helements := hR.each d.elements fun e he =>
    hinside.elements e (List.mem_append_left _ (List.mem_flatMap.mpr ⟨d, hd, he⟩))
  have hgroups := hR.each d.groups fun g hg =>
    hinside.groups g (List.mem_append_left _ (List.mem_flatMap.mpr ⟨d, hd, hg⟩))
  have hattributes := hinside.attributes (d.attributes, d.attributeGroups)
    (List.mem_append_left _ (List.mem_map_of_mem hd))
  exact hR.append (hR.append (hR.append helements hgroups) (hR.wildcards d.wildcards)) hattributes

variable (hbases : Bases R r scripts scripts' k t)

include hbases

theorem complexContent {d : Derivation} (hd : d ∈ t.derivations) :
    R (complexContentScript r scripts k parent d) (complexContentScript r scripts' k parent d) := by
  refine hR.append ?_ (hR.addition hinside hd)
  split
  · next name type hbase =>
      split at hbase
      · next hkind => exact inline _ _ hR.done (hbases d hd hkind name type hbase)
      · cases hbase
  · exact hR.done

/-- A text stands in for the base where that is no complex type. -/
theorem simpleContent {d : Derivation} (hd : d ∈ t.derivations)
    (htext : d.base.bind r.baseType? = none →
      R (textScript r package parent d.base) (textScript r package parent d.base)) :
    R (simpleContentScript r package scripts k parent d)
      (simpleContentScript r package scripts' k parent d) := by
  refine hR.append ?_ (hR.addition hinside hd)
  split
  · next name type hbase =>
      split
      · next hkind => exact inline _ _ hR.plain (hbases d hd hkind name type hbase)
      · exact hR.plain
  · next hbase => exact htext hbase

variable (scripts scripts') in
theorem content
    (htext : ∀ d ∈ t.derivations, d.base.bind r.baseType? = none →
      R (textScript r package parent d.base) (textScript r package parent d.base)) :
    R (contentScript r package scripts k parent t)
      (contentScript r package scripts' k parent t) := by
  have hcomplex := hR.ofOption t.complexContent fun d hd =>
    hR.complexContent hinside hbases (List.mem_append_left _ (Option.mem_toList.mpr hd))
  have hsimple := hR.ofOption t.simpleContent fun d hd =>
    have hmem := List.mem_append_right _ (Option.mem_toList.mpr hd)
    hR.simpleContent hinside hbases hmem (htext d hmem)
  have helements := hR.each (t.sequence ++ t.choice ++ t.all) fun e he =>
    hinside.elements e (List.mem_append_right _ he)
  have hgroups := hR.each t.groups fun g hg =>
    hinside.groups g (List.mem_append_right _ hg)
  have hattributes := hinside.attributes (t.attributes, t.attributeGroups)
    (List.mem_append_right _ List.mem_cons_self)
  refine hR.append (hR.append (hR.append (hR.append (hR.append (hR.append hcomplex hsimple)
    helements) hgroups) (hR.wildcards t.wildcards)) hattributes) ?_
  split
  · exact hR.plain
  · exact hR.done

end Content

/-! ## Groups and attributes -/

variable (scripts scripts') in
theorem group {reference : String}
    (h : ∀ g, r.group? reference = some g → Naming.localName reference ∉ k.groups →
      (∀ e ∈ g.elements,
        R (scripts (k.inGroup (Naming.localName reference)) (.element parent e))
          (scripts' (k.inGroup (Naming.localName reference))
            (.element parent e))) ∧
      ∀ n ∈ g.groups,
        R (scripts (k.inGroup (Naming.localName reference)) (.group parent n))
          (scripts' (k.inGroup (Naming.localName reference))
            (.group parent n))) :
    R (groupScript r scripts k parent reference) (groupScript r scripts' k parent reference) := by
  unfold groupScript
  dsimp only
  split
  · exact hR.done
  · next hgroups =>
      cases hg : r.group? reference with
      | none => exact hR.done
      | some g =>
          obtain ⟨helements, hnested⟩ := h g hg (by simpa using hgroups)
          exact hR.append (hR.each _ helements) (hR.each _ hnested)

variable (scripts scripts') in
theorem attributes {attributes : List Attribute} {groups : List String}
    (hattributes : ∀ a ∈ attributes,
      R (attributeScript r package parent a) (attributeScript r package parent a))
    (hgroups : ∀ reference ∈ groups, ∀ g, r.attributeGroup? reference = some g →
      Text.lowercaseText (Naming.localName reference) ∉ k.attributeGroups →
      R (scripts (k.inAttributeGroup (Text.lowercaseText (Naming.localName reference)))
          (.attributes parent g.attributes g.attributeGroups))
        (scripts' (k.inAttributeGroup (Text.lowercaseText (Naming.localName reference)))
          (.attributes parent g.attributes g.attributeGroups))) :
    R (stepScript r package scripts k (.attributes parent attributes groups))
      (stepScript r package scripts' k (.attributes parent attributes groups)) := by
  refine hR.append (hR.each _ hattributes) (hR.each _ fun reference hreference => ?_)
  unfold attributeGroupScript
  dsimp only
  split
  · exact hR.done
  · next hopen =>
      cases hg : r.attributeGroup? reference with
      | none => exact hR.done
      | some g => exact hgroups reference hreference g hg (by simpa using hopen)

/-! ## Schemas -/

variable (scripts scripts') in
/-- The definitions at the top of a schema have their names, or are skipped. -/
theorem schema {s : Schema} (hskip : R (.skip .done) (.skip .done))
    (h : ∀ xmlName definition, s.Declares xmlName definition →
      R ((draft r package k xmlName definition).script scripts xmlName)
        ((draft r package k xmlName definition).script scripts' xmlName)) :
    R (schemaScript r package scripts k s) (schemaScript r package scripts' k s) := by
  have hdefinition {name : Option String} {definition : Definition}
      (hname : ∀ xmlName, name = some xmlName → s.Declares xmlName definition) :
      R (definitionScript r package scripts k name definition)
        (definitionScript r package scripts' k name definition) := by
    cases name with
    | none => exact hskip
    | some xmlName => exact h xmlName definition (hname xmlName rfl)
  refine hR.append (hR.append (hR.append (hR.each _ fun t ht => ?_) (hR.each _ fun t ht => ?_))
    (hR.each _ fun e he => ?_)) (hR.each _ fun g hg => ?_)
  · exact hdefinition fun _ hname => .simpleType ht hname
  · exact hdefinition fun _ hname => .complexType ht hname
  · exact hdefinition fun _ hname => .element he hname
  · exact hdefinition fun _ hname => .attributeGroup hg hname

end Piecewise

end SoapBindings.Emission
