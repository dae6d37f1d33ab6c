/-
# `SoapBindings.Proofs.Emission.Records` — which references lead to records

A field holds a record behind a pointer, and whether a reference is one to a record is told by the
kind of the definition that it was made from.  What is declared under the name is decided elsewhere,
by what the definition says about its content, and by whoever asks first for the name.

Where only one definition asks for each name, the two agree but in one case: an element may have a
simple type in place.  It is declared as that type would be, and yet it is an element by its kind
(`records_told`).
-/
import SoapBindings.Proofs.Emission.Distinct
import SoapBindings.Proofs.Emission.Finite
import SoapBindings.Proofs.Emission.Order

namespace SoapBindings

open Xsd

/-- All that the element says about its content is a simple type in place. -/
def Xsd.Element.isSimple (e : Element) : Bool :=
  e.type.isNone && e.complexType.isNone && e.simpleType.isSome

/-- The definition is an element that has a simple type in place. -/
def Definition.isSimpleElement : Definition → Bool
  | element e => e.isSimple
  | simpleType _ | complexType _ | attributeGroup _ => false

theorem Definition.isSimpleElement_untyped {definition : Definition}
    (h : definition.isSimpleElement = true) {e : Element} (he : definition = .element e) :
    e.type = none := by
  subst he
  simp only [isSimpleElement, Element.isSimple, Bool.and_eq_true, Option.isNone_iff_eq_none] at h
  exact h.1.1

def Code.Declaration.isRecord : Code.Declaration → Bool
  | record _ => true
  | synonym _ => false

namespace Emission

/-! ## Definitions and their kinds -/

theorem Draft.kind_outsideGroups (found : Draft) : found.outsideGroups.kind = found.kind := by
  cases found <;> rfl

/-- Simple types become synonyms, and so do simple elements. -/
theorem draft_kind (r : Resolver) (package : Option String) (k : Stacks) (xmlName : String)
    {definition : Definition} (hplain : ∀ e, definition = .element e → e.type = none) :
    (draft r package k xmlName definition).kind = .simpleType ↔
      definition.kind = .simpleType ∨ definition.isSimpleElement = true := by
  cases definition with
  | simpleType t => exact ⟨fun _ => .inl rfl, fun _ => rfl⟩
  | complexType t | attributeGroup g => simp [draft, Draft.kind, Definition.kind,
      Definition.isSimpleElement]
  | element e =>
      have htype : e.type = none := hplain e rfl
      simp only [draft, elementDraft, Definition.isSimpleElement, Element.isSimple, htype]
      cases e.complexType with
      | some t => simp [Draft.kind, Definition.kind]
      | none => cases e.simpleType <;> simp [Draft.kind, Definition.kind]

/-- The types that the definition itself is made of. -/
def Draft.types : Draft → List TypeRef
  | .skip | .record _ _ _ => []
  | .synonym a => [a.target]
  | .plain _ text => text.toList

theorem draft_leads {d : Document} {package : Option String} {k : Stacks} {xmlName : String}
    {definition : Definition} {t : TypeRef}
    (ht : t ∈ (draft (.ofDocument d) package k xmlName definition).types) :
    Resolver.Leads d package t := by
  cases definition with
  | simpleType type =>
      rw [List.mem_singleton.mp ht]
      exact synonymOf_leads ..
  | complexType type | attributeGroup g => cases ht
  | element e =>
      revert ht
      simp only [draft, elementDraft]
      split <;> intro ht
      · generalize hfound : typedDraft _ _ _ _ _ _ = found at ht
        cases typed_of_eq hfound with
        | covered | expanding | content => cases ht
        | text | renamed =>
            rw [List.mem_singleton.mp ht]
            exact Resolver.resolve_leads _
      · cases ht
      · rw [List.mem_singleton.mp ht]
        exact synonymOf_leads ..
      · cases ht

end Emission

namespace Document

open Emission

variable {d : Document} {package : String}

/-! ## What is asked for -/

theorem Asks.ne_skip {name : String} {found : Draft} (h : d.Asks package name found) :
    found ≠ .skip := by
  cases h with
  | definition _ _ hdraft => exact hdraft
  | anonymous _ _ hanonymous => cases hanonymous <;> nofun

theorem Asks.leads {name : String} {found : Draft} (h : d.Asks package name found) {t : TypeRef}
    (ht : t ∈ found.types) : Resolver.Leads d (some package) t := by
  cases h with
  | definition _ _ _ => exact draft_leads ht
  | anonymous _ _ hanonymous =>
      cases hanonymous with
      | complexType => cases ht
      | simpleType | attributeType =>
          rw [List.mem_singleton.mp ht]
          exact synonymOf_leads ..

theorem fields?_isSome (declaration : Code.Declaration) :
    declaration.fields?.isSome = declaration.isRecord := by
  cases declaration <;> rfl

/-- A definition that has its name to itself is declared as its kind says. -/
theorem Asks.declared_kind (hnames : d.NamesApart package) {declaration : Code.Declaration}
    {found : Draft} (h : d.Asks package declaration.name found)
    (hmem : declaration ∈ d.declarations package) :
    declaration.isRecord = false ↔ found.kind = .simpleType := by
  obtain ⟨other, hother, hfields⟩ := declaration_asked hmem
  have hkind : found.kind = other.kind := by
    rw [← found.kind_outsideGroups, hnames _ found other h hother, other.kind_outsideGroups]
  rw [hkind, ← fields?_isSome, ← hfields]
  cases other with
  | skip => exact absurd rfl hother.ne_skip
  | synonym a => exact ⟨fun _ => rfl, fun _ => rfl⟩
  | plain _ _ | record _ _ _ => exact ⟨nofun, nofun⟩

/-- What is found by its name is declared under it, by its kind and its simple content. -/
theorem symbol_declared {s : Symbol} (hs : s ∈ d.symbols)
    (hplain : ∀ e, s.definition = .element e → e.type = none) (hnames : d.NamesApart s.package) :
    ∃ declaration ∈ d.declarations s.package, declaration.name = Naming.typeName s.name ∧
      (declaration.isRecord = false ↔
        s.definition.kind = .simpleType ∨ s.definition.isSimpleElement = true) := by
  obtain ⟨schema, hschema, hpackage, hdeclares⟩ := declares_of_mem hs
  have hmem : schema ∈ d.schemasIn s.package := List.mem_filter.mpr ⟨hschema, by simp [hpackage]⟩
  have hdraft : draft (.ofDocument d) (some s.package) {} s.name s.definition ≠ .skip := by
    intro hskip
    obtain ⟨e, type, he, htype, -⟩ := draft_skip _ _ _ hskip
    rw [hplain e he] at htype
    cases htype
  have hasks := Asks.definition hmem hdeclares hdraft
  obtain ⟨declaration, hdeclaration, hname⟩ :=
    List.mem_map.mp (declares_draft hmem hdeclares hdraft)
  rw [← hname] at hasks
  exact ⟨declaration, hdeclaration, hname,
    (hasks.declared_kind hnames hdeclaration).trans (draft_kind _ _ _ _ hplain)⟩

/-! ## What is referred to -/

/-- A type was resolved, or is an anonymous one that is referred to by its kind. -/
def Meant (d : Document) (package : String) (t : TypeRef) : Prop :=
  Resolver.Leads d (some package) t ∨
    ∃ name found, t = .own name (some (Draft.kind found)) ∧ d.Asks package name found

theorem meant_everywhere (d : Document) (package : String) :
    Everywhere d package fun content => Meant d package content.type where
  wildcard := .inl plainText_leads
  plain := .inl plainText_leads
  restricted base _ := .inl (Resolver.resolveType_leads base)
  named _ hnamed _ := .inl hnamed.leads
  refers _ inner found htype _ hasks := .inr ⟨inner, found, htype, hasks⟩
  text _ _ _ hasks := .inl (hasks.leads List.mem_cons_self)

theorem types_meant {declaration : Code.Declaration} (h : declaration ∈ d.declarations package)
    {t : TypeRef} (ht : t ∈ declaration.types) : Meant d package t := by
  cases declaration with
  | synonym a => exact .inl ((synonym_asked h).leads ht)
  | record r =>
      obtain ⟨f, hf, rfl⟩ := List.mem_map.mp ht
      exact (meant_everywhere d package).field h hf

/-! ## What references tell -/

/-- The reference is one to an element that has a simple type in place. -/
def NamesSimpleElement (d : Document) (own : Option String) (t : TypeRef) : Prop :=
  ∃ s ∈ d.symbols, t = Resolver.reference own s ∧ s.definition.isSimpleElement = true

/-- One declaration of the generated code is what the reference leads to, seen from a package; and
the reference is one to a record exactly if that is one, unless it is one to a simple element. -/
def Tells (d : Document) (g : Generated) (own : Option String) (package : String) (t : TypeRef) :
    Prop :=
  ∃ target ∈ g.types, t.home? package = some target.package ∧
    ∃ declaration ∈ target.body.declarations, t.name? = some declaration.name ∧
      (∀ other ∈ target.body.declarations, t.name? = some other.name → other = declaration) ∧
      (t.isRecord = declaration.isRecord ↔ ¬ d.NamesSimpleElement own t) ∧
      (d.NamesSimpleElement own t → t.isRecord = true)

/-- An element is a record as far as its kind tells. -/
theorem NamesSimpleElement.isRecord {own : Option String} {t : TypeRef}
    (h : d.NamesSimpleElement own t) : t.kind? = some .element ∧ t.isRecord = true := by
  obtain ⟨s, -, rfl, hsimple⟩ := h
  have hkind : (Resolver.reference own s).kind? = some .element := by
    rw [Resolver.reference_kind?]
    cases hdefinition : s.definition with
    | element e => rfl
    | simpleType _ | complexType _ | attributeGroup _ =>
        rw [hdefinition] at hsimple
        cases hsimple
  refine ⟨hkind, Bool.of_not_eq_false fun hrecord => ?_⟩
  cases (TypeRef.isRecord_eq_false hkind).mp hrecord

/-- A declared name that is told by its kind, except for simple elements. -/
theorem tells_of_declared {operations : String} {g : Generated}
    (h : d.generate operations = .ok g) {own : Option String} {here package : String}
    (hpackage : package ∈ d.packages) {declaration : Code.Declaration}
    (hmem : declaration ∈ d.declarations package) {t : TypeRef}
    (hhome : t.home? here = some package) (hname : t.name? = some declaration.name)
    (hrecord : declaration.isRecord = false ↔ t.isRecord = false ∨ d.NamesSimpleElement own t) :
    d.Tells g own here t := by
  obtain ⟨target, htarget, rfl⟩ := exists_types h hpackage
  have hbody : target.body.declarations = d.declarations target.package := by
    rw [types_declarations h htarget]
    rfl
  rw [← hbody] at hmem
  refine ⟨target, htarget, hhome, declaration, hmem, hname, fun other hother hsame => ?_,
    ⟨fun heq hsimple => ?_, fun hother => ?_⟩, fun hsimple => hsimple.isRecord.2⟩
  · rw [hbody] at hmem hother
    refine List.inj_on_of_nodup_map (d.declarations_nodup target.package) hother hmem ?_
    exact Option.some.inj (hsame.symm.trans hname)
  · have hsynonym := hrecord.mpr (.inr hsimple)
    rw [← heq, hsimple.isRecord.2] at hsynonym
    cases hsynonym
  · rw [or_iff_left hother] at hrecord
    cases ht : t.isRecord with
    | false => exact (hrecord.mpr ht).symm
    | true =>
        cases hdeclaration : declaration.isRecord with
        | true => rfl
        | false => exact absurd ((hrecord.mp hdeclaration).symm.trans ht) (by decide)

section Links

variable (hnames : ∀ package ∈ d.packages, d.NamesApart package) {operations : String}
  {g : Generated} (h : d.generate operations = .ok g)

include hnames h

/-- An anonymous type is declared as a reference to it tells. -/
theorem anonymous_tells {m : Code.SourceModule} (hm : m ∈ g.types) {name : String} {found : Draft}
    (ht : .own name (some found.kind) ∈ m.body.references) (hasks : d.Asks m.package name found) :
    d.Tells g (some m.package) m.package (.own name (some found.kind)) := by
  have hpackage := (mem_types h hm).1
  rw [types_declarations h hm] at ht
  obtain ⟨referring, hreferring, ht⟩ := List.mem_flatMap.mp ht
  obtain ⟨declaration, hmem, rfl⟩ := List.mem_map.mp (own_declared hreferring ht)
  have hrecord := TypeRef.isRecord_eq_false (t := .own declaration.name (some found.kind)) rfl
  refine tells_of_declared h hpackage hmem rfl rfl ?_
  rw [hasks.declared_kind (hnames _ hpackage) hmem, hrecord]
  refine (or_iff_left fun helement => ?_).symm
  have hkind : found.kind = .element := Option.some.inj helement.isRecord.1
  cases found <;> cases hkind

variable (hall : AllIn d.rootPackage d.definitions)

include hall

/-- A definition that is referred to is declared as the reference tells. -/
theorem reference_tells {own : Option String} {package : String}
    (hown : ∀ here ∈ own, here = package) {s : Symbol} (hs : s ∈ d.symbols)
    (hplain : ∀ e, s.definition = .element e → e.type = none) :
    d.Tells g own package (Resolver.reference own s) := by
  obtain ⟨schema, hschema, hidentifier, -⟩ := declares_of_mem hs
  have hpackage : s.package ∈ d.packages := hidentifier ▸ identifier_mem_packages hall hschema
  obtain ⟨declaration, hmem, hname, hkind⟩ := symbol_declared hs hplain (hnames _ hpackage)
  have hhome := Resolver.reference_home? hown s
  have hrecord := TypeRef.isRecord_eq_false (Resolver.reference_kind? own s)
  refine tells_of_declared h hpackage hmem hhome (by rw [Resolver.reference_name?, hname])
    ⟨fun hsynonym => ?_, ?_⟩
  · obtain hsimple | hsimple := hkind.mp hsynonym
    · exact .inl (hrecord.mpr hsimple)
    · exact .inr ⟨s, hs, rfl, hsimple⟩
  · rintro (hsimple | ⟨s', hs', hsame, hsimple⟩)
    · exact hkind.mpr (.inl (hrecord.mp hsimple))
    · -- the simple element has the same place, and so the same declaration
      have hpackage' : s'.package = s.package := by
        rw [hsame, Resolver.reference_home? hown s'] at hhome
        exact Option.some.inj hhome
      obtain ⟨declaration', hmem', hname', hkind'⟩ := symbol_declared hs'
        (fun e he => s'.definition.isSimpleElement_untyped hsimple he)
        (hnames _ (hpackage' ▸ hpackage))
      have hnames' := congrArg TypeRef.name? hsame
      simp only [Resolver.reference_name?, Option.some.injEq] at hnames'
      rw [hpackage'] at hmem'
      have heq := List.inj_on_of_nodup_map (d.declarations_nodup s.package) hmem hmem'
        (by rw [hname, hname', hnames'])
      rw [heq]
      exact hkind'.mpr (.inr hsimple)

end Links

/-- **Kinds tell records, but for simple elements.**  However a document was loaded and whatever
schemas were added to it, let code be generated for it, where no two definitions are asked for under
one name in any package.  Then every reference of known kind that is resolved in a package, or
outside of every package, and every one that a declared type makes, leads to one declaration; and
the reference is one to a record exactly if that declaration is one, unless it is one to an element
with a simple type in place.  Then the reference is one to a record and the declaration a
synonym. -/
theorem records_told {σ : Type} (fetch : Url → Loader σ Source) (maxDepth : Nat) (source : Source)
    (base : Option Url) (kind : DocumentKind) (extra : List Schema) (operations : String)
    {world world' : σ} {loaded : Document} {g : Generated}
    (hload : (loadSource fetch maxDepth source base kind).run world = .ok (loaded, world'))
    (hgenerate : (loaded.withSchemas extra).generate operations = .ok g)
    (hnames : ∀ package ∈ (loaded.withSchemas extra).packages,
      (loaded.withSchemas extra).NamesApart package) :
    let d := loaded.withSchemas extra
    let r := Resolver.ofDocument d
    (∀ own package reference t, (∀ here ∈ own, here = package) →
      t = r.resolve own reference ∨ t = r.resolveType own reference ∨
        t = r.resolveElement own reference →
      t.kind?.isSome → d.Tells g own package t) ∧
    ∀ m ∈ g.types, ∀ t ∈ m.body.references, t.kind?.isSome →
      d.Tells g (some m.package) m.package t := by
  have hall : AllIn (loaded.withSchemas extra).rootPackage (loaded.withSchemas extra).definitions :=
    loadSource_gives maxDepth source base kind world loaded world' hload
  have hleads {own : Option String} {package : String} {t : TypeRef}
      (hown : ∀ here ∈ own, here = package)
      (h : Resolver.Leads (loaded.withSchemas extra) own t) (ht : t.kind?.isSome) :
      (loaded.withSchemas extra).Tells g own package t := by
    obtain ⟨kind, hkind⟩ := Option.isSome_iff_exists.mp ht
    obtain ⟨s, hs, hplain, rfl⟩ := h.known hkind
    exact reference_tells hnames hgenerate hall hown hs hplain
  refine ⟨fun own package reference t hown hmade ht => ?_, fun m hm t ht hkind => ?_⟩
  · refine hleads hown ?_ ht
    obtain rfl | rfl | rfl := hmade
    · exact Resolver.resolve_leads reference
    · exact Resolver.resolveType_leads reference
    · exact Resolver.resolveElement_leads reference
  · have hmeant := ht
    rw [types_declarations hgenerate hm] at hmeant
    obtain ⟨declaration, hdeclaration, hmeant⟩ := List.mem_flatMap.mp hmeant
    obtain hresolved | ⟨name, found, rfl, hasks⟩ := types_meant hdeclaration hmeant
    · exact hleads (fun _ h => (Option.some.inj h).symm) hresolved hkind
    · exact anonymous_tells hnames hgenerate hm ht hasks

end Document

/-! ## Documents without anonymous types -/

/-- The element has no type in place. -/
def Xsd.Element.isUnnested (e : Element) : Bool := e.complexType.isNone && e.simpleType.isNone

/-- No part of the type has an anonymous type. -/
def Xsd.ComplexType.isUnnested (t : ComplexType) : Bool :=
  t.inPlace.all (·.isUnnested) && t.attributeParts.all (·.1.all (·.simpleType.isNone))

/-- No element or attribute inside a definition has an anonymous type. -/
def Document.isUnnested (d : Document) : Bool :=
  d.places.all (·.2.isUnnested) &&
    d.schemas.all fun schema =>
      schema.groups.all (·.elements.all (·.isUnnested)) &&
        schema.attributeGroups.all (·.attributes.all (·.simpleType.isNone))

/-- Nothing is declared for the task on its way. -/
def Emission.Task.isUnnested : Task → Bool
  | .content _ t => t.isUnnested
  | .element _ e => e.isUnnested
  | .group _ _ => true
  | .attributes _ own _ => own.all (·.simpleType.isNone)

namespace Document

open Emission

section Unnested

variable {d : Document} (hd : d.isUnnested)

include hd

theorem isUnnested_place {home : String} {t : ComplexType} (ht : t.places home ⊆ d.places) :
    t.isUnnested :=
  List.all_eq_true.mp (Bool.and_eq_true_iff.mp hd).1 _ (ht (t.mem_places home))

theorem isUnnested_schema {schema : Schema} (hschema : schema ∈ d.schemas) :
    (∀ g ∈ schema.groups, g.elements.all (·.isUnnested)) ∧
      ∀ g ∈ schema.attributeGroups, g.attributes.all (·.simpleType.isNone) := by
  have hparts := List.all_eq_true.mp (Bool.and_eq_true_iff.mp hd).2 schema hschema
  rw [Bool.and_eq_true, List.all_eq_true, List.all_eq_true] at hparts
  exact hparts

theorem isUnnested_subtask {k k' : Stacks} {task task' : Task}
    (h : Subtask (.ofDocument d) k task k' task') (htask : task.isUnnested) : task'.isUnnested := by
  cases h with
  | element he => exact List.all_eq_true.mp (Bool.and_eq_true_iff.mp htask).1 _ he
  | attributes hpart => exact List.all_eq_true.mp (Bool.and_eq_true_iff.mp htask).2 _ hpart
  | base _ _ hfound _ =>
      obtain ⟨reference, -, hfound⟩ := Option.bind_eq_some_iff.mp hfound
      exact isUnnested_place hd (places_baseType hfound)
  | groupElement hg _ he =>
      obtain ⟨schema, hschema, hmem⟩ := Resolver.group?_mem hg
      exact List.all_eq_true.mp ((isUnnested_schema hd hschema).1 _ hmem) _ he
  | attributeGroup _ hg _ =>
      obtain ⟨s, hs, hdefinition, -⟩ := Resolver.attributeGroup?_mem hg
      obtain ⟨schema, hschema, -, hdeclares⟩ := declares_of_mem hs
      rw [hdefinition] at hdeclares
      cases hdeclares with
      | attributeGroup hmem _ => exact (isUnnested_schema hd hschema).2 _ hmem
  | group | groupReference => rfl

theorem isUnnested_draft {schema : Schema} (hschema : schema ∈ d.schemas) {package : Option String}
    {k k' : Stacks} {xmlName : String} {definition : Definition}
    (h : schema.Declares xmlName definition) {documentation : Option String} {task : Task}
    (hdraft : draft (.ofDocument d) package k xmlName definition =
      .record documentation k' task) : task.isUnnested := by
  cases h with
  | simpleType _ _ => cases hdraft
  | complexType ht hname =>
      cases hdraft
      exact isUnnested_place hd (places_complexType hschema ht hname)
  | attributeGroup hg _ =>
      cases hdraft
      exact (isUnnested_schema hd hschema).2 _ hg
  | @element e _ he hname =>
      simp only [draft, elementDraft] at hdraft
      split at hdraft
      · cases typed_of_eq hdraft with
        | content hfound =>
            obtain ⟨home, hplaces⟩ := places_content hfound
            exact isUnnested_place hd hplaces
      · next ht =>
          cases hdraft
          exact isUnnested_place hd
            (Element.places_anonymous ht hname "" ▸ places_element hschema he)
      · cases hdraft
      · cases hdraft

theorem isUnnested_within {k k' : Stacks} {task task' : Task}
    (h : Within (.ofDocument d) k task k' task') (htask : task.isUnnested) : task'.isUnnested := by
  induction h with
  | refl => exact htask
  | step _ hsub ih => exact isUnnested_subtask hd hsub ih

/-- Nothing is asked for but the definitions at the top of the schemas. -/
theorem Asks.of_isUnnested {package name : String} {found : Draft}
    (h : d.Asks package name found) :
    ∃ s ∈ d.symbols, s.package = package ∧ Naming.typeName s.name = name ∧
      found = draft (.ofDocument d) (some package) {} s.name s.definition := by
  have htop : (∀ documentation k task, found = .record documentation k task → task.isUnnested) ∧
      ∃ s ∈ d.symbols, s.package = package ∧ Naming.typeName s.name = name ∧
        found = draft (.ofDocument d) (some package) {} s.name s.definition := by
    induction h with
    | definition hschema hdeclares _ =>
        obtain ⟨hmem, hidentifier⟩ := List.mem_filter.mp hschema
        refine ⟨fun documentation k task hfound => isUnnested_draft hd hmem hdeclares hfound, ?_⟩
        exact ⟨_, List.mem_flatMap.mpr ⟨_, hmem, hdeclares.mem_symbols⟩, by simpa using hidentifier,
          rfl, rfl⟩
    | anonymous _ hwithin hanonymous ih =>
        have htask := isUnnested_within hd hwithin (ih.1 _ _ _ rfl)
        cases hanonymous with
        | complexType _ _ _ ht => simp [Task.isUnnested, Element.isUnnested, ht] at htask
        | simpleType _ _ _ _ ht => simp [Task.isUnnested, Element.isUnnested, ht] at htask
        | attributeType ha _ _ ht =>
            have hnone := List.all_eq_true.mp htask _ ha
            rw [ht] at hnone
            cases hnone
  exact htop.2

/-- If no two definitions of a package have one name, then each of them has its name to itself. -/
theorem namesApart_of_isUnnested
    (hnames : (d.symbols.map fun s => (s.package, Naming.typeName s.name)).Nodup)
    (package : String) :
    d.NamesApart package := by
  intro name found found' h h'
  obtain ⟨s, hs, hpackage, hname, rfl⟩ := h.of_isUnnested hd
  obtain ⟨s', hs', hpackage', hname', rfl⟩ := h'.of_isUnnested hd
  have hsame : s = s' := List.inj_on_of_nodup_map hnames hs hs'
    (by rw [hpackage, hname, hpackage', hname'])
  rw [hsame]

end Unnested

/-! ## An element with a simple type -/

/-- A shirt has a size, which is an element with a simple type in place. -/
def shirtSource : Source :=
  .text (["<s:schema xmlns:s='http://www.w3.org/2001/XMLSchema'>", "<s:element name='Size'>",
    "<s:simpleType><s:restriction base='s:int'/>", "</s:simpleType></s:element>",
    "<s:complexType name='Shirt'><s:sequence>", "<s:element ref='Size'/>",
    "</s:sequence></s:complexType></s:schema>"].flatMap String.toList)

/-- The shirt, loaded where nothing else is found. -/
def shirtLoad : Except LoadError (Document × Unit) :=
  (loadSource (fun _ => throw .unreachable) 0 shirtSource none .xsd : Loader Unit Document).run ()

/-- The reference is one to an element and to a record,
but the declaration under its name is none. -/
def Mistaken (g : Generated) (package : String) (t : TypeRef) : Prop :=
  t.kind? = some .element ∧ t.isRecord = true ∧
    ∃ m ∈ g.types, t.home? package = some m.package ∧
      ∃ declaration ∈ m.body.declarations, t.name? = some declaration.name ∧
        declaration.isRecord = false

instance (g : Generated) (package : String) (t : TypeRef) : Decidable (Mistaken g package t) :=
  inferInstanceAs (Decidable (_ ∧ _ ∧ ∃ m ∈ g.types, _))

theorem shirt_generated :
    ∃ loaded g, shirtLoad = .ok (loaded, ()) ∧
      (loaded.withSchemas []).generate "operations" = .ok g ∧
      (∀ package ∈ (loaded.withSchemas []).packages, (loaded.withSchemas []).NamesApart package) ∧
      Mistaken g basePackage
        ((Resolver.ofDocument loaded).resolveElement (some basePackage) "Size") := by
  have hfacts : shirtLoad.toOption.any fun result =>
      result.1.isUnnested &&
        decide (result.1.symbols.map fun s => (s.package, Naming.typeName s.name)).Nodup &&
        (result.1.generate "operations").toOption.any fun g =>
          decide (Mistaken g basePackage
            ((Resolver.ofDocument result.1).resolveElement (some basePackage) "Size")) := by
    decide +kernel
  obtain ⟨⟨loaded, ⟨⟩⟩, hload, hfacts⟩ := (Option.any_eq_true _ _).mp hfacts
  simp only [Bool.and_eq_true, decide_eq_true_eq] at hfacts
  obtain ⟨⟨hunnested, hnames⟩, hgenerated⟩ := hfacts
  obtain ⟨g, hgenerate, hmistaken⟩ := (Option.any_eq_true _ _).mp hgenerated
  exact ⟨loaded, g, eq_ok_of_toOption hload, eq_ok_of_toOption hgenerate,
    fun package _ => namesApart_of_isUnnested hunnested hnames package,
    of_decide_eq_true hmistaken⟩

theorem records_told_shirt :
    ∃ loaded g, shirtLoad = .ok (loaded, ()) ∧
      (loaded.withSchemas []).generate "operations" = .ok g ∧
      (∀ package ∈ (loaded.withSchemas []).packages, (loaded.withSchemas []).NamesApart package) ∧
      ∀ m ∈ g.types, ∀ t ∈ m.body.references, t.kind?.isSome →
        (loaded.withSchemas []).Tells g (some m.package) m.package t := by
  obtain ⟨loaded, g, hload, hgenerate, hnames, -⟩ := shirt_generated
  exact ⟨loaded, g, hload, hgenerate, hnames,
    (records_told _ _ _ _ _ _ _ hload hgenerate hnames).2⟩

/-- A reference can be one to a record where a synonym is declared. -/
theorem record_mistaken :
    ∃ loaded g, shirtLoad = .ok (loaded, ()) ∧ loaded.generate "operations" = .ok g ∧
      (∀ package ∈ loaded.packages, loaded.NamesApart package) ∧
      ¬∀ package reference t,
        t = (Resolver.ofDocument loaded).resolveElement (some package) reference →
        t.kind?.isSome → ∀ m ∈ g.types, t.home? package = some m.package →
          ∀ declaration ∈ m.body.declarations, t.name? = some declaration.name →
            t.isRecord = declaration.isRecord := by
  obtain ⟨loaded, g, hload, hgenerate, hnames, hkind, hrecord, m, hm, hhome, declaration, hmem,
    hname, hsynonym⟩ := shirt_generated
  refine ⟨loaded, g, hload, hgenerate, hnames, fun htold => ?_⟩
  have hsame :=
    htold basePackage "Size" _ rfl (by rw [hkind]; rfl) m hm hhome declaration hmem hname
  rw [hrecord, hsynonym] at hsame
  cases hsame

end Document

end SoapBindings
