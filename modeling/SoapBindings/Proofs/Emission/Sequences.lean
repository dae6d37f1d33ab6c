/-
# `SoapBindings.Proofs.Emission.Sequences` — the fields of a sequence

A complex type whose content is a sequence has its elements in one list and its references to groups
in another, and so has every group.  The elements become fields first, and then each reference
brings the elements of its group, again before what that group refers to.  So the fields of elements
stand in the order in which the sequence is gathered, which need not be the order that the schema
prescribes.

The content of a group stands beside each reference to it in a `Sequence`, so the induction is on
the sequence, and no depth comes into it: each reference on the way is entered, since its name is
not on the path that leads to it.
-/
import SoapBindings.Proofs.Document.Compositors
import SoapBindings.Proofs.Emission.Groups

namespace SoapBindings

open Xsd Emission

/-- The type holds this sequence, and nothing beside it but attributes, wildcards and text. -/
structure Xsd.ComplexType.Holds (t : ComplexType) (s : Sequence Element) : Prop where
  sequence : t.sequence = s.own
  groups : t.groups = s.references
  choice : t.choice = []
  all : t.all = []
  complexContent : t.complexContent = none
  simpleContent : t.simpleContent = none

/-- The group holds this sequence. -/
structure Xsd.Group.Holds (g : Group) (s : Sequence Element) : Prop where
  elements : g.elements = s.own
  groups : g.groups = s.references

/-- The references find groups that hold the content beside them, and none of them is by a name on
the path that leads to it. -/
def Sequence.Unfolds (r : Resolver) : List String → Sequence Element → Prop
  | _, .done => True
  | path, .element _ rest => rest.Unfolds r path
  | path, .sequence inner rest => inner.Unfolds r path ∧ rest.Unfolds r path
  | path, .group reference content rest =>
    Naming.localName reference ∉ path ∧
    (∃ g, r.group? reference = some g ∧ g.Holds content) ∧
    content.Unfolds r (Naming.localName reference :: path) ∧
    rest.Unfolds r path

namespace Emission

variable {r : Resolver} {package : Option String}

/-! ## Attributes and texts -/

theorem noElements_piecewise : Piecewise fun p _ => p.contents.filter (·.isElement) = [] := by
  refine ⟨rfl, fun {p q p' q'} hp hp' => ?_, rfl, rfl⟩
  rw [Script.contents_append, List.filter_append, hp, hp']
  rfl

theorem attributeScript_noElements (parent : String) (a : Attribute) :
    (attributeScript r package parent a).contents.filter (·.isElement) = [] := by
  have hform := attributeScript_form r package parent a
  generalize attributeScript r package parent a = p at hform ⊢
  cases hform with
  | missing | field _ | simpleType _ _ _ => rfl

theorem script_attributes_noElements (depth : Nat) (k : Stacks) (parent : String)
    (attributes : List Attribute) (references : List String) :
    (script r package depth k (.attributes parent attributes references)).contents.filter
      (·.isElement) = [] := by
  induction depth generalizing k attributes references with
  | zero => rfl
  | succ depth ih =>
      exact noElements_piecewise.attributes (script r package depth) (script r package depth)
        (fun a _ => attributeScript_noElements parent a) fun _ _ _ _ _ => ih _ _ _

/-! ## Elements and groups -/

/-- The references of a sequence bring what comes from groups. -/
theorem script_references_contents {parent : String} {depth : Nat} {k : Stacks}
    {s : Sequence Element} (h : s.Unfolds r k.groups)
    (hwhole : ∀ reference ∈ s.references,
      (script r package depth k (.group parent reference)).whole) :
    (Script.each s.references fun reference =>
        script r package depth k (.group parent reference)).contents =
      s.fromGroups.filterMap (elementField? r package parent) := by
  induction s generalizing depth k with
  | done => rfl
  | element e rest ih => exact ih h hwhole
  | sequence inner rest ihInner ihRest =>
      obtain ⟨hinner, hrest⟩ := h
      obtain ⟨hwholeInner, hwholeRest⟩ := List.forall_mem_append.mp hwhole
      rw [Sequence.references, Sequence.fromGroups, Script.each_append, Script.contents_append,
        ihInner hinner hwholeInner, ihRest hrest hwholeRest, List.filterMap_append]
  | group reference content rest ihContent ihRest =>
      obtain ⟨hopen, ⟨g, hg, helements, hgroups⟩, hcontent, hrest⟩ := h
      obtain ⟨hwholeOne, hwholeRest⟩ := List.forall_mem_cons.mp hwhole
      cases depth with
      | zero => exact absurd hwholeOne id
      | succ depth =>
          obtain ⟨hinside, hone⟩ := script_group_contents hopen hg hwholeOne
          rw [hgroups] at hinside hone
          have hnested := ihContent (k := k.inGroup (Naming.localName reference)) hcontent hinside
          rw [Sequence.references, Sequence.fromGroups, Script.each_cons, Script.contents_append,
            ihRest hrest hwholeRest, hone, hnested, helements, List.filterMap_append,
            List.filterMap_append]

/-- The content of a type that holds a sequence. -/
theorem script_sequence_contents {parent : String} {depth : Nat} {k : Stacks} {t : ComplexType}
    {s : Sequence Element} (ht : t.Holds s) (h : s.Unfolds r k.groups)
    (hwhole : (script r package depth k (.content parent t)).whole) :
    (script r package depth k (.content parent t)).contents.filter (·.isElement) =
      s.gathered.filterMap (elementField? r package parent) := by
  cases depth with
  | zero => exact absurd hwhole id
  | succ depth =>
      have hinside {k' : Stacks} {task : Task} (hsub : Subtask r k (.content parent t) k' task) :
          (script r package depth k' task).whole := (Subtask.contains hsub).whole hwhole
      have hown := @script_elements_contents r package depth k parent s.own fun e he =>
        hinside (.element (List.mem_append_right _ (by simp [ht.sequence, he])))
      have hnested := @script_references_contents r package parent depth k s h
        fun reference hreference =>
          hinside (.group (List.mem_append_right _ (ht.groups ▸ hreference)))
      have hwild := noElements_piecewise.wildcards t.wildcards
      have hattributes := @script_attributes_noElements r package depth k parent t.attributes
        t.attributeGroups
      have hmixed : (if t.mixed then Script.text plainText .done else .done).contents.filter
          (·.isElement) = [] := by
        split <;> rfl
      have hfields : ((s.gathered.filterMap (elementField? r package parent)).filter
          (·.isElement)) = s.gathered.filterMap (elementField? r package parent) := by
        refine List.filter_eq_self.mpr fun content hcontent => ?_
        obtain ⟨e, -, he⟩ := List.mem_filterMap.mp hcontent
        exact elementField?_isElement he
      rw [script, stepScript, contentScript, ht.complexContent, ht.simpleContent, ht.sequence,
        ht.choice, ht.all, ht.groups, List.append_nil, List.append_nil]
      simp only [Script.ofOption, Script.done_append, Script.contents_append, List.filter_append,
        hwild, hattributes, hmixed, List.append_nil]
      rw [hown, hnested, ← List.filter_append, ← List.filterMap_append]
      exact hfields

end Emission

namespace Document

open Markup

variable {α : Type} [DecidableEq α] [TextUnit α] {tag : List α}

/-! ## Sequences that have been read -/

/-- A type that has just been opened holds nothing. -/
theorem readComplexType_holds {t : ComplexType} (h : readComplexType tag = .ok t) :
    t.Holds .done := by
  have hyields : Yields OfToken (·.Holds .done) (readComplexType tag) :=
    Yields.bind_iff.mpr ((readValues_yields _ tag).mono id
      fun _ => ⟨rfl, rfl, rfl, rfl, rfl, rfl⟩)
  rwa [h] at hyields

theorem openGroup_holds {g : Group} (h : openGroup tag = .ok (.group g)) : g.Holds .done := by
  have hyields : Yields OfToken (fun frame => ∀ g, frame = .group g → g.Holds .done)
      (openGroup tag) := by
    refine Yields.bind_iff.mpr ((readValues_yields _ tag).mono id fun _ => ?_)
    rintro g ⟨⟩
    exact ⟨rfl, rfl⟩
  rw [h] at hyields
  exact hyields g rfl

/-- A sequence that is read into a type or a group that holds nothing is held by it. -/
theorem holds_turned {p : Passage α} {s : Sequence Element} (hp : p.Opens "sequence" tag)
    (h : Spells p.content s) :
    (∀ t : ComplexType, t.Holds .done →
      let held := { t with sequence := s.own, groups := s.references }
      Turns [p] (.complexType t) (.complexType held) ∧ held.Holds s) ∧
    ∀ g : Group, g.Holds .done →
      let held := { g with elements := s.own, groups := s.references }
      Turns [p] (.group g) (.group held) ∧ held.Holds s := by
  obtain ⟨htype, hgroup⟩ := h.sequence_turns hp
  refine ⟨fun t ht => ⟨?_, rfl, rfl, ht.choice, ht.all, ht.complexContent, ht.simpleContent⟩,
    fun g hg => ⟨?_, rfl, rfl⟩⟩
  · have hturns := htype t
    rwa [ht.sequence, ht.groups] at hturns
  · have hturns := hgroup g
    rwa [hg.elements, hg.groups] at hturns

/-- **The fields of a sequence stand as they are gathered.**  However a sequence is nested, the
reader leaves its elements and its references to groups in two lists, in a complex type and in a
group.  A complex type that holds a sequence becomes a record whose element fields are those of the
sequence itself, and then for each reference those of its group, where the same holds again.  No
field is missing, but the fields stand as prescribed only if neither in the sequence nor in a group
an element comes behind anything from a group.  If no two fields are alike, they do in no other
case. -/
theorem sequence_fields :
    (∀ tag : List α, (∀ t, readComplexType tag = .ok t → t.Holds .done) ∧
      ∀ g, openGroup tag = .ok (.group g) → g.Holds .done) ∧
    (∀ (p : Passage α) (tag : List α) (s : Sequence Element), p.Opens "sequence" tag →
      Spells p.content s →
      (∀ t : ComplexType, t.Holds .done →
        let held := { t with sequence := s.own, groups := s.references }
        Turns [p] (.complexType t) (.complexType held) ∧ held.Holds s) ∧
      ∀ g : Group, g.Holds .done →
        let held := { g with elements := s.own, groups := s.references }
        Turns [p] (.group g) (.group held) ∧ held.Holds s) ∧
    ∀ (d : Document) (package name xmlName : String) (t : ComplexType) (s : Sequence Element)
      (documentation : Option String) (start : Emission),
      let r := Resolver.ofDocument d
      (Task.content name t).StandsIn d → t.Holds s → s.Unfolds r start.groups →
      start.context.package = some package → ¬start.context.isEmitted name →
      ∃ fields : Fields,
        ((complexType (expand r d.expansionBound) name xmlName t documentation).run start).1 =
          some (record name xmlName documentation fields) ∧
        let found := s.filterMap (elementField? r (some package) name)
        fields.contents.filter (·.isElement) = found.gathered ∧
        found.gathered.Perm found.prescribed ∧
        (found.ElementsFirst → found.gathered = found.prescribed) ∧
        (found.prescribed.Nodup → found.gathered = found.prescribed → found.ElementsFirst) := by
  refine ⟨fun tag => ⟨fun _ => readComplexType_holds, fun _ => openGroup_holds⟩,
    fun p tag s hp h => holds_turned hp h, ?_⟩
  intro d package name xmlName t s documentation start r hstands ht hunfolds hpackage hfree
  have hrun := complexType_run (expand_does r (some package) d.expansionBound) name xmlName t
    documentation hpackage
  rw [if_neg hfree] at hrun
  refine ⟨_, hrun, ?_⟩
  intro found
  refine ⟨?_, found.prescribed_perm.symm, Sequence.ElementsFirst.gathered_eq,
    Sequence.elementsFirst_of_gathered⟩
  rw [Script.fields_elements, Sequence.gathered_filterMap]
  exact script_sequence_contents ht hunfolds (standsIn_whole package _ hstands)

/-! ## A sequence in order, and one that is not -/

def sequenceType (name : String) (s : Sequence Element) : ComplexType where
  name := some name
  sequence := s.own
  groups := s.references

def sequenceGroup (name : String) (s : Sequence Element) : Group where
  name := some name
  elements := s.own
  groups := s.references

def sequenceDocument (t : ComplexType) (groups : List Group) : Document where
  kind := .xsd
  location := none
  rootPackage := basePackage
  definitions := {
    schemas := [{ identifier := basePackage, complexTypes := [t], groups := groups }] }
  registry := {}

theorem sequenceType_standsIn (parent name : String) (s : Sequence Element) (groups : List Group) :
    (Task.content parent (sequenceType name s)).StandsIn
      (sequenceDocument (sequenceType name s) groups) :=
  ⟨_, places_complexType (List.mem_singleton.mpr rfl) (List.mem_singleton.mpr rfl) rfl⟩

def nestedContent : Sequence Element := .element { name := some "d" } .done

def groupContent : Sequence Element :=
  .element { name := some "c" } (.group "t:inner" nestedContent .done)

def orderedContent : Sequence Element :=
  .element { name := some "a" } (.sequence (.element { name := some "b" } .done)
    (.group "Outer" groupContent .done))

def orderedMarkup : Passage Char :=
  .tagged "s:sequence".toList [leaf "s:element" "name" "a",
    .tagged "s:sequence".toList [leaf "s:element" "name" "b"], leaf "s:group" "ref" "Outer"]

theorem orderedMarkup_spells : Spells orderedMarkup.content orderedContent :=
  .element ⟨rfl, rfl⟩ rfl (.nil _)
    (.sequence ⟨rfl, rfl⟩ (.element ⟨rfl, rfl⟩ rfl (.nil _) .done)
      (.group ⟨rfl, rfl⟩ rfl (.nil _) rfl .done))

theorem sequence_fields_ordered :
    let t := sequenceType "T" orderedContent
    let d := sequenceDocument t
      [sequenceGroup "Outer" groupContent, sequenceGroup "Inner" nestedContent]
    let start : Emission := { context := { package := some basePackage } }
    Turns [orderedMarkup] (.complexType { name := some "T" }) (.complexType t) ∧
    ∃ fields : Fields,
      ((complexType (expand (.ofDocument d) d.expansionBound) "T" "T" t none).run start).1 =
        some (record "T" "T" none fields) ∧
      (fields.contents.filter (·.isElement)).map (·.name?) =
        [some "a", some "b", some "c", some "d"] := by
  intro t d start
  obtain ⟨hopened, hread, hfields⟩ := @sequence_fields Char _ _
  have hempty : ({ name := some "T" } : ComplexType).Holds .done :=
    (hopened "s:complexType name='T'".toList).1 _ rfl
  obtain ⟨hturns, ht⟩ :=
    (hread orderedMarkup _ orderedContent ⟨rfl, rfl⟩ orderedMarkup_spells).1 _ hempty
  have hunfolds : orderedContent.Unfolds (.ofDocument d) start.groups :=
    ⟨trivial, List.not_mem_nil, ⟨_, rfl, rfl, rfl⟩,
      ⟨by decide, ⟨_, rfl, rfl, rfl⟩, trivial, trivial⟩, trivial⟩
  obtain ⟨fields, hrun, hcontents, -⟩ := hfields d basePackage "T" "T" t orderedContent none start
    (sequenceType_standsIn "T" "T" orderedContent _) ht hunfolds rfl nofun
  refine ⟨hturns, fields, hrun, ?_⟩
  rw [hcontents]
  decide +kernel

/-- A reference to a group in front of an element. -/
def displacedContent : Sequence Element :=
  .group "G" (.element { name := some "a" } .done) (.element { name := some "b" } .done)

def displacedMarkup : Passage Char :=
  .tagged "s:sequence".toList [leaf "s:group" "ref" "G", leaf "s:element" "name" "b"]

/-- The element comes first all the same. -/
theorem sequence_displaced :
    let t := sequenceType "T" displacedContent
    let d := sequenceDocument t [sequenceGroup "G" (.element { name := some "a" } .done)]
    Turns [displacedMarkup] (.complexType { name := some "T" }) (.complexType t) ∧
    displacedContent.Unfolds (.ofDocument d) [] ∧
    displacedContent.prescribed.map (·.name) = [some "a", some "b"] ∧
    (d.recordFields basePackage "T" t).contents.map (·.name?) = [some "b", some "a"] := by
  intro t d
  have hspells : Spells displacedMarkup.content displacedContent :=
    .group ⟨rfl, rfl⟩ rfl (.nil _) rfl (.element ⟨rfl, rfl⟩ rfl (.nil _) .done)
  have hopens : displacedMarkup.Opens "sequence" "s:sequence".toList := ⟨rfl, rfl⟩
  have hempty : ({ name := some "T" } : ComplexType).Holds .done :=
    readComplexType_holds (show readComplexType "s:complexType name='T'".toList = _ from rfl)
  obtain ⟨hturns, -⟩ := (holds_turned hopens hspells).1 _ hempty
  refine ⟨hturns, ?_, rfl, by decide +kernel⟩
  exact ⟨List.not_mem_nil, ⟨_, rfl, rfl, rfl⟩, trivial, trivial⟩

end Document

end SoapBindings
