/-
# `SoapBindings.Proofs.Emission.AttributeTrees` — attribute groups as a tree of references

A reference to an attribute group stands for the attributes of the group that is found, and these
come with references again.  Such references may go round in circles, so the tree of them is cut
where a group is met on the path that leads to it.  `attributesAlong` has the attributes of what is
left, and needs neither a bound nor a state.

Expansion runs down to a bound and with a stack that all expansions share.  It comes to the same,
with the stack for the path: expanding attributes is emitting the attributes of the tree one by
one.  The stack is empty wherever a complex type has attributes, because there is nothing but
attributes inside an attribute group.
-/
import SoapBindings.Proofs.Emission.Contents
import SoapBindings.Proofs.Lookup

namespace SoapBindings

open Xsd Emission

/-! ## The tree -/

namespace Document

/-- Attributes, and those of the attribute groups that references beside them lead to. -/
def attributesAlong (d : Document) (path : List String) (attributes : List Attribute)
    (references : List String) : List Attribute :=
  attributes ++ (foundAlong AttributeGroup.name d.attributeGroups (·.attributeGroups) path
    references).flatMap (·.2.attributes)

/-- A group is expanded to its own attributes and those of the groups inside it. -/
theorem attributesAlong_eq (d : Document) (path : List String) (attributes : List Attribute)
    (references : List String) :
    d.attributesAlong path attributes references =
      attributes ++ references.flatMap fun reference =>
        if referenceKey reference ∈ path then []
        else (firstFound AttributeGroup.name d.attributeGroups reference).elim [] fun g =>
          d.attributesAlong (referenceKey reference :: path) g.attributes g.attributeGroups := by
  unfold attributesAlong
  exact congrArg (attributes ++ ·) (foundAlong_flatMap _)

end Document

/-! ## Expansion -/

namespace Emission

/-- Attributes are expanded as those of the tree, where the stack is the path. -/
theorem script_attributes (d : Document) (package : Option String) (parent : String) {depth : Nat}
    {k : Stacks}
    (hdepth : room (keysOf AttributeGroup.name d.attributeGroups) k.attributeGroups < depth)
    (attributes : List Attribute) (references : List String) :
    script (.ofDocument d) package depth k (.attributes parent attributes references) =
      .each (d.attributesAlong k.attributeGroups attributes references)
        (attributeScript (.ofDocument d) package parent) := by
  induction depth generalizing k attributes references with
  | zero => exact absurd hdepth (Nat.not_lt_zero _)
  | succ depth ih =>
      rw [Document.attributesAlong_eq, Script.each_append, Script.each_flatMap]
      refine congrArg (Script.each attributes _ ++ Script.each references ·)
        (funext fun reference => ?_)
      unfold attributeGroupScript
      dsimp only
      rw [Resolver.attributeGroup?_first, ← referenceKey]
      by_cases hopen : referenceKey reference ∈ k.attributeGroups
      · rw [if_pos hopen, if_pos (List.contains_iff_mem.mpr hopen)]
        rfl
      · rw [if_neg hopen, if_neg (mt List.contains_iff_mem.mp hopen)]
        cases hfound : firstFound AttributeGroup.name d.attributeGroups reference with
        | none => rfl
        | some g =>
            have hless := room_lt (firstFound_key hfound) hopen
            exact ih (k := k.inAttributeGroup (referenceKey reference))
              (Nat.lt_of_lt_of_le hless (Nat.le_of_lt_succ hdepth)) _ _

/-- A standalone attribute group becomes a record, with its own key on the stack meanwhile. -/
theorem globalAttributeGroup_run {package : Option String} {self : Expansion} {scripts : Scripting}
    (hself : DoesAll package self scripts) {g : AttributeGroup} {name : String}
    (hname : g.name = some name) {s : Emission} (hpackage : s.context.package = package)
    (hfree : ¬s.context.isEmitted (Naming.typeName name)) :
    let p := scripts (s.toStacks.inAttributeGroup (Text.lowercaseText name))
      (.attributes (Naming.typeName name) g.attributes g.attributeGroups)
    (globalAttributeGroup self g).run s =
      (some (record (Naming.typeName name) name g.documentation (p.fields {})),
        p.emit (s.marked (Naming.typeName name))) := by
  intro p
  have hinner : (self (.attributes (Naming.typeName name) g.attributes g.attributeGroups) {}).run
      { s with
        context := s.context.markEmitted (Naming.typeName name)
        attributeGroups := Text.lowercaseText name :: s.attributeGroups } = _ :=
    (hself (s.toStacks.inAttributeGroup (Text.lowercaseText name)) _).run_withStacks {}
      (s := s.marked (Naming.typeName name)) ((Context.markEmitted_package ..).trans hpackage)
  unfold globalAttributeGroup
  simp only [hname, claim, hfree, run_bind, run_get, run_modify, run_pure, Bool.not_false,
    Bool.not_true, Bool.false_eq_true, if_false, hinner]
  exact congrArg (Prod.mk _) (Script.emit_withStacks_toStacks p (s.marked (Naming.typeName name)))

/-! ## The stack of attribute groups -/

/-- Only attributes are met while an attribute group is being expanded. -/
def OnlyAttributes (k : Stacks) : Task → Prop
  | .attributes _ _ _ => True
  | .content _ _ | .element _ _ | .group _ _ => k.attributeGroups = []

theorem OnlyAttributes.within {r : Resolver} {k k' : Stacks} {task task' : Task}
    (h : OnlyAttributes k task) (hwithin : Within r k task k' task') : OnlyAttributes k' task' := by
  induction hwithin with
  | refl => exact h
  | step _ hsub ih =>
      cases hsub with
      | attributes | attributeGroup => trivial
      | element | group | base | groupElement | groupReference => exact ih

theorem draft_onlyAttributes {r : Resolver} {package : Option String} {k : Stacks}
    {xmlName : String} {definition : Definition} {documentation : Option String} {task : Task}
    (h : draft r package {} xmlName definition = .record documentation k task) :
    OnlyAttributes k task := by
  cases definition with
  | simpleType t => cases h
  | complexType t =>
      cases h
      rfl
  | attributeGroup g =>
      cases h
      trivial
  | element e =>
      simp only [draft, elementDraft] at h
      split at h
      · cases typed_of_eq h with
        | content => rfl
      · cases h
        rfl
      · cases h
      · cases h

end Emission

namespace Document

variable {d : Document} {package : String}

theorem Asks.onlyAttributes {name : String} {documentation : Option String} {k : Stacks}
    {task : Task} (h : d.Asks package name (.record documentation k task)) :
    OnlyAttributes k task := by
  generalize hfound : Draft.record documentation k task = found at h
  induction h generalizing documentation k task with
  | definition _ _ _ => exact draft_onlyAttributes hfound.symm
  | anonymous _ hwithin hanonymous ih =>
      have houtside := (ih rfl).within hwithin
      cases hanonymous with
      | complexType _ _ _ _ =>
          cases hfound
          exact houtside
      | simpleType | attributeType => cases hfound

/-! ## Attribute groups in full -/

theorem room_attributeGroups (d : Document) (path : List String) :
    room (keysOf AttributeGroup.name d.attributeGroups) path < d.expansionBound := by
  have hroom := room_le (keysOf AttributeGroup.name d.attributeGroups) path
  have hkeys : (keysOf AttributeGroup.name d.attributeGroups).length ≤ _ :=
    keysOf_length d.attributeGroups
  have hgroups := d.attributeGroups_length
  have hweight := weight_lt_groupDepth d {}
  have hstart := startDepth_le d {}
  unfold startDepth at hstart
  omega

/-- What an expansion comes to is the script of the attributes in the tree. -/
theorem attributes_does (d : Document) (package : Option String) (k : Stacks) (parent : String)
    (attributes : List Attribute) (references : List String) :
    Does package k
      (expand (.ofDocument d) d.expansionBound (.attributes parent attributes references))
      (.each (d.attributesAlong k.attributeGroups attributes references)
        (attributeScript (.ofDocument d) package parent)) := by
  rw [← script_attributes d package parent (d.room_attributeGroups _)]
  exact expand_does _ package d.expansionBound k _

/-- **Attribute groups expand as the tree of references, cut at circles.**  Groups are found under
their keys, the first one first.  Expanding attributes and references, with whatever stack, is
emitting the attributes along the path on the stack one by one, which adds a field for each that has
a name or a reference, and leaves all stacks as they were.  A standalone group is expanded along its
own name.  And every complex type that is taken up for a record that is asked for, and every
derivation in it, has its attributes expanded along the empty path and in a row. -/
theorem attributes_expanded (d : Document) :
    let r := Resolver.ofDocument d
    let self := expand r d.expansionBound
    (∀ reference, r.attributeGroup? reference =
      firstFound AttributeGroup.name d.attributeGroups reference) ∧
    (∀ (s : Emission) parent attributes references fs,
      let along := d.attributesAlong s.attributeGroups attributes references
      let expanded := (self (.attributes parent attributes references) fs).run s
      expanded = (along.foldlM (attributeField r parent) fs).run s ∧
      expanded.1.contents =
        fs.contents ++ along.filterMap (attributeField? r s.context.package parent) ∧
      expanded.2.toStacks = s.toStacks) ∧
    (∀ (s : Emission) (g : AttributeGroup) name, g.name = some name →
      ¬s.context.isEmitted (Naming.typeName name) →
      let along := d.attributesAlong (Text.lowercaseText name :: s.attributeGroups)
        g.attributes g.attributeGroups
      let emitted := (globalAttributeGroup self g).run s
      (∃ fields : Fields,
        emitted.1 = some (record (Naming.typeName name) name g.documentation fields) ∧
        fields.contents =
          along.filterMap (attributeField? r s.context.package (Naming.typeName name))) ∧
      emitted.2.toStacks = s.toStacks) ∧
    ∀ package name documentation k task, d.Asks package name (.record documentation k task) →
      ∀ k' parent t, Within r k task k' (.content parent t) →
        k'.attributeGroups = [] ∧
        ∀ part ∈ t.attributeParts,
          (d.attributesAlong [] part.1 part.2).filterMap
              (attributeField? r (some package) parent) <:+:
            (d.expansion package k task).contents := by
  intro r self
  refine ⟨Resolver.attributeGroup?_first d, fun s parent attributes references fs => ?_,
    fun s g name hname hfree => ?_,
    fun package name documentation k task hasks k' parent t hwithin => ?_⟩
  · intro along expanded
    have hexpanded : expanded = _ :=
      d.attributes_does s.context.package s.toStacks parent attributes references fs s rfl rfl
    have hfields : (along.foldlM (attributeField r parent) fs).run s = _ :=
      Does.each along (attributeField_does parent) fs s rfl rfl
    refine ⟨hexpanded.trans hfields.symm, ?_, ?_⟩
    · rw [hexpanded, Script.fields_contents (attributes_isText _), attributes_contents]
      rfl
    · rw [hexpanded]
      exact Script.emit_toStacks _ s
  · intro along emitted
    have hemitted : emitted = _ :=
      globalAttributeGroup_run (expand_does r s.context.package _) hname
      rfl hfree
    rw [script_attributes d _ _ (d.room_attributeGroups _)] at hemitted
    rw [hemitted]
    refine ⟨⟨_, rfl, ?_⟩, Script.emit_toStacks _ _⟩
    rw [Script.fields_contents (attributes_isText _), attributes_contents]
    rfl
  · have hempty : k'.attributeGroups = [] := hasks.onlyAttributes.within hwithin
    refine ⟨hempty, fun part hpart => ?_⟩
    refine hasks.contents_infix (hwithin.step (.attributes hpart)) fun fs => ?_
    rw [script_attributes d _ _ (d.room_attributeGroups _), hempty,
      Script.fields_contents (attributes_isText _), attributes_contents]

/-- A group that refers to itself and to another one. -/
def outerGroup : AttributeGroup where
  name := some "Outer"
  attributes := [{ name := some "a", type := some "int" }]
  attributeGroups := ["t:inner", "OUTER"]

def innerGroup : AttributeGroup where
  name := some "Inner"
  attributes := [{ name := some "b", type := some "int" }]
  attributeGroups := ["t:outer"]

def circledType : ComplexType where
  name := some "Holder"
  attributes := [{ ref := some "xml:lang" }]
  attributeGroups := ["Outer", "missing", "INNER"]

/-- Two attribute groups in a circle, and a type that refers to both. -/
def circled : Document where
  kind := .xsd
  location := none
  rootPackage := basePackage
  definitions := {
    schemas := [{
      identifier := basePackage
      complexTypes := [circledType]
      attributeGroups := [outerGroup, innerGroup] }] }
  registry := {}

/-- The circle is cut in the group's own record, and on each way into it from outside. -/
theorem attributes_expanded_circle :
    let self := expand (.ofDocument circled) circled.expansionBound
    let start : Emission := { context := { package := some basePackage } }
    (∃ fields : Fields,
      ((globalAttributeGroup self outerGroup).run start).1 =
        some (record (Naming.typeName "Outer") "Outer" none fields) ∧
      fields.contents.map (·.name?) = [some "@a", some "@b"]) ∧
    [some "@lang", some "@a", some "@b", some "@b", some "@a"] <:+:
      (circled.expansion basePackage (Stacks.inRecord {} "Holder")
        (.content "Holder" circledType)).contents.map (·.name?) := by
  intro self start
  obtain ⟨-, -, hgroup, htype⟩ := attributes_expanded circled
  obtain ⟨⟨fields, hrun, hcontents⟩, -⟩ := hgroup start outerGroup "Outer" rfl nofun
  have hasks : circled.Asks basePackage "Holder"
      (.record none (Stacks.inRecord {} "Holder") (.content "Holder" circledType)) :=
    @Asks.definition circled basePackage _ "Holder" (.complexType circledType)
      List.mem_cons_self (.complexType List.mem_cons_self rfl) nofun
  obtain ⟨-, hparts⟩ := htype _ _ _ _ _ hasks _ _ _ .refl
  refine ⟨⟨fields, hrun, ?_⟩, ?_⟩
  · rw [hcontents]
    decide +kernel
  · have hpart := (hparts _ List.mem_cons_self).map (·.name?)
    refine Eq.mp (congrArg (· <:+: _) ?_) hpart
    decide +kernel

end Document

end SoapBindings
