/-
# `SoapBindings.Proofs.Emission.Distinct` — what a module declares twice

Three things keep declarations apart, each on its own.  A package claims every name once, but as it
stands before it is written down; a synonym numbers its constants among themselves; and clients are
named after their port types.  So a module declares two types of one name where a type is called
`Value` and another one has no letters at all, and two constants of one name where the words of two
synonyms run into each other.

Names and synonyms of a package are those that are asked for, and what is asked for is put together
from type names.  `Asks.proper` carries this from the top of the schemas down to the anonymous
types.
-/
import Mathlib.Data.List.Nodup
import Mathlib.Data.List.Pairwise
import SoapBindings.Proofs.Emission.Origins
import SoapBindings.Proofs.Emission.Spelled
import SoapBindings.Proofs.Modules
import SoapBindings.Proofs.Naming.Unique

namespace SoapBindings

open Xsd

/-! ## Constants -/

namespace Code

/-- What the constants of a synonym begin with. -/
def Synonym.stem (a : Synonym) : String := Naming.constantName a.name ++ "_"

/-- Constants that differ and begin with the words of their synonym. -/
structure Synonym.Numbered (a : Synonym) : Prop where
  nodup : (a.constants.map (·.ident)).Nodup
  stem : ∀ c ∈ a.constants, a.stem.toList <+: c.ident.toList

def Declaration.constantNames : Declaration → List String
  | synonym a => a.constants.map (·.ident)
  | record _ => []

/-- The names that the module gives to constants. -/
def Body.constantNames (b : Body) : List String := b.declarations.flatMap (·.constantNames)

end Code

namespace Emission

theorem prefix_unique (used : List String) (base : String) :
    base.toList <+: (Naming.unique used base).toList := by
  obtain h | ⟨n, h⟩ := Naming.unique_cases used base
  · simp only [h, List.prefix_rfl]
  · rw [h, String.toList_append]
    exact List.prefix_append _ _

/-- A constant begins with the words of its synonym, whatever else is in its name. -/
theorem prefix_constantName (synonym : String) (index : Nat) (value : String) :
    (Naming.constantName synonym ++ "_").toList <+: (constantName synonym index value).toList := by
  unfold constantName
  dsimp only
  rw [String.toList_append (s := Naming.constantName synonym ++ "_")]
  exact List.prefix_append _ _

/-- Each constant gets a name that the ones before it do not have. -/
theorem constants_nodup (synonym : String) (target : TypeRef) (values : List Enumeration) :
    ((constants synonym target values).map (·.ident)).Nodup := by
  have hstart : (([] : List Code.Constant).map (·.ident)).Nodup := List.nodup_nil
  unfold constants
  refine List.foldlRecOn (motive := fun done : List Code.Constant => (done.map (·.ident)).Nodup)
    _ _ hstart fun done hdone item _ => ?_
  rw [List.map_append]
  refine List.Nodup.append hdone (List.nodup_singleton _) fun name hold hnew => ?_
  obtain rfl := List.mem_singleton.mp hnew
  exact Naming.unique_fresh _ _ hold

theorem constants_stem (synonym : String) (target : TypeRef) (values : List Enumeration) :
    ∀ c ∈ constants synonym target values,
      (Naming.constantName synonym ++ "_").toList <+: c.ident.toList := by
  have hstart : ∀ c ∈ ([] : List Code.Constant),
      (Naming.constantName synonym ++ "_").toList <+: c.ident.toList := nofun
  unfold constants
  refine List.foldlRecOn (motive := fun done : List Code.Constant => ∀ c ∈ done,
    (Naming.constantName synonym ++ "_").toList <+: c.ident.toList)
    _ _ hstart fun done hdone item _ c hc => ?_
  obtain hc | hc := List.mem_append.mp hc
  · exact hdone c hc
  · rw [List.mem_singleton.mp hc]
    exact (prefix_constantName _ _ _).trans (prefix_unique _ _)

theorem synonymOf_numbered (r : Resolver) (package : Option String) (name : String)
    (type : SimpleType) (documentation : Option String) :
    (synonymOf r package name type documentation).Numbered :=
  ⟨constants_nodup _ _ _, constants_stem _ _ _⟩

/-! ## What is asked for -/

theorem underscore_anonymousName {parent : String} (h : '_' ∉ parent.toList) (name : String) :
    '_' ∉ (anonymousName parent name).toList := by
  unfold anonymousName
  rw [String.toList_append]
  exact fun hmem => (List.mem_append.mp hmem).elim h (Naming.underscore_typeName name)

/-- Tasks within a task are done under its name, or under that of a base. -/
theorem Within.underscore {r : Resolver} {k k' : Stacks} {task task' : Task}
    (h : Within r k task k' task') (htask : '_' ∉ task.parent.toList) :
    '_' ∉ task'.parent.toList := by
  induction h with
  | refl => exact htask
  | step _ hsub ih =>
      cases hsub with
      | base => exact Naming.underscore_typeName _
      | element | group | attributes | groupElement | groupReference | attributeGroup => exact ih

/-- A definition whose anonymous types are named after a type name,
or whose constants are numbered. -/
def Draft.Proper : Draft → Prop
  | .record _ _ task => '_' ∉ task.parent.toList
  | .synonym a => a.Numbered
  | .skip | .plain _ _ => True

theorem Typed.proper {r : Resolver} {package : Option String} {k : Stacks} {xmlName type : String}
    {documentation : Option String} {found : Draft}
    (h : Typed r package k xmlName type documentation found) : found.Proper := by
  cases h with
  | covered _ | text | expanding => trivial
  | content _ => exact Naming.underscore_typeName _
  | renamed => exact ⟨List.nodup_nil, nofun⟩

theorem draft_proper (r : Resolver) (package : Option String) (k : Stacks) (xmlName : String)
    (definition : Definition) : (draft r package k xmlName definition).Proper := by
  cases definition with
  | simpleType t => exact synonymOf_numbered ..
  | complexType t => exact Naming.underscore_typeName xmlName
  | attributeGroup g => exact Naming.underscore_typeName xmlName
  | element e =>
      simp only [draft, elementDraft]
      split
      · exact (typed_of_eq rfl).proper
      · exact Naming.underscore_typeName xmlName
      · exact synonymOf_numbered ..
      · trivial

theorem Anonymous.proper {r : Resolver} {package : Option String} {k : Stacks} {task : Task}
    {name : String} {found : Draft} (h : Anonymous r package k task name found)
    (htask : '_' ∉ task.parent.toList) : '_' ∉ name.toList ∧ found.Proper := by
  cases h with
  | complexType =>
      exact ⟨underscore_anonymousName htask _, underscore_anonymousName htask _⟩
  | simpleType | attributeType =>
      exact ⟨underscore_anonymousName htask _, synonymOf_numbered ..⟩

end Emission

namespace Document

open Emission

variable {d : Document} {package : String}

/-- Whatever is asked for has a type name, and so have the types within. -/
theorem Asks.proper {name : String} {found : Draft} (h : d.Asks package name found) :
    '_' ∉ name.toList ∧ found.Proper := by
  induction h with
  | definition _ _ _ => exact ⟨Naming.underscore_typeName _, draft_proper ..⟩
  | anonymous _ hwithin hanonymous ih => exact hanonymous.proper (hwithin.underscore ih.2)

/-- Every synonym in a script is asked for as it is. -/
def AllAsked (d : Document) (package : String) (p : Script) : Prop :=
  ∀ a, .synonym a ∈ p.nodes → d.Asks package a.name (.synonym a)

namespace AllAsked

theorem append {p q : Script} (hp : AllAsked d package p) (hq : AllAsked d package q) :
    AllAsked d package (p ++ q) := by
  intro a ha
  rw [Script.nodes_append] at ha
  exact (List.mem_append.mp ha).elim (hp a) (hq a)

theorem text (parent : String) (base : Option String) :
    AllAsked d package (textScript (.ofDocument d) (some package) parent base) := by
  cases base with
  | none => exact nofun
  | some base =>
      obtain htext | ⟨htext, -⟩ := textScript_some (.ofDocument d) (some package) parent base
      · exact htext ▸ nofun
      · exact htext ▸ nofun

theorem inherited (d : Document) (package : String) : Inherited d package (AllAsked d package) where
  piecewise := ⟨nofun, append, nofun, nofun⟩
  skip := nofun
  cut := nofun
  text := text
  named _ _ := nofun
  refers _ _ _ := nofun
  synonym h a ha := by
    cases List.mem_singleton.mp ha
    exact h
  plain {_ _ _ text} _ a ha := by
    cases text with
    | none | some type => cases List.mem_singleton.mp ha
  record _ _ hinner a ha := by
    obtain ha | ha := List.mem_cons.mp ha
    · cases ha
    · exact (List.mem_append.mp ha).elim (hinner a) nofun

end AllAsked

theorem synonym_asked {a : Code.Synonym} (h : .synonym a ∈ d.declarations package) :
    d.Asks package a.name (.synonym a) := by
  obtain ⟨node, hnode, hdeclaration, -⟩ := d.emitPackage_fromNodes package _ h
  cases node with
  | synonym b =>
      cases hdeclaration
      exact (AllAsked.inherited d package).packageScript a hnode
  | record _ _ _ _ => cases hdeclaration

theorem underscore_declared {name : String}
    (h : name ∈ (d.declarations package).map (·.name)) : '_' ∉ name.toList := by
  obtain ⟨declaration, hmem, rfl⟩ := List.mem_map.mp h
  obtain ⟨found, hasks, -⟩ := declaration_asked hmem
  exact hasks.proper.1

end Document

/-! ## Modules -/

/-- Names without underscores are written in as many ways as there are names, but for the empty one
and the text that is written for it. -/
theorem Naming.nodup_typeIdentifier (names : List String) (h : ∀ name ∈ names, '_' ∉ name.toList) :
    (names.map typeIdentifier).Nodup ↔ names.Nodup ∧ ¬("" ∈ names ∧ "Value" ∈ names) := by
  constructor
  · intro hnodup
    refine ⟨.of_map _ hnodup, fun ⟨hempty, hvalue⟩ => ?_⟩
    exact absurd (List.inj_on_of_nodup_map hnodup hempty hvalue (by decide)) (by decide)
  · rintro ⟨hnodup, hmeet⟩
    refine hnodup.map_on fun a ha b hb hab => ?_
    obtain hab | ⟨rfl, rfl⟩ | ⟨rfl, rfl⟩ := (typeIdentifier_eq_iff (h a ha) (h b hb)).mp hab
    · exact hab
    · exact absurd ⟨ha, hb⟩ hmeet
    · exact absurd ⟨hb, ha⟩ hmeet

namespace Document

open Emission

variable {d : Document} {operations : String}

/-- Clients are named after the port types. -/
theorem operationsModule_typeNames {m : Code.SourceModule}
    (h : d.operationsModule (.ofDocument d) operations = some m) :
    m.body.typeNames = (d.definitions.portTypes.map fun p => Naming.typeName p.name).map
        Naming.typeIdentifier ∧
      m.body.constantNames = [] := by
  rw [(operationsModule_some h).1]
  refine ⟨?_, rfl⟩
  simp only [Code.Body.typeNames, List.map_map]
  rfl

/-- Constants are told apart within a synonym, so only two synonyms can share one. -/
theorem constantNames_nodup (d : Document) (package : String) :
    (Code.Body.types (d.declarations package)).constantNames.Nodup ↔
      ∀ a b, .synonym a ∈ d.declarations package → .synonym b ∈ d.declarations package →
        a.name ≠ b.name → ∀ c ∈ a.constants, ∀ c' ∈ b.constants, c.ident ≠ c'.ident := by
  unfold Code.Body.constantNames Code.Body.declarations
  rw [List.nodup_flatMap]
  constructor
  · rintro ⟨-, hdisjoint⟩ a b ha hb hne c hc c' hc' hmeet
    have hsymmetric :
        Std.Symm (Function.onFun List.Disjoint Code.Declaration.constantNames) :=
      ⟨fun _ _ h _ hname hname' => h hname' hname⟩
    have hother : Code.Declaration.synonym a ≠ .synonym b := by
      rintro ⟨⟩
      exact hne rfl
    refine hdisjoint.forall ha hb hother (List.mem_map_of_mem hc) ?_
    rw [hmeet]
    exact List.mem_map_of_mem hc'
  · intro hapart
    refine ⟨fun declaration hmem => ?_, ?_⟩
    · cases declaration with
      | synonym a => exact (synonym_asked hmem).proper.2.nodup
      | record _ => exact List.nodup_nil
    · refine (List.pairwise_map.mp (d.declarations_nodup package)).imp_of_mem ?_
      intro x y hx hy hne name hname hname'
      cases x with
      | record _ => cases hname
      | synonym a =>
          cases y with
          | record _ => cases hname'
          | synonym b =>
              obtain ⟨c, hc, rfl⟩ := List.mem_map.mp hname
              obtain ⟨c', hc', hmeet⟩ := List.mem_map.mp hname'
              exact hapart a b hx hy hne c hc c' hc' hmeet.symm

/-- **A module declares nothing twice, as far as names do not meet.**  In a module of types two
types have one name exactly if one type is called `Value` and another one has no letters or digits.
Constants of one synonym differ, and all constants do exactly if no two synonyms share one; for that
it is enough that the words of no synonym begin those of another.  Clients differ exactly as far as
the type names of their port types do, with the same exception. -/
theorem declared_once {g : Generated} (h : d.generate operations = .ok g) :
    (∀ m ∈ g.types,
      (m.body.typeNames.Nodup ↔ ¬(m.Declares "" ∧ m.Declares "Value")) ∧
      (∀ a, .synonym a ∈ m.body.declarations → (a.constants.map (·.ident)).Nodup) ∧
      (m.body.constantNames.Nodup ↔
        ∀ a b, .synonym a ∈ m.body.declarations → .synonym b ∈ m.body.declarations →
          a.name ≠ b.name → ∀ c ∈ a.constants, ∀ c' ∈ b.constants, c.ident ≠ c'.ident) ∧
      ((∀ a b, .synonym a ∈ m.body.declarations → .synonym b ∈ m.body.declarations →
          a.constants ≠ [] → b.constants ≠ [] → a.name ≠ b.name →
            ¬a.stem.toList <+: b.stem.toList) →
        m.body.constantNames.Nodup)) ∧
    ∀ m, g.operations = some m →
      (m.body.typeNames.Nodup ↔
        (d.definitions.portTypes.map fun p => Naming.typeName p.name).Nodup ∧
          ¬("" ∈ (d.definitions.portTypes.map fun p => Naming.typeName p.name) ∧
            "Value" ∈ (d.definitions.portTypes.map fun p => Naming.typeName p.name))) ∧
      m.body.constantNames = [] := by
  refine ⟨fun m hm => ?_, fun m hm => ?_⟩
  · have hbody := types_declarations h hm
    have hnames := d.declarations_nodup m.package
    have hnumbered (a : Code.Synonym) (ha : .synonym a ∈ d.declarations m.package) : a.Numbered :=
      (synonym_asked ha).proper.2
    unfold Code.SourceModule.Declares
    rw [hbody]
    have hiff := d.constantNames_nodup m.package
    refine ⟨?_, fun a ha => (hnumbered a ha).nodup, hiff, fun hstems => hiff.mpr ?_⟩
    · have htypes := Naming.nodup_typeIdentifier ((d.declarations m.package).map (·.name))
        fun _ => underscore_declared
      rw [List.map_map] at htypes
      exact htypes.trans (and_iff_right hnames)
    · intro a b ha hb hne c hc c' hc' hmeet
      have hstem := (hnumbered a ha).stem c hc
      rw [hmeet] at hstem
      obtain hbegins | hbegins :=
        List.prefix_or_prefix_of_prefix hstem ((hnumbered b hb).stem c' hc')
      · exact hstems a b ha hb (List.ne_nil_of_mem hc) (List.ne_nil_of_mem hc') hne hbegins
      · exact hstems b a hb ha (List.ne_nil_of_mem hc') (List.ne_nil_of_mem hc) hne.symm hbegins
  · rw [(generate_ok h).2] at hm
    obtain ⟨hnames, hconstants⟩ := operationsModule_typeNames hm
    refine ⟨?_, hconstants⟩
    rw [hnames]
    refine Naming.nodup_typeIdentifier _ fun name hname => ?_
    obtain ⟨p, -, rfl⟩ := List.mem_map.mp hname
    exact Naming.underscore_typeName p.name

/-- Two types with a value each, whose words run into each other. -/
def colors : Document where
  kind := .xsd
  location := none
  rootPackage := basePackage
  definitions := {
    schemas := [{
      identifier := basePackage
      simpleTypes := [
        { name := some "Color"
          restriction := some { base := some "string", enumerations := [{ value := "DarkRed" }] } },
        { name := some "ColorDark"
          restriction := some {
            base := some "string", enumerations := [{ value := "Red" }] } }] }] }
  registry := {}

theorem colors_constantNames :
    ∃ g, colors.generate "operations" = .ok g ∧
      g.types.map (·.body.constantNames) = [["COLOR_DARK_RED", "COLOR_DARK_RED"]] := by
  have hgenerate : (colors.generate "operations").toOption.map
      (fun g => g.types.map (·.body.constantNames)) =
        some [["COLOR_DARK_RED", "COLOR_DARK_RED"]] := by
    decide +kernel
  obtain ⟨g, hg, hnames⟩ := Option.map_eq_some_iff.mp hgenerate
  exact ⟨g, eq_ok_of_toOption hg, hnames⟩

theorem declared_once_colors :
    ∃ g, colors.generate "operations" = .ok g ∧ ∀ m ∈ g.types, ∀ a,
      .synonym a ∈ m.body.declarations → (a.constants.map (·.ident)).Nodup := by
  obtain ⟨g, hg, -⟩ := colors_constantNames
  exact ⟨g, hg, fun m hm => ((declared_once hg).1 m hm).2.1⟩

/-- Constants of two synonyms can have one name. -/
theorem constants_meet :
    ∃ g, colors.generate "operations" = .ok g ∧ ∃ m ∈ g.types, ¬m.body.constantNames.Nodup := by
  obtain ⟨g, hg, hnames⟩ := colors_constantNames
  obtain ⟨m, hm, hmeet⟩ := List.mem_map.mp (hnames ▸ List.mem_singleton_self _)
  refine ⟨g, hg, m, hm, ?_⟩
  rw [hmeet]
  decide

end Document

end SoapBindings
