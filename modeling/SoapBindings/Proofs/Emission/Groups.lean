/-
# `SoapBindings.Proofs.Emission.Groups` — groups inside groups

While a group of elements is expanded, its name is on a stack, and a reference by a name on the
stack is passed over.  The names on the stack are local names as they are written.  What a reference
finds is decided by its key, which is the local name in small letters.  So the guard sees that a
group is in progress only where the reference is spelled like the one that the group was entered by.

`InProgress` lists the groups in progress beside the stack, along every chain of expansions: through
references in groups, and through anonymous types of their elements, since the stack is kept for
the records of these.  No name is on the stack twice.  No group is in progress twice exactly if
every reference that finds a group in progress is spelled like one on the stack.

Where this is so, groups expand like attribute groups: as a tree of references that is cut where a
group is met on the path to it.  `groupElements` has the elements of that tree.
-/
import SoapBindings.Proofs.Emission.Contents
import SoapBindings.Proofs.Emission.Inline
import SoapBindings.Proofs.Emission.Order
import SoapBindings.Proofs.Lookup

namespace SoapBindings

open Xsd Emission

/-- What is in one of two lists has something at its place in the other. -/
theorem forall₂_mem {α β : Type} {R : α → β → Prop} {xs : List α} {ys : List β}
    (h : List.Forall₂ R xs ys) {x : α} (hx : x ∈ xs) : ∃ y ∈ ys, R x y := by
  induction h with
  | nil => cases hx
  | cons hxy _ ih =>
      obtain rfl | hx := List.mem_cons.mp hx
      · exact ⟨_, List.mem_cons_self, hxy⟩
      · obtain ⟨y, hy, hxy⟩ := ih hx
        exact ⟨y, List.mem_cons_of_mem _ hy, hxy⟩

namespace Document

/-! ## Chains of expansions -/

/-- The groups that are in progress where a task is met in the emission of a package, the innermost
first. -/
inductive InProgress (d : Document) (package : String) : List Group → Stacks → Task → Prop
  | definition {schema : Schema} {xmlName : String} {definition : Definition}
      {documentation : Option String} {k : Stacks} {task : Task} :
      schema ∈ d.schemasIn package → schema.Declares xmlName definition →
      draft (.ofDocument d) (some package) {} xmlName definition = .record documentation k task →
      InProgress d package [] k task
  | part {groups : List Group} {k k' : Stacks} {task task' : Task} :
      InProgress d package groups k task → Subtask (.ofDocument d) k task k' task' →
      k'.groups = k.groups → InProgress d package groups k' task'
  | record {groups : List Group} {k k' : Stacks} {task task' : Task} {name : String}
      {documentation : Option String} : InProgress d package groups k task →
      Anonymous (.ofDocument d) (some package) k task name (.record documentation k' task') →
      InProgress d package groups k' task'
  | group {groups : List Group} {k k' : Stacks} {parent reference : String} {g : Group}
      {task' : Task} : InProgress d package groups k (.group parent reference) →
      (Resolver.ofDocument d).group? reference = some g →
      Subtask (.ofDocument d) k (.group parent reference) k' task' →
      InProgress d package (g :: groups) k' task'

variable {d : Document} {package : String}

/-- Entering a group puts its name on the stack. -/
theorem group_entered {r : Resolver} {k k' : Stacks} {parent reference : String} {task' : Task}
    (h : Subtask r k (.group parent reference) k' task') :
    Naming.localName reference ∉ k.groups ∧ k' = k.inGroup (Naming.localName reference) := by
  cases h with
  | groupElement _ hopen _ | groupReference _ hopen _ => exact ⟨hopen, rfl⟩

/-- Only a group is entered by what is inside it. -/
theorem subtask_groups {r : Resolver} {k k' : Stacks} {task task' : Task}
    (h : Subtask r k task k' task') :
    k'.groups = k.groups ∨
      ∃ parent reference g, task = .group parent reference ∧ r.group? reference = some g := by
  cases h with
  | groupElement hg _ _ | groupReference hg _ _ => exact .inr ⟨_, _, _, rfl, hg⟩
  | element | group | attributes | base | attributeGroup => exact .inl rfl

theorem InProgress.within {groups : List Group} {k k' : Stacks} {task task' : Task}
    (h : d.InProgress package groups k task) (hwithin : Within (.ofDocument d) k task k' task') :
    ∃ groups', d.InProgress package groups' k' task' := by
  induction hwithin with
  | refl => exact ⟨groups, h⟩
  | step _ hsub ih =>
      obtain ⟨groups', h⟩ := ih
      obtain hsame | ⟨parent, reference, g, rfl, hg⟩ := subtask_groups hsub
      · exact ⟨groups', h.part hsub hsame⟩
      · exact ⟨g :: groups', h.group hg hsub⟩

/-- Chains lead to all that is done for what a package asks for, and to nothing else. -/
theorem inProgress_iff {k : Stacks} {task : Task} :
    (∃ groups, d.InProgress package groups k task) ↔
      ∃ name documentation k₀ task₀, d.Asks package name (.record documentation k₀ task₀) ∧
        Within (.ofDocument d) k₀ task₀ k task := by
  constructor
  · rintro ⟨groups, h⟩
    induction h with
    | definition hschema hdeclares hdraft =>
        have hasks := Asks.definition hschema hdeclares (by rw [hdraft]; nofun)
        rw [hdraft] at hasks
        exact ⟨_, _, _, _, hasks, .refl⟩
    | part _ hsub _ ih =>
        obtain ⟨name, documentation, k₀, task₀, hasks, hwithin⟩ := ih
        exact ⟨name, documentation, k₀, task₀, hasks, hwithin.step hsub⟩
    | record _ hanonymous ih =>
        obtain ⟨name, documentation, k₀, task₀, hasks, hwithin⟩ := ih
        exact ⟨_, _, _, _, hasks.anonymous hwithin hanonymous, .refl⟩
    | group _ _ hsub ih =>
        obtain ⟨name, documentation, k₀, task₀, hasks, hwithin⟩ := ih
        exact ⟨name, documentation, k₀, task₀, hasks, hwithin.step hsub⟩
  · rintro ⟨name, documentation, k₀, task₀, hasks, hinside⟩
    generalize hfound : Draft.record documentation k₀ task₀ = found at hasks
    induction hasks generalizing documentation k₀ task₀ k task with
    | definition hschema hdeclares _ =>
        exact InProgress.within (.definition hschema hdeclares hfound.symm) hinside
    | anonymous _ houter hanonymous ih =>
        obtain ⟨groups, h⟩ := ih _ _ _ houter rfl
        subst hfound
        exact (h.record hanonymous).within hinside

namespace InProgress

variable {groups : List Group} {k : Stacks} {task : Task}

theorem standsIn (h : d.InProgress package groups k task) : task.StandsIn d := by
  obtain ⟨name, documentation, k₀, task₀, hasks, hwithin⟩ := inProgress_iff.mp ⟨groups, h⟩
  exact hwithin.standsIn hasks.standsIn

/-- The stack has the local names of references that found the groups in progress, and no name
twice. -/
theorem stack (h : d.InProgress package groups k task) :
    k.groups.Nodup ∧
      List.Forall₂ (fun g name => ∃ reference ∈ d.groupReferences,
        (Resolver.ofDocument d).group? reference = some g ∧ name = Naming.localName reference)
        groups k.groups := by
  induction h with
  | definition _ _ hdraft =>
      rw [draft_groups hdraft]
      exact ⟨List.nodup_nil, .nil⟩
  | part _ _ hsame ih => rwa [hsame]
  | record _ hanonymous ih =>
      cases hanonymous with
      | complexType => exact ih
  | group h hg hsub ih =>
      obtain ⟨hopen, rfl⟩ := group_entered hsub
      exact ⟨List.nodup_cons.mpr ⟨hopen, ih.1⟩, .cons ⟨_, h.standsIn, hg, rfl⟩ ih.2⟩

/-- What is in progress has something inside. -/
theorem nonempty (h : d.InProgress package groups k task) {g : Group} (hg : g ∈ groups) :
    g.elements ≠ [] ∨ g.groups ≠ [] := by
  induction h with
  | definition => cases hg
  | part _ _ _ ih | record _ _ ih => exact ih hg
  | group _ hfound hsub ih =>
      obtain rfl | hg := List.mem_cons.mp hg
      · cases hsub with
        | groupElement hfound' _ he =>
            cases hfound.symm.trans hfound'
            exact .inl (List.ne_nil_of_mem he)
        | groupReference hfound' _ hnested =>
            cases hfound.symm.trans hfound'
            exact .inr (List.ne_nil_of_mem hnested)
      · exact ih hg

end InProgress

/-- Every reference that finds a group in progress is by a name on the stack. -/
def GroupsGuarded (d : Document) (package : String) : Prop :=
  ∀ groups k parent reference g, d.InProgress package groups k (.group parent reference) →
    (Resolver.ofDocument d).group? reference = some g → g ∈ groups →
    Naming.localName reference ∈ k.groups

theorem groupsGuarded_iff :
    d.GroupsGuarded package ↔
      ∀ groups k task, d.InProgress package groups k task → groups.Nodup := by
  constructor
  · intro hguarded groups k task h
    induction h with
    | definition => exact List.nodup_nil
    | part _ _ _ ih | record _ _ ih => exact ih
    | group h hg hsub ih =>
        refine List.nodup_cons.mpr ⟨fun hmem => ?_, ih⟩
        exact (group_entered hsub).1 (hguarded _ _ _ _ _ h hg hmem)
  · intro hnodup groups k parent reference g h hg hmem
    by_contra hopen
    -- The group would be entered once more, as it is not empty.
    have hagain {k' : Stacks} {task' : Task}
        (hsub : Subtask (.ofDocument d) k (.group parent reference) k' task') : False :=
      (List.nodup_cons.mp (hnodup _ _ _ (h.group hg hsub))).1 hmem
    obtain helements | hgroups := h.nonempty hmem
    · obtain ⟨e, he⟩ := List.exists_mem_of_ne_nil _ helements
      exact hagain (.groupElement hg hopen he)
    · obtain ⟨nested, hnested⟩ := List.exists_mem_of_ne_nil _ hgroups
      exact hagain (.groupReference hg hopen hnested)

/-- References that find the same group have the same local name, as they are written. -/
def GroupsSpelledAlike (d : Document) : Prop :=
  ∀ reference ∈ d.groupReferences, ∀ other ∈ d.groupReferences, ∀ g,
    (Resolver.ofDocument d).group? reference = some g →
    (Resolver.ofDocument d).group? other = some g →
    Naming.localName reference = Naming.localName other

theorem GroupsSpelledAlike.guarded (h : d.GroupsSpelledAlike) (package : String) :
    d.GroupsGuarded package := by
  intro groups k parent reference g hprogress hg hmem
  obtain ⟨name, hname, other, hother, hfound, rfl⟩ := forall₂_mem hprogress.stack.2 hmem
  exact h reference hprogress.standsIn other hother g hg hfound ▸ hname

/-! ## The tree of groups -/

/-- The elements of the groups that references lead to, each with the key of its group. -/
def groupElements (d : Document) (path references : List String) : List (String × Element) :=
  (foundAlong Group.name d.groups (·.groups) path references).flatMap fun found =>
    found.2.elements.map (found.1, ·)

/-- A group is expanded to its own elements and those of the groups inside it. -/
theorem groupElements_eq (d : Document) (path references : List String) :
    d.groupElements path references = references.flatMap fun reference =>
      if referenceKey reference ∈ path then []
      else (firstFound Group.name d.groups reference).elim [] fun g =>
        g.elements.map (referenceKey reference, ·) ++
          d.groupElements (referenceKey reference :: path) g.groups := by
  unfold groupElements
  exact foundAlong_flatMap _

/-- A group that is referred to has its elements there once, however it refers to itself. -/
theorem groupElements_own {path : List String} {reference : String} {g : Group}
    (hopen : referenceKey reference ∉ path)
    (hg : firstFound Group.name d.groups reference = some g) :
    ((d.groupElements path [reference]).filter (·.1 = referenceKey reference)).map (·.2) =
      g.elements := by
  have hinside : (d.groupElements (referenceKey reference :: path) g.groups).filter
      (·.1 = referenceKey reference) = [] := by
    refine List.filter_eq_nil_iff.mpr fun entry hentry hkey => ?_
    obtain ⟨found, hfound, hentry⟩ := List.mem_flatMap.mp hentry
    obtain ⟨e, -, rfl⟩ := List.mem_map.mp hentry
    exact foundAlong_outside hfound (of_decide_eq_true hkey ▸ List.mem_cons_self)
  rw [groupElements_eq, List.flatMap_singleton, if_neg hopen, hg, Option.elim_some,
    List.filter_append, hinside, List.append_nil, List.filter_map]
  simp [Function.comp_def]

end Document

namespace Emission

theorem Within.head {r : Resolver} {k k' k'' : Stacks} {task task' task'' : Task}
    (hsub : Subtask r k task k' task') (h : Within r k' task' k'' task'') :
    Within r k task k'' task'' := by
  induction h with
  | refl => exact .step .refl hsub
  | step _ hstep ih => exact ih.step hstep

/-- The keys of the groups in progress, by their names on the stack. -/
def Stacks.groupKeys (k : Stacks) : List String := k.groups.map Text.lowercaseText

/-- For the record at hand, no reference within a task finds a group that is in progress unless its
name is on the stack. -/
def GroupsSeen (r : Resolver) (k : Stacks) (task : Task) : Prop :=
  ∀ k' parent reference, Within r k task k' (.group parent reference) →
    (r.group? reference).isSome → referenceKey reference ∈ k'.groupKeys →
    Naming.localName reference ∈ k'.groups

theorem GroupsSeen.inside {r : Resolver} {k k' : Stacks} {task task' : Task}
    (h : GroupsSeen r k task) (hsub : Subtask r k task k' task') : GroupsSeen r k' task' :=
  fun k'' parent reference hwithin => h k'' parent reference (hwithin.head hsub)

section Scripts

variable {r : Resolver} {scripts : Scripting} {k : Stacks} {parent reference : String}

theorem groupScript_passed (h : Naming.localName reference ∈ k.groups) :
    groupScript r scripts k parent reference = .done :=
  if_pos (List.contains_iff_mem.mpr h)

theorem groupScript_unknown (h : r.group? reference = none) :
    groupScript r scripts k parent reference = .done := by
  unfold groupScript
  rw [h]
  exact ite_self _

theorem groupScript_entered {g : Group} (hopen : Naming.localName reference ∉ k.groups)
    (hg : r.group? reference = some g) :
    groupScript r scripts k parent reference =
      .each g.elements
          (fun e => scripts (k.inGroup (Naming.localName reference)) (.element parent e)) ++
        .each g.groups fun nested =>
          scripts (k.inGroup (Naming.localName reference)) (.group parent nested) := by
  unfold groupScript
  rw [hg]
  exact if_neg (mt List.contains_iff_mem.mp hopen)

end Scripts

theorem script_element_contents {r : Resolver} {package : Option String} {depth : Nat} {k : Stacks}
    {parent : String} {e : Element}
    (hwhole : (script r package depth k (.element parent e)).whole) :
    (script r package depth k (.element parent e)).contents =
      (elementField? r package parent e).toList := by
  cases depth with
  | zero => exact absurd hwhole id
  | succ depth => exact elementScript_contents _ k e

theorem script_elements_contents {r : Resolver} {package : Option String} {depth : Nat} {k : Stacks}
    {parent : String} {es : List Element}
    (hwhole : ∀ e ∈ es, (script r package depth k (.element parent e)).whole) :
    (Script.each es fun e => script r package depth k (.element parent e)).contents =
      es.filterMap (elementField? r package parent) := by
  rw [Script.contents_each, List.filterMap_eq_flatMap_toList]
  exact List.flatMap_congr fun e he => script_element_contents (hwhole e he)

/-- A group that is entered has the fields of its own elements, and then those of its references. -/
theorem script_group_contents {r : Resolver} {package : Option String} {depth : Nat} {k : Stacks}
    {parent reference : String} {g : Group} (hopen : Naming.localName reference ∉ k.groups)
    (hg : r.group? reference = some g)
    (hwhole : (script r package (depth + 1) k (.group parent reference)).whole) :
    let inner := k.inGroup (Naming.localName reference)
    (∀ nested ∈ g.groups, (script r package depth inner (.group parent nested)).whole) ∧
    (script r package (depth + 1) k (.group parent reference)).contents =
      g.elements.filterMap (elementField? r package parent) ++
        (Script.each g.groups fun nested =>
          script r package depth inner (.group parent nested)).contents := by
  intro inner
  have hinside {task : Task} (hsub : Subtask r k (.group parent reference) inner task) :
      (script r package depth inner task).whole := (Subtask.contains hsub).whole hwhole
  refine ⟨fun nested hnested => hinside (.groupReference hg hopen hnested), ?_⟩
  have helements := script_elements_contents fun e he => hinside (.groupElement hg hopen he)
  have hentered : script r package (depth + 1) k (.group parent reference) = _ :=
    groupScript_entered hopen hg
  rw [hentered, Script.contents_append, helements]

/-- References to groups are expanded as the tree, as long as the guard sees the groups in
progress. -/
theorem script_groups_contents (d : Document) (package : Option String) (parent : String)
    {depth : Nat} {k : Stacks} {references : List String}
    (hseen : ∀ reference ∈ references, GroupsSeen (.ofDocument d) k (.group parent reference))
    (hwhole : ∀ reference ∈ references,
      (script (.ofDocument d) package depth k (.group parent reference)).whole) :
    (Script.each references fun reference =>
        script (.ofDocument d) package depth k (.group parent reference)).contents =
      (d.groupElements k.groupKeys references).filterMap
        fun entry => elementField? (.ofDocument d) package parent entry.2 := by
  induction depth generalizing k references with
  | zero =>
      cases references with
      | nil => rw [Document.groupElements_eq]; rfl
      | cons reference _ => exact absurd (hwhole reference List.mem_cons_self) id
  | succ depth ih =>
      rw [Script.contents_each, Document.groupElements_eq, List.filterMap_flatMap]
      refine List.flatMap_congr fun reference hreference => ?_
      have hguard := hseen reference hreference k parent reference .refl
      have hgroup := Resolver.group?_first d reference
      by_cases hname : Naming.localName reference ∈ k.groups
      · have hkey : referenceKey reference ∈ k.groupKeys := List.mem_map_of_mem hname
        rw [script, stepScript, groupScript_passed hname, if_pos hkey]
        rfl
      · cases hfound : firstFound Group.name d.groups reference with
        | none =>
            rw [hfound] at hgroup
            rw [script, stepScript, groupScript_unknown hgroup]
            split <;> rfl
        | some g =>
            rw [hfound] at hgroup
            have hkey : referenceKey reference ∉ k.groupKeys :=
              mt (hguard (by rw [hgroup]; rfl)) hname
            obtain ⟨hinside, hcontents⟩ := script_group_contents hname hgroup
              (hwhole reference hreference)
            have hnested := ih (k := k.inGroup (Naming.localName reference))
              (fun nested hnested =>
                (hseen reference hreference).inside (.groupReference hgroup hname hnested)) hinside
            rw [hcontents, hnested, if_neg hkey, Option.elim_some, List.filterMap_append,
              List.filterMap_map]
            rfl

end Emission

namespace Document

variable {d : Document} {package : String}

/-- A key on the stack belongs to a group in progress. -/
theorem InProgress.found {groups : List Group} {k : Stacks} {task : Task}
    (h : d.InProgress package groups k task) {reference : String} {g : Group}
    (hg : (Resolver.ofDocument d).group? reference = some g)
    (hkey : referenceKey reference ∈ k.groupKeys) : g ∈ groups := by
  obtain ⟨name, hname, hkey⟩ := List.mem_map.mp hkey
  obtain ⟨other, hother, reference', -, hfound, rfl⟩ := forall₂_mem h.stack.2.flip hname
  rw [Resolver.group?_first] at hg hfound
  have hsame := (firstFound_same hfound).mpr hkey.symm
  cases hg.symm.trans hsame
  exact hother

/-- If all references to groups in progress are by names on the stack, the guard sees them. -/
theorem GroupsGuarded.seen (hguarded : d.GroupsGuarded package) {groups : List Group} {k : Stacks}
    {task : Task} (h : d.InProgress package groups k task) : GroupsSeen (.ofDocument d) k task := by
  intro k' parent reference hwithin hfound hkey
  obtain ⟨groups', h'⟩ := h.within hwithin
  obtain ⟨g, hg⟩ := Option.isSome_iff_exists.mp hfound
  exact hguarded _ _ _ _ _ h' hg (h'.found hg hkey)

/-- **A group is expanded once at a time**, exactly if every reference that finds a group in
progress is spelled like one on the stack.  The chains of expansions are those of all that the
package asks for, and no name is on the stack twice; references that find the same group may simply
be spelled alike throughout.  Then a reference from inside a group adds nothing, and a reference
from outside adds the elements of the tree of groups, where the group's own elements stand once. -/
theorem groups_expanded_once (d : Document) (package : String) :
    let r := Resolver.ofDocument d
    (∀ k task, (∃ groups, d.InProgress package groups k task) ↔
      ∃ name documentation k₀ task₀, d.Asks package name (.record documentation k₀ task₀) ∧
        Within r k₀ task₀ k task) ∧
    (∀ groups k task, d.InProgress package groups k task →
      k.groups.Nodup ∧ List.Forall₂ (fun g name => ∃ reference ∈ d.groupReferences,
        r.group? reference = some g ∧ name = Naming.localName reference) groups k.groups) ∧
    (d.GroupsGuarded package ↔
      ∀ groups k task, d.InProgress package groups k task → groups.Nodup) ∧
    (d.GroupsSpelledAlike → d.GroupsGuarded package) ∧
    (d.GroupsGuarded package →
      ∀ groups k parent reference g, d.InProgress package groups k (.group parent reference) →
        r.group? reference = some g →
        ∀ s : Emission, s.context.package = some package → s.toStacks = k → ∀ fs,
          let tree := d.groupElements k.groupKeys [reference]
          let expanded := (expand r d.expansionBound (.group parent reference) fs).run s
          (g ∈ groups → expanded = (fs, s)) ∧
          (g ∉ groups →
            expanded.1.contents = fs.contents ++
              tree.filterMap (fun entry => elementField? r (some package) parent entry.2) ∧
            (tree.filter (·.1 = referenceKey reference)).map (·.2) = g.elements)) := by
  intro r
  refine ⟨fun k task => inProgress_iff, fun groups k task h => h.stack, groupsGuarded_iff,
    fun halike => halike.guarded package, ?_⟩
  intro hguarded groups k parent reference g h hg s hpackage hk fs tree expanded
  have hexpanded : expanded = _ :=
    expand_does r (some package) d.expansionBound k (.group parent reference) fs s hpackage hk
  refine ⟨fun hmem => ?_, fun hmem => ?_⟩
  · obtain ⟨depth, hdepth⟩ := expansionBound_succ d
    have hpassed : script r (some package) d.expansionBound k (.group parent reference) =
        .done := by
      rw [hdepth]
      exact groupScript_passed (hguarded _ _ _ _ _ h hg hmem)
    rw [hexpanded, hpassed]
    rfl
  · have hseen := hguarded.seen h
    have hscript : _ = (d.groupElements k.groupKeys [reference]).filterMap _ :=
      script_groups_contents d (some package) parent (by simpa using hseen)
        (by simpa using standsIn_whole package k h.standsIn)
    rw [Script.each_cons, Script.each_nil, Script.append_done] at hscript
    refine ⟨?_, groupElements_own (fun hkey => hmem (h.found hg hkey))
      ((Resolver.group?_first d reference).symm.trans hg)⟩
    rw [hexpanded, Script.fields_contents ?_, hscript]
    intro content hcontent
    rw [hscript] at hcontent
    obtain ⟨entry, -, hentry⟩ := List.mem_filterMap.mp hcontent
    exact elementField?_isText hentry

/-- A group with one element that goes on to others. -/
def chainGroup (name element : String) (groups : List String) : Group where
  name := some name
  elements := [{ name := some element, type := some "string" }]
  groups := groups

def chainType (reference : String) : ComplexType where
  name := some "Chain"
  groups := [reference]

def chainDocument (reference : String) (groups : List Group) : Document where
  kind := .xsd
  location := none
  rootPackage := basePackage
  definitions := {
    schemas := [{
      identifier := basePackage
      complexTypes := [chainType reference]
      groups := groups }] }
  registry := {}

/-- The type of the document refers to a group from outside. -/
theorem chainType_reference (reference : String) (groups : List Group) :
    (chainDocument reference groups).InProgress basePackage [] (Stacks.inRecord {} "Chain")
      (.group "Chain" reference) := by
  have htype : (chainDocument reference groups).InProgress basePackage []
      (Stacks.inRecord {} "Chain") (.content "Chain" (chainType reference)) :=
    @InProgress.definition _ _ _ "Chain" (.complexType (chainType reference)) _ _ _
      List.mem_cons_self (.complexType List.mem_cons_self rfl) rfl
  exact htype.part (.group (List.mem_append_right _ List.mem_cons_self)) rfl

/-- Two groups in a circle, which are always referred to by their names. -/
def circularGroups : Document :=
  chainDocument "t:Outer"
    [chainGroup "Outer" "a" ["Inner", "Outer"], chainGroup "Inner" "b" ["Outer"]]

theorem groups_expanded_once_circle :
    circularGroups.GroupsGuarded basePackage ∧
      (((expand (.ofDocument circularGroups) circularGroups.expansionBound
          (.group "Chain" "t:Outer") {}).run (Emission.withStacks
            { context := { package := some basePackage } }
            (Stacks.inRecord {} "Chain"))).1.contents.map
        (·.name?)) = [some "a", some "b"] := by
  obtain ⟨-, -, -, halike, honce⟩ := groups_expanded_once circularGroups basePackage
  have hkeys : ∀ reference ∈ circularGroups.groupReferences,
      ∀ other ∈ circularGroups.groupReferences, referenceKey other = referenceKey reference →
        Naming.localName reference = Naming.localName other := by
    decide +kernel
  have hguarded := halike fun reference hreference other hother g hg hg' => by
    rw [Resolver.group?_first] at hg hg'
    exact hkeys reference hreference other hother ((firstFound_same hg).mp hg')
  refine ⟨hguarded, ?_⟩
  obtain ⟨-, houtside⟩ := honce hguarded _ _ _ _ _ (chainType_reference "t:Outer" _) rfl
    (Emission.withStacks { context := { package := some basePackage } }
      (Stacks.inRecord {} "Chain"))
    rfl rfl {}
  rw [(houtside List.not_mem_nil).1]
  decide +kernel

/-- A group that refers to itself in small letters. -/
def disguisedGroup : Document := chainDocument "Outer" [chainGroup "Outer" "a" ["outer"]]

/-- A group can be expanded inside itself, and its elements become fields twice. -/
theorem group_inside_itself :
    (∃ groups k task, disguisedGroup.InProgress basePackage groups k task ∧ ¬groups.Nodup) ∧
      (disguisedGroup.expansion basePackage (Stacks.inRecord {} "Chain")
        (.content "Chain" (chainType "Outer"))).fields.map (·.ident) = ["a", "a2"] := by
  refine ⟨?_, by decide +kernel⟩
  let g := chainGroup "Outer" "a" ["outer"]
  have houter : disguisedGroup.InProgress basePackage [] _ _ := chainType_reference "Outer" [g]
  have hinner := houter.group (g := g) rfl
    (@Subtask.groupReference _ _ "Chain" "Outer" "outer" g rfl List.not_mem_nil List.mem_cons_self)
  have htwice := hinner.group (g := g) rfl
    (.groupElement rfl (by decide +kernel) List.mem_cons_self)
  exact ⟨_, _, _, htwice, by simp⟩

end Document

end SoapBindings
