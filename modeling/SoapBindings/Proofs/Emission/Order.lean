/-
# `SoapBindings.Proofs.Emission.Order` — what the order of declarations decides

A package asks for the same definitions in whatever order a document has its complex types, and by
itself each of them comes to the same fields.  The order only decides who asks first for a name.
That matters where a name is asked for with different stacks: what is being expanded is taken from
an anonymous type as from a record of its own, but for the groups around it, and a group is not
expanded inside itself.

So the order is of no account where no record refers to a group that is being expanded around it, as
in a document whose groups have no anonymous complex types (`GroupsFlat.clear`).  Where one does,
the first to ask for it may come from within that group, and then the fields of the group are
missing for good: `fields_ordered` has a record that is empty in the one order only.
-/
import SoapBindings.Proofs.Emission.Origins
import SoapBindings.Proofs.Reordering

namespace SoapBindings

open Xsd

open Emission

/-! ## Resolvers that find the same -/

namespace Resolver.Agree

variable {r r' : Resolver} (h : r.Agree r') {package : Option String}

include h

theorem synonymOf (name : String) (t : SimpleType) (documentation : Option String) :
    synonymOf r package name t documentation = synonymOf r' package name t documentation := by
  simp only [Emission.synonymOf, restrictedType, h.resolveType]

theorem stepScript (scripts : Scripting) (k : Stacks) (task : Task) :
    stepScript r package scripts k task = stepScript r' package scripts k task := by
  cases task with
  | content parent t =>
      have hcomplex : complexContentScript r scripts k parent =
          complexContentScript r' scripts k parent :=
        funext fun d => by simp only [complexContentScript, h.baseType?]
      have hsimple : simpleContentScript r package scripts k parent =
          simpleContentScript r' package scripts k parent :=
        funext fun d => by simp only [simpleContentScript, textScript, h.baseType?, h.resolveType]
      simp only [Emission.stepScript, contentScript, hcomplex, hsimple]
  | element parent e =>
      simp only [Emission.stepScript, elementScript, elementTypeScript, synonymScript, h.resolve,
        h.resolveElement, h.synonymOf]
  | group parent reference => simp only [Emission.stepScript, groupScript, h.group?]
  | attributes parent attributes groups =>
      have hattribute : attributeScript r package parent = attributeScript r' package parent :=
        funext fun a => by
          simp only [attributeScript, attributeTypeScript, synonymScript, h.resolveType,
            h.synonymOf]
      have hgroup : attributeGroupScript r scripts k parent =
          attributeGroupScript r' scripts k parent :=
        funext fun reference => by simp only [attributeGroupScript, h.attributeGroup?]
      simp only [Emission.stepScript, hattribute, hgroup]

theorem script (depth : Nat) : script r package depth = script r' package depth := by
  induction depth with
  | zero => rfl
  | succ depth ih =>
      funext k task
      simp only [Emission.script, ih, h.stepScript]

theorem draft (k : Stacks) (xmlName : String) (definition : Definition) :
    draft r package k xmlName definition = draft r' package k xmlName definition := by
  cases definition with
  | simpleType t => simp only [Emission.draft, h.synonymOf]
  | complexType t | attributeGroup g => rfl
  | element e =>
      simp only [Emission.draft, elementDraft, typedDraft, isCovered, h.resolve, h.complexType?,
        h.synonymOf]

theorem subtask {k k' : Stacks} {task task' : Task} (hsub : Subtask r k task k' task') :
    Subtask r' k task k' task' := by
  cases hsub with
  | element he => exact .element he
  | group hreference => exact .group hreference
  | attributes hpart => exact .attributes hpart
  | base hd hkind hbase hopen => exact .base hd hkind (h.baseType? ▸ hbase) hopen
  | groupElement hg hopen he => exact .groupElement (h.group? _ ▸ hg) hopen he
  | groupReference hg hopen hnested => exact .groupReference (h.group? _ ▸ hg) hopen hnested
  | attributeGroup hreference hg hopen =>
      exact .attributeGroup hreference (h.attributeGroup? _ ▸ hg) hopen

theorem within {k k' : Stacks} {task task' : Task} (hwithin : Within r k task k' task') :
    Within r' k task k' task' := by
  induction hwithin with
  | refl => exact .refl
  | step _ hsub ih => exact .step ih (h.subtask hsub)

theorem anonymous {k : Stacks} {task : Task} {name : String} {found : Draft}
    (hanonymous : Anonymous r package k task name found) :
    Anonymous r' package k task name found := by
  cases hanonymous with
  | complexType href hname htype ht => exact .complexType href hname htype ht
  | simpleType href hname htype hcomplex ht =>
      rw [h.synonymOf]
      exact .simpleType href hname htype hcomplex ht
  | attributeType ha hname htype ht =>
      rw [h.synonymOf]
      exact .attributeType ha hname htype ht

end Resolver.Agree

namespace Document

namespace Reordered

variable {d d' : Document} {package : String} (h : d.Reordered d') (hkeys : d.KeysApart)

include h hkeys

/-- What is asked for does not depend on the order. -/
theorem asks {name : String} {found : Draft} (hasks : d.Asks package name found) :
    d'.Asks package name found := by
  have hagree := h.resolves hkeys
  induction hasks with
  | definition hschema hdeclares hdraft =>
      obtain ⟨schema', hschema', hreordered⟩ := h.schemasIn hschema
      rw [hagree.draft] at hdraft ⊢
      exact .definition hschema' (hreordered.declares hdeclares) hdraft
  | anonymous _ hwithin hanonymous ih =>
      exact ih.anonymous (hagree.within hwithin) (hagree.anonymous hanonymous)

theorem draftFields? (found : Draft) :
    d.draftFields? package found = d'.draftFields? package found := by
  cases found with
  | skip | synonym _ | plain _ _ => rfl
  | record documentation k task =>
      simp only [Document.draftFields?, expansion_eq, (h.resolves hkeys).script, h.expansionBound]

theorem namesSettled (hsettled : d.NamesSettled package) : d'.NamesSettled package := by
  intro name found found' hasks hasks'
  have hback := h.symm
  have hkeys' := h.keysApart hkeys
  rw [← h.draftFields? hkeys, ← h.draftFields? hkeys]
  exact hsettled name found found' (hback.asks hkeys' hasks) (hback.asks hkeys' hasks')

/-- What the one document declares, the other declares with the same fields. -/
theorem declared (hsettled : d.NamesSettled package) {declaration : Code.Declaration}
    (hmem : declaration ∈ d.declarations package) :
    ∃ declaration' ∈ d'.declarations package, declaration'.name = declaration.name ∧
      declaration'.fields? = declaration.fields? := by
  obtain ⟨found, hasks, hfields⟩ := declaration_asked hmem
  have hasks' := h.asks hkeys hasks
  have hsettled' := h.namesSettled hkeys hsettled
  obtain ⟨declaration', hmem', hname⟩ := List.mem_map.mp (hasks'.declared hsettled')
  obtain ⟨found', hother, hfields'⟩ := declaration_asked hmem'
  rw [hname] at hother
  refine ⟨declaration', hmem', hname, ?_⟩
  rw [← hfields', ← hfields, h.draftFields? hkeys]
  exact hsettled' _ _ _ hother hasks'

end Reordered

end Document

/-! ## Groups that are being expanded -/

namespace Emission

/-- The stacks with more groups being expanded around. -/
def Stacks.around (k : Stacks) (outer : List String) : Stacks :=
  { k with groups := k.groups ++ outer }

/-- The task is no reference to one of these groups. -/
def Task.Outside (groups : List String) : Task → Prop
  | .group _ reference => Naming.localName reference ∉ groups
  | .content _ _ | .element _ _ | .attributes _ _ _ => True

section Around

variable {r : Resolver} {package : Option String} {outer : List String} {k k' : Stacks}
  {task task' : Task}

/-- Beside the groups that it refers to, a task does not look at what is being expanded around. -/
theorem stepScript_around (scripts : Scripting) (h : task.Outside outer) :
    stepScript r package scripts (k.around outer) task =
      stepScript r package (fun k task => scripts (k.around outer) task) k task := by
  cases task with
  | content parent t =>
      simp only [stepScript, contentScript]
      unfold complexContentScript simpleContentScript additionScript inlineScript
      rfl
  | element parent e | attributes parent attributes groups => rfl
  | group parent reference =>
      have hcontains : (k.groups ++ outer).contains (Naming.localName reference) =
          k.groups.contains (Naming.localName reference) := by
        rw [List.contains_append, List.contains_eq_mem _ outer, decide_eq_false h, Bool.or_false]
      simp only [stepScript, groupScript, Stacks.around, hcontains]
      rfl

theorem Subtask.around (hsub : Subtask r k task k' task') (h : task.Outside outer) :
    Subtask r (k.around outer) task (k'.around outer) task' := by
  have hopen {name : String} (hinner : name ∉ k.groups) (houter : name ∉ outer) :
      name ∉ (k.around outer).groups :=
    fun hmem => (List.mem_append.mp hmem).elim hinner houter
  cases hsub with
  | element he => exact .element he
  | group hreference => exact .group hreference
  | attributes hpart => exact .attributes hpart
  | base hd hkind hbase hopen => exact .base hd hkind hbase hopen
  | groupElement hg hinner he => exact .groupElement hg (hopen hinner h) he
  | groupReference hg hinner hnested => exact .groupReference hg (hopen hinner h) hnested
  | attributeGroup hreference hg hopen => exact .attributeGroup hreference hg hopen

/-- What is being expanded around a task is being expanded around all that is in it. -/
theorem Within.groups_subset (h : Within r k task k' task') : k.groups ⊆ k'.groups := by
  induction h with
  | refl => exact List.Subset.refl _
  | step _ hsub ih =>
      cases hsub with
      | groupElement | groupReference => exact List.subset_cons_of_subset _ ih
      | element | group | attributes | base | attributeGroup => exact ih

/-- No reference to one of these groups is met in a task. -/
def Clear (r : Resolver) (groups : List String) (k : Stacks) (task : Task) : Prop :=
  ∀ k' task', Within r k task k' task' → task'.Outside groups

theorem Clear.inside (h : Clear r outer k task) (hsub : Subtask r k task k' task') :
    Clear r outer k' task' := by
  intro k'' task'' hwithin
  refine h k'' task'' ?_
  clear h
  induction hwithin with
  | refl => exact .step .refl hsub
  | step _ hstep ih => exact ih.step hstep

/-- Groups that a task does not refer to may be expanded around it. -/
theorem Clear.settles {depth : Nat} (h : Clear r outer (k.around outer) task) :
    Settles (script r package depth (k.around outer) task) (script r package depth k task) := by
  induction depth generalizing k task with
  | zero => exact fun hwhole => absurd hwhole id
  | succ depth ih =>
      have houtside : task.Outside outer := h _ _ .refl
      rw [script, stepScript_around _ houtside]
      exact Settles.step fun hsub => ih (h.inside (hsub.around houtside))

end Around

/-- A definition without the groups that are being expanded around it. -/
def Draft.outsideGroups : Draft → Draft
  | .record documentation k task => .record documentation { k with groups := [] } task
  | found => found

end Emission

namespace Document

/-- No two definitions are asked for under one name.  It is the same definition whatever groups are
being expanded around it. -/
def NamesApart (d : Document) (package : String) : Prop :=
  ∀ name found found', d.Asks package name found → d.Asks package name found' →
    found.outsideGroups = found'.outsideGroups

/-- No record refers to a group that is being expanded around it. -/
def GroupsClear (d : Document) (package : String) : Prop :=
  ∀ name documentation k task, d.Asks package name (.record documentation k task) →
    Clear (.ofDocument d) k.groups k task

variable {d d' : Document} {package : String}

/-- Then every definition comes to what it comes to outside of all groups. -/
theorem GroupsClear.outsideGroups (h : d.GroupsClear package) {name : String} {found : Draft}
    (hasks : d.Asks package name found) :
    d.draftFields? package found.outsideGroups = d.draftFields? package found := by
  cases found with
  | skip | synonym _ | plain _ _ => rfl
  | record documentation k task =>
      have hclear : Clear (.ofDocument d) k.groups ({ k with groups := [] }.around k.groups) task :=
        h _ _ _ _ hasks
      have hfields := (hclear.settles hasks.whole).2 {}
      simp only [Draft.outsideGroups, draftFields?, expansion_eq]
      exact congrArg (fun fs : Fields => some fs.fields) hfields

theorem NamesApart.settled (hnames : d.NamesApart package) (hgroups : d.GroupsClear package) :
    d.NamesSettled package := by
  intro name found found' hasks hasks'
  rw [← hgroups.outsideGroups hasks, ← hgroups.outsideGroups hasks',
    hnames name found found' hasks hasks']

/-- No element of a group has an anonymous complex type. -/
def GroupsFlat (d : Document) : Prop :=
  ∀ schema ∈ d.schemas, ∀ g ∈ schema.groups, ∀ e ∈ g.elements, e.complexType = none

/-- Then groups are only expanded around references to groups and around elements without such a
type. -/
theorem GroupsFlat.within (h : d.GroupsFlat) {k k' : Stacks} {task task' : Task}
    (hk : k.groups = []) (hwithin : Within (.ofDocument d) k task k' task') :
    k'.groups = [] ∨ (∃ parent reference, task' = .group parent reference) ∨
      ∃ parent e, task' = .element parent e ∧ e.complexType = none := by
  induction hwithin with
  | refl => exact .inl hk
  | step _ hsub ih =>
      cases hsub with
      | groupElement hg _ he =>
          obtain ⟨schema, hschema, hmem⟩ := Resolver.group?_mem hg
          exact .inr (.inr ⟨_, _, rfl, h schema hschema _ hmem _ he⟩)
      | groupReference => exact .inr (.inl ⟨_, _, rfl⟩)
      | element | group | attributes | base | attributeGroup =>
          exact .inl (ih.resolve_right (by simp))

theorem draft_groups {r : Resolver} {package : Option String} {k k' : Stacks} {xmlName : String}
    {definition : Definition} {documentation : Option String} {task : Task}
    (h : draft r package k xmlName definition = .record documentation k' task) :
    k'.groups = k.groups := by
  cases definition with
  | simpleType t => cases h
  | complexType t | attributeGroup g =>
      cases h
      rfl
  | element e =>
      simp only [draft, elementDraft] at h
      split at h
      · cases typed_of_eq h with
        | content => rfl
      · cases h
        rfl
      · cases h
      · cases h

theorem GroupsFlat.asks (h : d.GroupsFlat) {name : String} {documentation : Option String}
    {k : Stacks} {task : Task} (hasks : d.Asks package name (.record documentation k task)) :
    k.groups = [] := by
  generalize hfound : Draft.record documentation k task = found at hasks
  induction hasks generalizing documentation k task with
  | definition _ _ _ => exact draft_groups hfound.symm
  | anonymous _ hwithin hanonymous ih =>
      have hclear := h.within (ih rfl) hwithin
      cases hanonymous with
      | complexType _ _ _ ht =>
          cases hfound
          rw [Stacks.inRecord]
          simpa [ht] using hclear
      | simpleType | attributeType => cases hfound

theorem GroupsFlat.clear (h : d.GroupsFlat) : d.GroupsClear package := by
  intro name documentation k task hasks k' task' hwithin
  rw [h.asks hasks]
  cases task' with
  | group parent reference => exact List.not_mem_nil
  | content | element | attributes => trivial

/-! ## A group in two types -/

namespace Extras

/-- The type of an element of the group, which may extend another one. -/
def partType : Option String → ComplexType
  | none => { attributes := [{ name := some "no", type := some "int" }] }
  | some base => {
      complexContent := some {
        kind := .extension, base, attributes := [{ name := some "no", type := some "int" }] } }

def part (base : Option String) : Element :=
  { name := some "part", minOccurs := some "0", complexType := some (partType base) }

def packType : ComplexType where
  groups := ["Extras"]

def pack : Element where
  name := some "pack"
  complexType := some packType

def order : ComplexType where
  name := some "Order"
  groups := ["Extras"]

def item : ComplexType where
  name := some "Item"
  sequence := [pack]

end Extras

open Extras in
/-- Two types that take the elements of one group: the one itself,
the other in an anonymous type. -/
def extras (base : Option String) (types : List ComplexType) : Document where
  kind := .xsd
  location := none
  rootPackage := basePackage
  definitions := {
    schemas := [{
      identifier := basePackage
      complexTypes := types
      groups := [{ name := some "Extras", elements := [part base] }] }] }
  registry := {}

namespace Extras

variable {base : Option String} {types : List ComplexType}

/-- The types of the document, under the names that they are asked for. -/
def held (base : Option String) : List (String × ComplexType) :=
  [("Order", order), ("Item", item), ("ItemPack", packType), ("OrderPart", partType base),
    ("ItemPackPart", partType base)]

def heldElements (base : Option String) : List (String × Element) :=
  [("Item", pack), ("Order", part base), ("ItemPack", part base)]

/-- What is met in the types.  If the element of the group extends nothing, then no group is being
expanded but around the type of that element. -/
def Met (base : Option String) (k : Stacks) (task : Task) : Prop :=
  k.attributeGroups = [] ∧
    match task with
    | .content name t =>
      (name, t) ∈ held base ∧ (base = none → t.groups ≠ [] ∨ t.sequence ≠ [] → k.groups = [])
    | .element name e =>
      (name, e) ∈ heldElements base ∧ (base = none → name = "Item" → k.groups = [])
    | .group name reference =>
      (name = "Order" ∨ name = "ItemPack") ∧ reference = "Extras" ∧ (base = none → k.groups = [])
    | .attributes _ attributes groups => (∀ a ∈ attributes, a.simpleType = none) ∧ groups = []

section Held

variable {name : String} {t : ComplexType} (h : (name, t) ∈ held base)

include h

theorem held_cases :
    (name = "Order" ∧ t = order) ∨ (name = "Item" ∧ t = item) ∨ (name = "ItemPack" ∧ t = packType) ∨
      t = partType base := by
  simp only [held, List.mem_cons, Prod.mk.injEq, List.not_mem_nil, or_false] at h
  tauto

theorem held_inPlace {e : Element} (he : e ∈ t.inPlace) :
    name = "Item" ∧ e = pack ∧ t.sequence ≠ [] := by
  obtain ⟨rfl, rfl⟩ | ⟨rfl, rfl⟩ | ⟨rfl, rfl⟩ | rfl := held_cases h
  · cases he
  · exact ⟨rfl, List.mem_singleton.mp he, nofun⟩
  · cases he
  · cases base <;> cases he

theorem held_groups {reference : String} (hreference : reference ∈ t.groupReferences) :
    (name = "Order" ∨ name = "ItemPack") ∧ reference = "Extras" ∧ t.groups ≠ [] := by
  obtain ⟨rfl, rfl⟩ | ⟨rfl, rfl⟩ | ⟨rfl, rfl⟩ | rfl := held_cases h
  · exact ⟨.inl rfl, List.mem_singleton.mp hreference, nofun⟩
  · cases hreference
  · exact ⟨.inr rfl, List.mem_singleton.mp hreference, nofun⟩
  · cases base <;> cases hreference

theorem held_attributes {part : List Attribute × List String} (hpart : part ∈ t.attributeParts) :
    (∀ a ∈ part.1, a.simpleType = none) ∧ part.2 = [] := by
  obtain ⟨rfl, rfl⟩ | ⟨rfl, rfl⟩ | ⟨rfl, rfl⟩ | rfl := held_cases h
  · rw [List.mem_singleton.mp hpart]
    exact ⟨nofun, rfl⟩
  · rw [List.mem_singleton.mp hpart]
    exact ⟨nofun, rfl⟩
  · rw [List.mem_singleton.mp hpart]
    exact ⟨nofun, rfl⟩
  · have hparts : ∀ part ∈ (partType base).attributeParts,
        (∀ a ∈ part.1, a.simpleType = none) ∧ part.2 = [] := by
      cases base <;> simp [ComplexType.attributeParts, ComplexType.derivations, partType]
    exact hparts _ hpart

theorem held_derivations {d : Derivation} (hd : d ∈ t.derivations) : base ≠ none := by
  obtain ⟨rfl, rfl⟩ | ⟨rfl, rfl⟩ | ⟨rfl, rfl⟩ | rfl := held_cases h
  · cases hd
  · cases hd
  · cases hd
  · rintro rfl
    cases hd

theorem held_typeName : Naming.typeName name = name := by
  have hnames : ∀ name ∈ (held base).map (·.1), Naming.typeName name = name := by
    change ∀ name ∈ ["Order", "Item", "ItemPack", "OrderPart", "ItemPackPart"], _
    decide +kernel
  exact hnames name (List.mem_map_of_mem h)

end Held

theorem declared (htypes : types ⊆ [order, item]) {xmlName : String} {definition : Definition}
    {schema : Schema} (hschema : schema ∈ (extras base types).schemas)
    (h : schema.Declares xmlName definition) :
    ∃ t, definition = .complexType t ∧ (xmlName, t) ∈ held base ∧ t.documentation = none := by
  obtain rfl := List.mem_singleton.mp hschema
  cases h with
  | @complexType t _ ht hname =>
      refine ⟨t, rfl, ?_⟩
      have hmem := htypes ht
      simp only [List.mem_cons, List.not_mem_nil, or_false] at hmem
      obtain rfl | rfl := hmem <;> cases hname
      · exact ⟨List.mem_cons_self, rfl⟩
      · exact ⟨List.mem_cons_of_mem _ List.mem_cons_self, rfl⟩
  | element he => cases he
  | simpleType ht => cases ht
  | attributeGroup hg => cases hg

theorem Met.subtask {k k' : Stacks} {task task' : Task} (h : Met base k task)
    (htypes : types ⊆ [order, item])
    (hsub : Subtask (.ofDocument (extras base types)) k task k' task') : Met base k' task' := by
  obtain ⟨hattributes, h⟩ := h
  cases hsub with
  | element he =>
      obtain ⟨rfl, rfl, hsequence⟩ := held_inPlace h.1 he
      exact ⟨hattributes, List.mem_cons_self, fun hnone _ => h.2 hnone (.inr hsequence)⟩
  | group hreference =>
      obtain ⟨hname, rfl, hgroups⟩ := held_groups h.1 hreference
      exact ⟨hattributes, hname, rfl, fun hnone => h.2 hnone (.inl hgroups)⟩
  | attributes hpart => exact ⟨hattributes, held_attributes h.1 hpart⟩
  | base hd _ hbase _ =>
      obtain ⟨reference, -, hbase⟩ := Option.bind_eq_some_iff.mp hbase
      obtain ⟨s, hs, hname, hdefinition⟩ := Resolver.baseType?_mem hbase
      obtain ⟨schema, hschema, -, hdeclares⟩ := declares_of_mem hs
      obtain ⟨t, ht, hheld, -⟩ := declared htypes hschema hdeclares
      rw [hdefinition] at ht
      cases ht
      rw [hname] at hheld
      rw [held_typeName hheld]
      exact ⟨hattributes, hheld, fun hnone => absurd hnone (held_derivations h.1 hd)⟩
  | groupElement hg _ he =>
      obtain ⟨schema, hschema, hmem⟩ := Resolver.group?_mem hg
      obtain rfl := List.mem_singleton.mp hschema
      obtain rfl := List.mem_singleton.mp hmem
      obtain rfl := List.mem_singleton.mp he
      obtain ⟨rfl | rfl, -, -⟩ := h
      · exact ⟨hattributes, by simp [heldElements], nofun⟩
      · exact ⟨hattributes, by simp [heldElements], nofun⟩
  | groupReference hg _ hnested =>
      obtain ⟨schema, hschema, hmem⟩ := Resolver.group?_mem hg
      obtain rfl := List.mem_singleton.mp hschema
      obtain rfl := List.mem_singleton.mp hmem
      cases hnested
  | attributeGroup hreference hg hopen =>
      obtain ⟨-, rfl⟩ := h
      cases hreference

theorem Met.within {k k' : Stacks} {task task' : Task} (h : Met base k task)
    (htypes : types ⊆ [order, item])
    (hwithin : Within (.ofDocument (extras base types)) k task k' task') : Met base k' task' := by
  induction hwithin with
  | refl => exact h
  | step _ hsub ih => exact ih.subtask htypes hsub

theorem heldElements_anonymous {parent name : String} {e : Element} {t : ComplexType}
    (h : (parent, e) ∈ heldElements base) (hname : e.name = some name)
    (ht : e.complexType = some t) :
    (anonymousName parent name, t) ∈ held base ∧ t.documentation = none ∧
      (t.groups ≠ [] ∨ t.sequence ≠ [] → parent = "Item") := by
  have hnames : anonymousName "Item" "pack" = "ItemPack" ∧
      anonymousName "Order" "part" = "OrderPart" ∧
      anonymousName "ItemPack" "part" = "ItemPackPart" := by
    decide +kernel
  have hpart : (partType base).documentation = none ∧ (partType base).groups = [] ∧
      (partType base).sequence = [] := by
    cases base <;> exact ⟨rfl, rfl, rfl⟩
  simp only [heldElements, List.mem_cons, Prod.mk.injEq, List.not_mem_nil, or_false] at h
  obtain ⟨rfl, rfl⟩ | ⟨rfl, rfl⟩ | ⟨rfl, rfl⟩ := h <;> cases hname <;> cases ht
  · exact ⟨by simp [held, hnames], rfl, fun _ => rfl⟩
  · exact ⟨by simp [held, hnames], hpart.1, by simp [hpart]⟩
  · exact ⟨by simp [held, hnames], hpart.1, by simp [hpart]⟩

theorem Met.anonymous {r : Resolver} {k : Stacks} {task : Task} {name : String} {found : Draft}
    (h : Met base k task) (hanonymous : Anonymous r (some basePackage) k task name found) :
    ∃ groups t, found = .record none { groups, expanding := [name] } (.content name t) ∧
      Met base { groups, expanding := [name] } (.content name t) := by
  obtain ⟨groups, attributeGroups, expanding⟩ := k
  obtain ⟨rfl, h⟩ := h
  cases hanonymous with
  | @complexType parent name e t href hname htype ht =>
      obtain ⟨hheld, hclear⟩ := h
      obtain ⟨hinner, hdocumentation, hparent⟩ := heldElements_anonymous hheld hname ht
      rw [hdocumentation]
      exact ⟨groups, t, rfl, rfl, hinner, fun hnone hreference => hclear hnone (hparent hreference)⟩
  | @simpleType parent name e t href hname htype hcomplex ht =>
      obtain ⟨hheld, -⟩ := h
      simp only [heldElements, List.mem_cons, Prod.mk.injEq, List.not_mem_nil, or_false] at hheld
      obtain ⟨rfl, rfl⟩ | ⟨rfl, rfl⟩ | ⟨rfl, rfl⟩ := hheld <;> cases hcomplex
  | attributeType ha hname htype ht =>
      rw [h.1 _ ha] at ht
      cases ht

/-- Whatever is asked for is a type under its name. -/
theorem asks_held (htypes : types ⊆ [order, item]) {name : String} {found : Draft}
    (h : (extras base types).Asks basePackage name found) :
    ∃ groups t, found = .record none { groups, expanding := [name] } (.content name t) ∧
      Met base { groups, expanding := [name] } (.content name t) := by
  induction h with
  | definition hschema hdeclares _ =>
      obtain ⟨t, rfl, hheld, hdocumentation⟩ :=
        declared htypes (schemasIn_subset _ _ hschema) hdeclares
      rw [held_typeName hheld]
      refine ⟨[], t, ?_, rfl, hheld, fun _ _ => rfl⟩
      rw [draft, held_typeName hheld, hdocumentation]
      rfl
  | anonymous _ hwithin hanonymous ih =>
      obtain ⟨k, t, hfound, hmet⟩ := ih
      cases hfound
      exact (hmet.within htypes hwithin).anonymous hanonymous

theorem namesApart (htypes : types ⊆ [order, item]) :
    (extras base types).NamesApart basePackage := by
  intro name found found' hasks hasks'
  obtain ⟨groups, t, rfl, hmet⟩ := asks_held htypes hasks
  obtain ⟨groups', t', rfl, hmet'⟩ := asks_held htypes hasks'
  have hnames : ((held base).map (·.1)).Nodup := by
    change ["Order", "Item", "ItemPack", "OrderPart", "ItemPackPart"].Nodup
    decide
  have hsame : (name, t) = (name, t') := List.inj_on_of_nodup_map hnames hmet.2.1 hmet'.2.1 rfl
  cases hsame
  rfl

theorem groupsClear (htypes : types ⊆ [order, item]) :
    (extras none types).GroupsClear basePackage := by
  intro name documentation k task hasks k' task' hwithin
  obtain ⟨groups, t, hfound, hmet⟩ := asks_held htypes hasks
  cases hfound
  cases task' with
  | content parent t | element parent e | attributes parent attributes groups => trivial
  | group parent reference =>
      obtain ⟨-, -, -, hclear⟩ := hmet.within htypes hwithin
      intro hmem
      have hopen := hwithin.groups_subset hmem
      rw [hclear rfl] at hopen
      cases hopen

theorem reordered {types types' : List ComplexType} (h : types.Perm types') :
    (extras base types).Reordered (extras base types') where
  own := .cons ⟨h, rfl⟩ .nil
  registered := .nil
  rest := rfl

end Extras

/-! ## The order of complex types -/

/-- **The order of the complex types does not change what is declared**, where no two definitions
at the top of a schema have one name but for the size of its letters, no two are asked for under one
name, and no record refers to a group that is being expanded around it. -/
theorem fields_reordered (h : d.Reordered d') (hkeys : d.KeysApart)
    (hnames : d.NamesApart package) (hgroups : d.GroupsClear package) :
    (∀ name, name ∈ (d.declarations package).map (·.name) ↔
      name ∈ (d'.declarations package).map (·.name)) ∧
    ∀ declaration ∈ d.declarations package, ∀ declaration' ∈ d'.declarations package,
      declaration.name = declaration'.name → declaration.fields? = declaration'.fields? := by
  have hsettled := hnames.settled hgroups
  have hsettled' := h.namesSettled hkeys hsettled
  refine ⟨fun name => ⟨fun hname => ?_, fun hname => ?_⟩,
    fun declaration hmem other hother hname => ?_⟩
  · obtain ⟨declaration, hmem, rfl⟩ := List.mem_map.mp hname
    obtain ⟨other, hother, hsame, -⟩ := h.declared hkeys hsettled hmem
    exact List.mem_map.mpr ⟨other, hother, hsame⟩
  · obtain ⟨declaration, hmem, rfl⟩ := List.mem_map.mp hname
    obtain ⟨other, hother, hsame, -⟩ := h.symm.declared (h.keysApart hkeys) hsettled' hmem
    exact List.mem_map.mpr ⟨other, hother, hsame⟩
  · obtain ⟨same, hsame, hsameName, hfields⟩ := h.declared hkeys hsettled hmem
    rw [← hfields, List.inj_on_of_nodup_map (d'.declarations_nodup package) hsame hother
      (hsameName.trans hname)]

open Extras

theorem fields_reordered_extras :
    ((extras none [order, item]).Reordered (extras none [item, order]) ∧
      (extras none [order, item]).KeysApart ∧ (extras none [order, item]).NamesApart basePackage ∧
      (extras none [order, item]).GroupsClear basePackage) ∧
    ∀ declaration ∈ (extras none [order, item]).declarations basePackage,
      ∀ declaration' ∈ (extras none [item, order]).declarations basePackage,
      declaration.name = declaration'.name → declaration.fields? = declaration'.fields? := by
  have hreordered : (extras none [order, item]).Reordered (extras none [item, order]) :=
    reordered (.swap _ _ _)
  have hkeys : (extras none [order, item]).KeysApart := by decide +kernel
  have hnames : (extras none [order, item]).NamesApart basePackage :=
    namesApart (List.Subset.refl _)
  have hgroups : (extras none [order, item]).GroupsClear basePackage :=
    groupsClear (List.Subset.refl _)
  exact ⟨⟨hreordered, hkeys, hnames, hgroups⟩,
    (fields_reordered hreordered hkeys hnames hgroups).2⟩

/-- The order can decide on the fields of an anonymous type that refers to a group which is being
expanded around it: the first one to ask for the type may come from within the group. -/
theorem fields_ordered :
    (extras (some "Item") [order, item]).Reordered (extras (some "Item") [item, order]) ∧
      (extras (some "Item") [order, item]).KeysApart ∧
      (extras (some "Item") [order, item]).NamesApart basePackage ∧
      (extras (some "Item") [item, order]).NamesApart basePackage ∧
      ∃ declaration ∈ (extras (some "Item") [order, item]).declarations basePackage,
        ∃ declaration' ∈ (extras (some "Item") [item, order]).declarations basePackage,
          declaration.name = "ItemPack" ∧ declaration'.name = "ItemPack" ∧
            declaration.fields?.map (·.map (·.ident)) = some [] ∧
            declaration'.fields?.map (·.map (·.ident)) = some ["part"] := by
  refine ⟨reordered (.swap _ _ _), by decide +kernel, namesApart (List.Subset.refl _),
    namesApart ?_, by decide +kernel⟩
  simp

end Document

end SoapBindings
