/-
# `SoapBindings.Proofs.Emission.Places` — the complex types of a document

A complex type stands at the top of a schema or, without a name, in an element somewhere inside
another definition.  `places` lists all of them, each with the name that it has below its parent.

The weight of a document bounds the number of its places together with all that they refer to.
Every pool of names that an expansion can draw from is therefore no longer than the weight.
-/
import SoapBindings.Emission.Bound
import SoapBindings.Emission.Expansion
import SoapBindings.Proofs.Resolution

namespace SoapBindings

open Emission (anonymousName)

namespace Xsd

/-! ## Totals -/

theorem total_le_total {α : Type} {items : List α} {f g : α → Nat}
    (h : ∀ item ∈ items, f item ≤ g item) : total (items.map f) ≤ total (items.map g) := by
  induction items with
  | nil => exact Nat.le_refl _
  | cons item items ih =>
      exact Nat.add_le_add (h item List.mem_cons_self)
        (ih fun item hitem => h item (List.mem_cons_of_mem _ hitem))

theorem mem_le_total {weights : List Nat} {n : Nat} (h : n ∈ weights) : n ≤ total weights := by
  induction weights with
  | nil => cases h
  | cons m weights ih =>
      rcases List.mem_cons.mp h with rfl | h
      · exact Nat.le_add_right ..
      · exact Nat.le_trans (ih h) (Nat.le_add_left ..)

theorem total_add {α : Type} (items : List α) (f g : α → Nat) :
    total (items.map f) + total (items.map g) = total (items.map fun a => f a + g a) := by
  induction items with
  | nil => rfl
  | cons item items ih =>
      simp only [total, List.map_cons, List.foldr_cons] at ih ⊢
      omega

theorem length_flatMap {α β : Type} (items : List α) (f : α → List β) :
    (items.flatMap f).length = total (items.map fun a => (f a).length) := by
  rw [List.length_flatMap]
  rfl

theorem listWeight_eq (es : List Element) : listWeight es = total (es.map (·.weight)) := by
  induction es with
  | nil => rfl
  | cons e es ih => rw [listWeight, ih]; rfl

theorem weight_le_listWeight {e : Element} {es : List Element} (h : e ∈ es) :
    e.weight ≤ listWeight es := by
  rw [listWeight_eq]
  exact mem_le_total (List.mem_map_of_mem h)

/-! ## One level of a type -/

namespace ComplexType

/-- The derivations of a type, as its content takes them up. -/
def derivations (t : ComplexType) : List Derivation :=
  t.complexContent.toList ++ t.simpleContent.toList

/-- The elements that stand in the type itself. -/
def inPlace (t : ComplexType) : List Element :=
  t.derivations.flatMap (·.elements) ++ (t.sequence ++ t.choice ++ t.all)

def groupReferences (t : ComplexType) : List String :=
  t.derivations.flatMap (·.groups) ++ t.groups

/-- Attributes together with the attribute groups beside them. -/
def attributeParts (t : ComplexType) : List (List Attribute × List String) :=
  t.derivations.map (fun d => (d.attributes, d.attributeGroups)) ++
    [(t.attributes, t.attributeGroups)]

def attributeGroupReferences (t : ComplexType) : List String := t.attributeParts.flatMap (·.2)

/-- The type and its references, which is what it adds to the pools of a document. -/
def size (t : ComplexType) : Nat :=
  1 + t.groupReferences.length + t.attributeGroupReferences.length

end ComplexType

theorem listWeight_append (es fs : List Element) :
    listWeight (es ++ fs) = listWeight es + listWeight fs := by
  induction es with
  | nil => simp [listWeight]
  | cons e es ih => simp only [List.cons_append, listWeight, ih, Nat.add_assoc]

theorem Element.weight_eq (e : Element) :
    e.weight = 1 + (e.complexType.map (·.weight)).getD 0 := by
  obtain ⟨⟩ := e
  unfold weight
  split <;> simp

theorem Derivation.weight_eq (d : Derivation) :
    d.weight = 1 + listWeight d.elements + d.groups.length + d.attributes.length +
      d.attributeGroups.length := by
  obtain ⟨⟩ := d
  rw [weight]

/-- A type weighs more than it and the elements in it. -/
theorem ComplexType.size_add_le (t : ComplexType) : t.size + listWeight t.inPlace ≤ t.weight := by
  obtain ⟨name, documentation, isAbstract, mixed, sequence, choice, all, wildcards, groups,
    complexContent, simpleContent, attributes, attributeGroups⟩ := t
  unfold weight
  simp only [size, inPlace, groupReferences, attributeGroupReferences, attributeParts, derivations,
    List.flatMap_append, listWeight_append, List.length_append]
  cases complexContent <;> cases simpleContent <;>
    simp [Derivation.weight_eq, listWeight] <;> omega

/-! ## Places -/

mutual

/-- The complex types inside an element, where `parent` is the type that it stands in. -/
def Element.places (parent : String) : Element → List (String × ComplexType)
  | { name, complexType, .. } =>
    match complexType with
    | some type => type.places (anonymousName parent (name.getD ""))
    | none => []

def Derivation.places (parent : String) : Derivation → List (String × ComplexType)
  | { elements, .. } => listPlaces parent elements

/-- A complex type and all types inside it. -/
def ComplexType.places (name : String) : ComplexType → List (String × ComplexType)
  | type@{ sequence, choice, all, complexContent, simpleContent, .. } =>
    (name, type) ::
      ((match complexContent with
          | some derivation => derivation.places name
          | none => []) ++
        (match simpleContent with
          | some derivation => derivation.places name
          | none => []) ++
        (listPlaces name sequence ++ listPlaces name choice ++ listPlaces name all))

def listPlaces (parent : String) : List Element → List (String × ComplexType)
  | [] => []
  | e :: es => e.places parent ++ listPlaces parent es

end

theorem listPlaces_eq (parent : String) (es : List Element) :
    listPlaces parent es = es.flatMap (·.places parent) := by
  induction es with
  | nil => rfl
  | cons e es ih => rw [listPlaces, ih, List.flatMap_cons]

theorem Derivation.places_eq (parent : String) (d : Derivation) :
    d.places parent = d.elements.flatMap (·.places parent) := by
  obtain ⟨⟩ := d
  rw [places, listPlaces_eq]

theorem Element.places_eq (parent : String) (e : Element) :
    e.places parent =
      (e.complexType.map (·.places (anonymousName parent (e.name.getD "")))).getD [] := by
  obtain ⟨⟩ := e
  unfold places
  split <;> rfl

/-- The places of a type are its own and those of the elements in it. -/
theorem ComplexType.places_eq (name : String) (t : ComplexType) :
    t.places name = (name, t) :: t.inPlace.flatMap (·.places name) := by
  obtain ⟨_, _, _, _, sequence, choice, all, _, _, complexContent, simpleContent, _, _⟩ := t
  unfold places
  simp only [inPlace, derivations, List.flatMap_append, listPlaces_eq]
  cases complexContent <;> cases simpleContent <;> simp [Derivation.places_eq]

theorem ComplexType.mem_places (name : String) (t : ComplexType) : (name, t) ∈ t.places name := by
  rw [places_eq]
  exact List.mem_cons_self

theorem ComplexType.places_inPlace {t : ComplexType} {e : Element} (h : e ∈ t.inPlace)
    (name : String) : e.places name ⊆ t.places name := by
  rw [places_eq]
  exact fun _ hplace => List.mem_cons_of_mem _ (List.mem_flatMap.mpr ⟨e, h, hplace⟩)

theorem Element.places_anonymous {e : Element} {t : ComplexType} {name : String}
    (ht : e.complexType = some t) (hname : e.name = some name) (parent : String) :
    e.places parent = t.places (anonymousName parent name) := by
  rw [places_eq, ht, hname]
  rfl

/-! ### Descent -/

theorem ComplexType.weight_inPlace {t : ComplexType} {e : Element} (h : e ∈ t.inPlace) :
    e.weight < t.weight := by
  have hsize := t.size_add_le
  have hweight := weight_le_listWeight h
  unfold size at hsize
  omega

theorem Element.weight_complexType {e : Element} {t : ComplexType} (h : e.complexType = some t) :
    e.weight = t.weight + 1 := by
  rw [weight_eq, h]
  exact Nat.add_comm ..

/-- Induction along the anonymous types of elements in place. -/
theorem ComplexType.descend {motive : ComplexType → Prop}
    (h : ∀ t, (∀ e ∈ t.inPlace, ∀ u, e.complexType = some u → motive u) → motive t) :
    ∀ t, motive t := by
  intro t
  induction hn : t.weight using Nat.strongRecOn generalizing t with
  | ind n ih =>
      refine h t fun e he u hu => ih u.weight ?_ u rfl
      have hlt := weight_inPlace he
      rw [Element.weight_complexType hu] at hlt
      omega

/-! ### Weight -/

theorem ComplexType.weight_place {name : String} {t : ComplexType} {place : String × ComplexType}
    (h : place ∈ t.places name) : place.2.weight ≤ t.weight := by
  induction t using ComplexType.descend generalizing name with
  | _ t ih =>
      rw [places_eq] at h
      obtain rfl | h := List.mem_cons.mp h
      · exact Nat.le_refl _
      · obtain ⟨e, he, h⟩ := List.mem_flatMap.mp h
        rw [Element.places_eq] at h
        cases hu : e.complexType with
        | none =>
            rw [hu] at h
            cases h
        | some u =>
            rw [hu] at h
            have hweight := ih e he u hu h
            have hinside := weight_inPlace he
            rw [Element.weight_complexType hu] at hinside
            omega

theorem Element.weight_place {parent : String} {e : Element} {place : String × ComplexType}
    (h : place ∈ e.places parent) : place.2.weight ≤ e.weight := by
  rw [places_eq] at h
  cases ht : e.complexType with
  | none =>
      rw [ht] at h
      cases h
  | some t =>
      rw [ht] at h
      rw [weight_complexType ht]
      exact Nat.le_succ_of_le (t.weight_place h)

/-- The sizes of types, in all. -/
def sizes (places : List (String × ComplexType)) : Nat := total (places.map (·.2.size))

theorem sizes_append (places more : List (String × ComplexType)) :
    sizes (places ++ more) = sizes places + sizes more := by
  induction places with
  | nil => simp [sizes, total]
  | cons place places ih =>
      simp only [sizes, total, List.cons_append, List.map_cons, List.foldr_cons] at ih ⊢
      omega

theorem sizes_flatMap {α : Type} (items : List α) (places : α → List (String × ComplexType)) :
    sizes (items.flatMap places) = total (items.map fun a => sizes (places a)) := by
  induction items with
  | nil => rfl
  | cons item items ih => rw [List.flatMap_cons, sizes_append, ih]; rfl

theorem ComplexType.sizes_places (name : String) (t : ComplexType) :
    sizes (t.places name) ≤ t.weight := by
  induction t using ComplexType.descend generalizing name with
  | _ t ih =>
      have hinside : sizes (t.inPlace.flatMap (·.places name)) ≤ listWeight t.inPlace := by
        rw [sizes_flatMap, listWeight_eq]
        refine total_le_total fun e he => ?_
        rw [Element.places_eq, Element.weight_eq]
        cases hu : e.complexType with
        | none => exact Nat.zero_le _
        | some u => exact Nat.le_trans (ih e he u hu _) (Nat.le_add_left ..)
      rw [places_eq]
      exact Nat.le_trans (Nat.add_le_add_left hinside t.size) t.size_add_le

theorem Element.sizes_places (parent : String) (e : Element) :
    sizes (e.places parent) ≤ e.weight := by
  rw [places_eq, weight_eq]
  cases e.complexType with
  | none => exact Nat.zero_le _
  | some t => exact Nat.le_trans (t.sizes_places _) (Nat.le_add_left ..)

/-- The types and their references, counted one by one. -/
theorem sizes_eq (places : List (String × ComplexType)) :
    sizes places = places.length + (places.flatMap (·.2.groupReferences)).length +
      (places.flatMap (·.2.attributeGroupReferences)).length := by
  induction places with
  | nil => rfl
  | cons place places ih =>
      simp only [sizes, total, ComplexType.size, List.map_cons, List.foldr_cons, List.length_cons,
        List.flatMap_cons, List.length_append] at ih ⊢
      omega

/-! ## Schemas and documents -/

namespace Schema

/-- The complex types of a schema.  What stands in a group has no parent before the group is
expanded somewhere. -/
def places (s : Schema) : List (String × ComplexType) :=
  s.elements.flatMap (·.places "") ++
    s.complexTypes.flatMap (fun t => t.places (Naming.typeName (t.name.getD ""))) ++
    s.groups.flatMap fun g => g.elements.flatMap (·.places "")

def groupReferences (s : Schema) : List String :=
  s.places.flatMap (·.2.groupReferences) ++ s.groups.flatMap (·.groups)

def attributeGroupReferences (s : Schema) : List String :=
  s.places.flatMap (·.2.attributeGroupReferences) ++ s.attributeGroups.flatMap (·.attributeGroups)

theorem pools_le_weight (s : Schema) :
    s.places.length + s.groupReferences.length + s.attributeGroupReferences.length ≤ s.weight := by
  have helements : sizes (s.elements.flatMap (·.places "")) ≤ listWeight s.elements := by
    rw [sizes_flatMap, listWeight_eq]
    exact total_le_total fun e _ => e.sizes_places ""
  have htypes :
      sizes (s.complexTypes.flatMap fun t => t.places (Naming.typeName (t.name.getD ""))) ≤
      total (s.complexTypes.map (·.weight)) := by
    rw [sizes_flatMap]
    exact total_le_total fun t _ => t.sizes_places _
  have hgroups : sizes (s.groups.flatMap fun g => g.elements.flatMap (·.places "")) +
      (s.groups.flatMap (·.groups)).length ≤ total (s.groups.map (·.weight)) := by
    rw [sizes_flatMap, length_flatMap, total_add]
    refine total_le_total fun g _ => ?_
    have hinside : sizes (g.elements.flatMap (·.places "")) ≤ listWeight g.elements := by
      rw [sizes_flatMap, listWeight_eq]
      exact total_le_total fun e _ => e.sizes_places ""
    unfold Group.weight
    omega
  have hattributes : (s.attributeGroups.flatMap (·.attributeGroups)).length ≤
      total (s.attributeGroups.map (·.weight)) := by
    rw [length_flatMap]
    refine total_le_total fun g _ => ?_
    unfold AttributeGroup.weight
    omega
  have hsizes := sizes_eq s.places
  have hsplit : sizes s.places = _ := sizes_append _ _
  rw [sizes_append] at hsplit
  unfold groupReferences attributeGroupReferences weight
  simp only [List.length_append]
  omega

end Schema

end Xsd

namespace Document

open Xsd

/-- The complex types of a document at any depth. -/
def places (d : Document) : List (String × ComplexType) := d.schemas.flatMap (·.places)

def groupReferences (d : Document) : List String := d.schemas.flatMap (·.groupReferences)

def attributeGroupReferences (d : Document) : List String :=
  d.schemas.flatMap (·.attributeGroupReferences)

/-- Types and references weigh at least one each. -/
theorem pools_le_weight (d : Document) :
    d.places.length + d.groupReferences.length + d.attributeGroupReferences.length ≤ d.weight := by
  unfold places groupReferences attributeGroupReferences weight
  simp only [length_flatMap, total_add]
  exact total_le_total fun s _ => s.pools_le_weight

/-! ### What stands in a document -/

theorem schemasIn_subset (d : Document) (package : String) : d.schemasIn package ⊆ d.schemas :=
  fun _ h => (List.mem_filter.mp h).1

variable {d : Document}

theorem places_complexType {schema : Schema} (hschema : schema ∈ d.schemas) {t : ComplexType}
    (ht : t ∈ schema.complexTypes) {name : String} (hname : t.name = some name) :
    t.places (Naming.typeName name) ⊆ d.places := by
  intro place hplace
  refine List.mem_flatMap.mpr ⟨schema, hschema, ?_⟩
  refine List.mem_append_left _ (List.mem_append_right _ (List.mem_flatMap.mpr ⟨t, ht, ?_⟩))
  simpa only [hname, Option.getD_some] using hplace

theorem places_element {schema : Schema} (hschema : schema ∈ d.schemas) {e : Element}
    (he : e ∈ schema.elements) : e.places "" ⊆ d.places := by
  intro place hplace
  refine List.mem_flatMap.mpr ⟨schema, hschema, ?_⟩
  exact List.mem_append_left _ (List.mem_append_left _ (List.mem_flatMap.mpr ⟨e, he, hplace⟩))

theorem places_group {schema : Schema} (hschema : schema ∈ d.schemas) {g : Group}
    (hg : g ∈ schema.groups) {e : Element} (he : e ∈ g.elements) : e.places "" ⊆ d.places := by
  intro place hplace
  refine List.mem_flatMap.mpr ⟨schema, hschema, ?_⟩
  exact List.mem_append_right _
    (List.mem_flatMap.mpr ⟨g, hg, List.mem_flatMap.mpr ⟨e, he, hplace⟩⟩)

theorem groupReferences_group {schema : Schema} (hschema : schema ∈ d.schemas) {g : Group}
    (hg : g ∈ schema.groups) : g.groups ⊆ d.groupReferences := by
  intro reference hreference
  refine List.mem_flatMap.mpr ⟨schema, hschema, ?_⟩
  exact List.mem_append_right _ (List.mem_flatMap.mpr ⟨g, hg, hreference⟩)

theorem attributeGroupReferences_group {schema : Schema} (hschema : schema ∈ d.schemas)
    {g : AttributeGroup} (hg : g ∈ schema.attributeGroups) :
    g.attributeGroups ⊆ d.attributeGroupReferences := by
  intro reference hreference
  refine List.mem_flatMap.mpr ⟨schema, hschema, ?_⟩
  exact List.mem_append_right _ (List.mem_flatMap.mpr ⟨g, hg, hreference⟩)

theorem references_place {place : String × ComplexType} (h : place ∈ d.places) :
    place.2.groupReferences ⊆ d.groupReferences ∧
      place.2.attributeGroupReferences ⊆ d.attributeGroupReferences := by
  obtain ⟨schema, hschema, hplace⟩ := List.mem_flatMap.mp h
  constructor <;> intro reference hreference
  · exact List.mem_flatMap.mpr ⟨schema, hschema,
      List.mem_append_left _ (List.mem_flatMap.mpr ⟨place, hplace, hreference⟩)⟩
  · exact List.mem_flatMap.mpr ⟨schema, hschema,
      List.mem_append_left _ (List.mem_flatMap.mpr ⟨place, hplace, hreference⟩)⟩

theorem weight_place {place : String × ComplexType} (h : place ∈ d.places) :
    place.2.weight ≤ d.weight := by
  obtain ⟨schema, hschema, hplace⟩ := List.mem_flatMap.mp h
  refine Nat.le_trans ?_ (mem_le_total (List.mem_map_of_mem hschema))
  have hlist {es : List Element} (hplace : place ∈ es.flatMap (·.places "")) :
      place.2.weight ≤ listWeight es := by
    obtain ⟨e, he, hplace⟩ := List.mem_flatMap.mp hplace
    exact Nat.le_trans (e.weight_place hplace) (weight_le_listWeight he)
  unfold Schema.weight
  obtain hplace | hplace := List.mem_append.mp hplace
  · obtain hplace | hplace := List.mem_append.mp hplace
    · have hweight := hlist hplace
      omega
    · obtain ⟨t, ht, hplace⟩ := List.mem_flatMap.mp hplace
      have hweight := t.weight_place hplace
      have htotal : t.weight ≤ total (schema.complexTypes.map (·.weight)) :=
        mem_le_total (List.mem_map_of_mem ht)
      omega
  · obtain ⟨g, hg, hplace⟩ := List.mem_flatMap.mp hplace
    have hweight := hlist hplace
    have htotal : g.weight ≤ total (schema.groups.map (·.weight)) :=
      mem_le_total (List.mem_map_of_mem hg)
    rw [Group.weight] at htotal
    omega

theorem weight_group {schema : Schema} (hschema : schema ∈ d.schemas) {g : Group}
    (hg : g ∈ schema.groups) : g.weight ≤ d.weight := by
  have htotal : g.weight ≤ total (schema.groups.map (·.weight)) :=
    mem_le_total (List.mem_map_of_mem hg)
  have hweight : schema.weight ≤ d.weight := mem_le_total (List.mem_map_of_mem hschema)
  rw [Schema.weight] at hweight
  omega

/-- A base is a type of the document, and known by its declared name. -/
theorem places_baseType {name : String} {found : String × ComplexType}
    (h : (Resolver.ofDocument d).baseType? name = some found) :
    found.2.places (Naming.typeName found.1) ⊆ d.places := by
  obtain ⟨s, hs, hname, hdefinition⟩ := Resolver.baseType?_mem h
  obtain ⟨schema, hschema, -, hdeclares⟩ := declares_of_mem hs
  rw [hdefinition, hname] at hdeclares
  cases hdeclares with
  | complexType ht hname => exact places_complexType hschema ht hname

/-- The content for a reference stands in the document, though an element may have another name for
it. -/
theorem places_content {name : String} {found : String × ComplexType}
    (h : (Resolver.ofDocument d).complexType? name = some found) :
    ∃ home, found.2.places home ⊆ d.places := by
  obtain ⟨s, hs, -, hdefinition | ⟨e, hdefinition, -, ht⟩⟩ := Resolver.complexType?_mem h
  all_goals
    obtain ⟨schema, hschema, -, hdeclares⟩ := declares_of_mem hs
    rw [hdefinition] at hdeclares
  · cases hdeclares with
    | complexType ht hname => exact ⟨_, places_complexType hschema ht hname⟩
  · cases hdeclares with
    | element he hname =>
        exact ⟨_, Element.places_anonymous ht hname "" ▸ places_element hschema he⟩

end Document

/-- What a task is about stands in the document. -/
def Emission.Task.StandsIn (d : Document) : Task → Prop
  | .content _ t => ∃ home, t.places home ⊆ d.places
  | .element _ e => ∃ home, e.places home ⊆ d.places
  | .group _ reference => reference ∈ d.groupReferences
  | .attributes _ _ groups => groups ⊆ d.attributeGroupReferences

end SoapBindings
