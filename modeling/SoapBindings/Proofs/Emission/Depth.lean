/-
# `SoapBindings.Proofs.Emission.Depth` — expansion ends

Expansion to a depth stands for expansion without one, which is justified if the depth is never
reached.  Three guards work together, and none of them is enough:

  - inside a group, its name is on a stack until the group is done;
  - a base is not expanded inside itself, but an anonymous type starts afresh;
  - an anonymous type is declared once, but its name comes from the record that is expanded around
    it, and after a change of the group that may be any name.

The measure is lexicographic.  Groups come first: they are on their stack for good.  Between two
groups an expansion descends in the text of the document, until it takes up a base.  From there on
all names are those of places of the document.  Every record that is declared takes one of these
names away, and between two records each base takes one away from those that may be expanded.

`Agree` says that two scripts do the same and reach no bound.  It is proved of the scripts to two
depths that both exceed the measure, so it bounds the depth and shows that a greater one changes
nothing.
-/
import SoapBindings.Proofs.Emission.Parts
import SoapBindings.Proofs.Emission.Schema

namespace SoapBindings.Emission

open Xsd

/-! ## Scripts that do the same -/

/-- Where some names are taken, both scripts do the same and reach no bound.  What a record would
hold does not matter where its name is taken. -/
inductive Agree : List String → Script → Script → Prop
  | done {taken : List String} : Agree taken .done .done
  | skip {taken : List String} {p q : Script} : Agree taken p q → Agree taken (.skip p) (.skip q)
  | refer {taken : List String} {type : TypeRef} {p q : Script} :
      Agree taken p q → Agree taken (.refer type p) (.refer type q)
  | field {taken : List String} {name : String} {documentation : Option String}
      {content : Code.Content} {p q : Script} : Agree taken p q →
      Agree taken (.field name documentation content p) (.field name documentation content q)
  | text {taken : List String} {type : TypeRef} {p q : Script} :
      Agree taken p q → Agree taken (.text type p) (.text type q)
  | synonym {taken : List String} {a : Code.Synonym} {p q : Script} :
      Agree taken p q → Agree taken (.synonym a p) (.synonym a q)
  | known {taken : List String} {name xmlName : String} {documentation : Option String}
      {inner inner' p q : Script} : name ∈ taken → Agree taken p q →
      Agree taken (.record name xmlName documentation inner p)
        (.record name xmlName documentation inner' q)
  | record {taken : List String} {name xmlName : String} {documentation : Option String}
      {inner inner' p q : Script} : Agree (name :: taken) inner inner' → Agree taken p q →
      Agree taken (.record name xmlName documentation inner p)
        (.record name xmlName documentation inner' q)

namespace Agree

theorem append {taken : List String} {p q p' q' : Script} (h : Agree taken p q)
    (h' : Agree taken p' q') : Agree taken (p ++ p') (q ++ q') := by
  induction h with
  | done => exact h'
  | skip _ ih => exact .skip (ih h')
  | refer _ ih => exact .refer (ih h')
  | field _ ih => exact .field (ih h')
  | text _ ih => exact .text (ih h')
  | synonym _ ih => exact .synonym (ih h')
  | known hname _ ih => exact .known hname (ih h')
  | record hinner _ _ ih => exact .record hinner (ih h')

theorem piecewise (taken : List String) : Piecewise (Agree taken) :=
  ⟨.done, append, .field .done, .text .done⟩

theorem fields {taken : List String} {p q : Script} (h : Agree taken p q) (fs : Fields) :
    p.fields fs = q.fields fs := by
  induction h generalizing fs with
  | done => rfl
  | skip _ ih => exact ih fs
  | refer _ ih => exact ih fs
  | field _ ih => exact ih _
  | text _ ih => exact ih _
  | synonym _ ih => exact ih fs
  | known _ _ ih => exact ih fs
  | record _ _ _ ih => exact ih fs

end Agree

/-- A state in which some names are taken goes the same way with both scripts. -/
theorem Agree.emit {taken : List String} {p q : Script} (h : Agree taken p q) {s : Emission}
    (htaken : taken ⊆ s.context.emitted) :
    p.emit s = q.emit s ∧ (p.emit s).exhausted = s.exhausted := by
  induction h generalizing s with
  | done => exact ⟨rfl, rfl⟩
  | skip _ ih => exact ih htaken
  | @refer _ type _ _ _ ih =>
      exact ih (s := s.noted type) fun _ hx => (noted_grown s type).emitted (htaken hx)
  | @field _ _ _ content _ _ _ ih =>
      exact ih (s := s.noted content.type) fun _ hx => (noted_grown s _).emitted (htaken hx)
  | @text _ type _ _ _ ih =>
      exact ih (s := s.noted type) fun _ hx => (noted_grown s type).emitted (htaken hx)
  | @synonym _ a _ _ _ ih =>
      let declared (s : Emission) : Emission := (s.noted a.target).listed (some (.synonym a))
      have hgrown : s.context.Grown (s.claiming a.name declared).context :=
        claiming_grown fun s => noted_grown s a.target
      obtain ⟨hrest, hexhausted⟩ := ih fun _ hx => hgrown.emitted (htaken hx)
      exact ⟨hrest, hexhausted.trans (claiming_exhausted fun _ => rfl)⟩
  | @known taken name _ _ _ _ _ _ hname _ ih =>
      have hskip (declare : Emission → Emission) : s.claiming name declare = s.listed none := by
        simp [claiming, Context.isEmitted, htaken hname]
      simp only [Script.emit, hskip]
      exact ih (s := s.listed none) htaken
  | @record taken name xmlName documentation inner inner' p q hinner _ ihInner ih =>
      have hboth := fun _ : name ∉ s.context.emitted =>
        ihInner (s := s.marked name) <| List.cons_subset.mpr
          ⟨marked_emitted s name, fun _ hx => (marked_grown s name).emitted (htaken hx)⟩
      let declared (p : Script) (s : Emission) : Emission :=
        (p.emit s).listed (some (Emission.record name xmlName documentation (p.fields {})))
      have hsame : s.claiming name (declared inner) = s.claiming name (declared inner') :=
        claiming_congr fun hfree => by simp only [declared, (hboth hfree).1, hinner.fields]
      have hstill : (s.claiming name (declared inner)).exhausted = s.exhausted :=
        claiming_exhausted fun hfree => (hboth hfree).2
      have hgrown : s.context.Grown (s.claiming name (declared inner)).context :=
        claiming_grown fun s => inner.emit_grown s
      obtain ⟨hrest, hexhausted⟩ := ih fun _ hx => hgrown.emitted (htaken hx)
      exact ⟨hrest.trans (congrArg q.emit hsame), hexhausted.trans hstill⟩

/-! ## The measure -/

/-- The names of a pool that are not taken. -/
def room (pool taken : List String) : Nat := pool.countP fun name => !taken.contains name

theorem room_le (pool taken : List String) : room pool taken ≤ pool.length := List.countP_le_length

theorem room_mono (pool : List String) {taken taken' : List String} (h : taken ⊆ taken') :
    room pool taken' ≤ room pool taken := by
  refine List.countP_mono_left fun name _ hname => ?_
  simp only [Bool.not_eq_true', List.contains_eq_mem, decide_eq_false_iff_not] at hname ⊢
  exact fun htaken => hname (h htaken)

/-- A name of the pool that is taken is missing afterwards. -/
theorem room_lt {pool taken : List String} {name : String} (hname : name ∈ pool)
    (hfree : name ∉ taken) : room pool (name :: taken) < room pool taken := by
  obtain ⟨before, after, rfl⟩ := List.append_of_mem hname
  have hbefore := room_mono before (List.subset_cons_self name taken)
  have hafter := room_mono after (List.subset_cons_self name taken)
  unfold room at hbefore hafter ⊢
  simp [List.countP_append, hfree] at hbefore hafter ⊢
  omega

section Measure

variable (d : Document)

/-- The names that the places of a document have. -/
def placeNames : List String := d.places.map (·.1)

/-- The names that groups are put on their stack by. -/
def groupNames : List String := d.groupReferences.map Naming.localName

def attributeGroupNames : List String :=
  d.attributeGroupReferences.map fun reference => Text.lowercaseText (Naming.localName reference)

/-- How deep the content of a base can go before the next group. -/
def baseDepth : Nat := d.weight * (d.weight + 2) + d.weight + 1

/-- How deep a group can go, where some groups are being expanded. -/
def groupDepth (k : Stacks) : Nat :=
  d.weight + 1 + room (groupNames d) k.groups * (baseDepth d + d.weight + 1)

/-- The task is done within a depth.  `known` tasks stand at a place of the document and under its
name; others only descend in the text of some place. -/
inductive Fits (depth : Nat) (taken : List String) (k : Stacks) : Task → Prop
  | known {parent : String} {t : ComplexType} : t.places parent ⊆ d.places →
      groupDepth d k + room (placeNames d) taken * (d.weight + 2) +
        room (placeNames d) k.expanding + 1 ≤ depth → Fits depth taken k (.content parent t)
  | content {parent home : String} {t : ComplexType} : t.places home ⊆ d.places →
      groupDepth d k + baseDepth d + t.weight ≤ depth → Fits depth taken k (.content parent t)
  | knownElement {parent : String} {e : Element} : e.places parent ⊆ d.places →
      groupDepth d k + room (placeNames d) taken * (d.weight + 2) ≤ depth →
      Fits depth taken k (.element parent e)
  | element {parent home : String} {e : Element} : e.places home ⊆ d.places →
      groupDepth d k + baseDepth d + e.weight ≤ depth → Fits depth taken k (.element parent e)
  | group {parent reference : String} : reference ∈ d.groupReferences →
      groupDepth d k ≤ depth → Fits depth taken k (.group parent reference)
  | attributes {parent : String} {attributes : List Attribute} {groups : List String} :
      groups ⊆ d.attributeGroupReferences →
      room (attributeGroupNames d) k.attributeGroups + 1 ≤ depth →
      Fits depth taken k (.attributes parent attributes groups)

end Measure

/-! ## Descent -/

section Descent

variable {d : Document} {package : Option String} {depth depth' : Nat} {taken : List String}
  {k : Stacks}

/-- The pools are no longer than the weight of the document. -/
theorem room_placeNames (taken : List String) : room (placeNames d) taken ≤ d.weight := by
  have hroom := room_le (placeNames d) taken
  have hpools := d.pools_le_weight
  simp only [placeNames, List.length_map] at hroom ⊢
  omega

theorem room_attributeGroupNames (taken : List String) :
    room (attributeGroupNames d) taken ≤ d.weight := by
  have hroom := room_le (attributeGroupNames d) taken
  have hpools := d.pools_le_weight
  simp only [attributeGroupNames, List.length_map] at hroom ⊢
  omega

theorem room_groupNames (taken : List String) : room (groupNames d) taken ≤ d.weight := by
  have hroom := room_le (groupNames d) taken
  have hpools := d.pools_le_weight
  simp only [groupNames, List.length_map] at hroom ⊢
  omega

/-- One group less leaves room for the elements of a group. -/
theorem groupDepth_inGroup {reference : String} (hreference : reference ∈ d.groupReferences)
    (hfree : Naming.localName reference ∉ k.groups) :
    groupDepth d (k.inGroup (Naming.localName reference)) + baseDepth d + d.weight + 1 ≤
      groupDepth d k := by
  have hlt := room_lt (List.mem_map_of_mem (f := Naming.localName) hreference) hfree
  have hmul := Nat.mul_le_mul_right (baseDepth d + d.weight + 1) hlt
  rw [Nat.succ_mul] at hmul
  unfold groupDepth
  simp only [Stacks.inGroup, groupNames] at hmul ⊢
  omega

theorem weight_lt_groupDepth (d : Document) (k : Stacks) : d.weight < groupDepth d k := by
  unfold groupDepth
  omega

/-! ### Scripts without tasks -/

theorem textScript_agree (r : Resolver) (parent : String) (base : Option String) :
    Agree taken (textScript r package parent base) (textScript r package parent base) := by
  cases base with
  | none => exact .text .done
  | some base =>
      obtain htext | ⟨htext, -⟩ := textScript_some r package parent base
      · exact htext ▸ .text .done
      · exact htext ▸ .refer (.text .done)

theorem attributeScript_agree (r : Resolver) (parent : String) (a : Attribute) :
    Agree taken (attributeScript r package parent a) (attributeScript r package parent a) := by
  have hform := attributeScript_form r package parent a
  generalize attributeScript r package parent a = p at hform ⊢
  cases hform with
  | missing => exact .done
  | field _ => exact .field .done
  | simpleType _ _ _ => exact .append (.synonym .done) (.field .done)

/-! ### Tasks -/

/-- The scripts inside a content agree if they do so for each kind of task, since all that the type
refers to stands in the document. -/
theorem content_agree {parent home : String} {t : ComplexType} {scripts scripts' : Scripting}
    (hplaces : t.places home ⊆ d.places) (hdepth : groupDepth d k ≤ depth)
    (hself : ∀ {k' task}, Fits d depth taken k' task →
      Agree taken (scripts k' task) (scripts' k' task))
    (helements : ∀ e ∈ t.inPlace, Fits d depth taken k (.element parent e))
    (hbase : ∀ {name : String} {type : ComplexType}, type.places name ⊆ d.places →
      name ∉ k.expanding → Fits d depth taken (k.inBase name) (.content name type)) :
    Agree taken (contentScript (.ofDocument d) package scripts k parent t)
      (contentScript (.ofDocument d) package scripts' k parent t) := by
  obtain ⟨hgroups, hattributes⟩ := Document.references_place (hplaces (t.mem_places home))
  refine (Agree.piecewise taken).content _ _ ⟨?elements, ?groups, ?attributes⟩ ?bases
    fun derivation _ _ => textScript_agree ..
  case elements => exact fun e he => hself (helements e he)
  case groups => exact fun g hg => hself (.group (hgroups hg) hdepth)
  case attributes =>
    intro part hpart
    refine hself (.attributes (fun reference hreference => hattributes ?_) ?_)
    · exact List.mem_flatMap.mpr ⟨part, hpart, hreference⟩
    · have hroom := room_attributeGroupNames (d := d) k.attributeGroups
      have hweight := weight_lt_groupDepth d k
      omega
  case bases =>
    intro derivation _ _ declared type hfound hfree
    obtain ⟨base, -, hfound⟩ := Option.bind_eq_some_iff.mp hfound
    have hplaces := Document.places_baseType hfound
    exact hself (hbase hplaces hfree)

section Step

variable {scripts scripts' : Scripting}
  (hself : ∀ {taken : List String} {k : Stacks} {task : Task}, Fits d depth taken k task →
    Agree taken (scripts k task) (scripts' k task))

include hself

theorem recordScript_agree {name xmlName : String} {type : ComplexType}
    {documentation : Option String}
    (h : name ∉ taken → Fits d depth (name :: taken) (k.inRecord name) (.content name type)) :
    Agree taken (recordScript scripts k name xmlName type documentation)
      (recordScript scripts' k name xmlName type documentation) := by
  by_cases hname : name ∈ taken
  · exact .known hname .done
  · exact .record (hself (h hname)) .done

theorem elementScript_agree {parent : String} {e : Element}
    (h : ∀ name type, e.name = some name → e.complexType = some type →
      anonymousName parent name ∉ taken →
      Fits d depth (anonymousName parent name :: taken) (k.inRecord (anonymousName parent name))
        (.content (anonymousName parent name) type)) :
    Agree taken (elementScript (.ofDocument d) package scripts k parent e)
      (elementScript (.ofDocument d) package scripts' k parent e) := by
  obtain ⟨form, hform, hscript⟩ := elementScript_form (.ofDocument d) package k parent e
  rw [hscript, hscript]
  cases hform with
  | missing => exact .done
  | field _ => exact .field .done
  | complexType _ hname _ ht =>
      exact (recordScript_agree hself (h _ _ hname ht)).append (.field .done)
  | simpleType _ _ _ _ _ => exact .append (.synonym .done) (.field .done)

/-- A base at a known place: the bases that may still be expanded are the measure. -/
theorem known_agree {parent : String} {t : ComplexType} (hplaces : t.places parent ⊆ d.places)
    (hbound : groupDepth d k + room (placeNames d) taken * (d.weight + 2) +
      room (placeNames d) k.expanding ≤ depth) :
    Agree taken (contentScript (.ofDocument d) package scripts k parent t)
      (contentScript (.ofDocument d) package scripts' k parent t) := by
  refine content_agree hplaces (by omega) hself (fun e he => ?_) fun {name type} hbase hfree => ?_
  · exact .knownElement (fun _ h => hplaces (ComplexType.places_inPlace he parent h)) (by omega)
  · have hname : name ∈ placeNames d := List.mem_map.mpr ⟨_, hbase (type.mem_places name), rfl⟩
    have hlt := room_lt hname hfree
    refine .known hbase ?_
    change groupDepth d k + _ + room (placeNames d) (name :: k.expanding) + 1 ≤ depth
    omega

/-- In the text of a place its weight is the measure, until a base is taken up. -/
theorem free_agree {parent home : String} {t : ComplexType} (hplaces : t.places home ⊆ d.places)
    (hbound : groupDepth d k + baseDepth d + t.weight ≤ depth + 1) :
    Agree taken (contentScript (.ofDocument d) package scripts k parent t)
      (contentScript (.ofDocument d) package scripts' k parent t) := by
  have hsize := t.size_add_le
  unfold ComplexType.size at hsize
  refine content_agree hplaces (by omega) hself (fun e he => ?_) fun {name type} hbase _ => ?_
  · have hweight := ComplexType.weight_inPlace he
    exact .element (fun _ h => hplaces (ComplexType.places_inPlace he home h)) (by omega)
  · have htaken := Nat.mul_le_mul_right (d.weight + 2) (room_placeNames (d := d) taken)
    have hexpanding := room_placeNames (d := d) (name :: k.expanding)
    refine .known hbase ?_
    change groupDepth d k + _ + room (placeNames d) (name :: k.expanding) + 1 ≤ depth
    unfold baseDepth at hbound
    omega

/-- An anonymous type at a known place takes the name of its place. -/
theorem knownElement_agree {parent : String} {e : Element} (hplaces : e.places parent ⊆ d.places)
    (hbound : groupDepth d k + room (placeNames d) taken * (d.weight + 2) ≤ depth + 1) :
    Agree taken (elementScript (.ofDocument d) package scripts k parent e)
      (elementScript (.ofDocument d) package scripts' k parent e) := by
  refine elementScript_agree hself fun name t hname ht hfree => ?_
  rw [Element.places_anonymous ht hname] at hplaces
  have hmem : anonymousName parent name ∈ placeNames d :=
    List.mem_map.mpr ⟨_, hplaces (t.mem_places _), rfl⟩
  have hmul := Nat.mul_le_mul_right (d.weight + 2) (room_lt hmem hfree)
  rw [Nat.succ_mul] at hmul
  have hexpanding := room_placeNames (d := d) [anonymousName parent name]
  refine .known hplaces ?_
  change groupDepth d k + _ + room (placeNames d) [anonymousName parent name] + 1 ≤ depth
  omega

theorem element_agree {parent home : String} {e : Element} (hplaces : e.places home ⊆ d.places)
    (hbound : groupDepth d k + baseDepth d + e.weight ≤ depth + 1) :
    Agree taken (elementScript (.ofDocument d) package scripts k parent e)
      (elementScript (.ofDocument d) package scripts' k parent e) := by
  refine elementScript_agree hself fun name t hname ht _ => ?_
  rw [Element.places_anonymous ht hname] at hplaces
  rw [Element.weight_complexType ht] at hbound
  refine .content hplaces ?_
  change groupDepth d k + _ + _ ≤ depth
  omega

theorem group_agree {parent reference : String} (hreference : reference ∈ d.groupReferences)
    (hbound : groupDepth d k ≤ depth + 1) :
    Agree taken (groupScript (.ofDocument d) scripts k parent reference)
      (groupScript (.ofDocument d) scripts' k parent reference) := by
  refine (Agree.piecewise taken).group _ _ fun g hg hfree => ?_
  obtain ⟨schema, hschema, hmem⟩ := Resolver.group?_mem hg
  have hdepth := groupDepth_inGroup hreference hfree
  constructor
  · intro e he
    have hweight := weight_le_listWeight he
    have hgroup := Document.weight_group hschema hmem
    rw [Group.weight] at hgroup
    exact hself (.element (Document.places_group hschema hmem he) (by omega))
  · intro n hn
    exact hself (.group (Document.groupReferences_group hschema hmem hn) (by omega))

theorem attributes_agree {parent : String} {attributes : List Attribute} {groups : List String}
    (hgroups : groups ⊆ d.attributeGroupReferences)
    (hbound : room (attributeGroupNames d) k.attributeGroups ≤ depth) :
    Agree taken
      (stepScript (.ofDocument d) package scripts k (.attributes parent attributes groups))
      (stepScript (.ofDocument d) package scripts' k (.attributes parent attributes groups)) := by
  refine (Agree.piecewise taken).attributes _ _ (fun a _ => attributeScript_agree _ parent a)
    fun reference hreference g hg hfree => ?_
  have hinside : Subtask (.ofDocument d) k (.attributes parent attributes groups) _ _ :=
    .attributeGroup hreference hg hfree
  have hname := List.mem_map_of_mem (f := fun reference =>
    Text.lowercaseText (Naming.localName reference)) (hgroups hreference)
  have hlt := room_lt hname hfree
  exact hself (.attributes (hinside.standsIn hgroups) (Nat.le_trans hlt hbound))

theorem step_agree {task : Task} (hfits : Fits d (depth + 1) taken k task) :
    Agree taken (stepScript (.ofDocument d) package scripts k task)
      (stepScript (.ofDocument d) package scripts' k task) := by
  cases hfits with
  | known hplaces hbound => exact known_agree hself hplaces (Nat.le_of_succ_le_succ hbound)
  | content hplaces hbound => exact free_agree hself hplaces hbound
  | knownElement hplaces hbound => exact knownElement_agree hself hplaces hbound
  | element hplaces hbound => exact element_agree hself hplaces hbound
  | group hreference hbound => exact group_agree hself hreference hbound
  | attributes hgroups hbound =>
      exact attributes_agree hself hgroups (Nat.le_of_succ_le_succ hbound)

end Step

theorem Fits.pos {task : Task} (h : Fits d depth taken k task) : 0 < depth := by
  have hweight := weight_lt_groupDepth d k
  cases h <;> omega

/-- A task does the same at every depth that it fits in, and reaches no bound there. -/
theorem script_agree {task : Task} (hfits : Fits d depth taken k task) (hdepth : depth ≤ depth') :
    Agree taken (script (.ofDocument d) package depth k task)
      (script (.ofDocument d) package depth' k task) := by
  induction depth generalizing depth' taken k task with
  | zero => exact absurd hfits.pos (Nat.lt_irrefl 0)
  | succ depth ih =>
      obtain ⟨depth', rfl⟩ : ∃ n, depth' = n + 1 := ⟨depth' - 1, by omega⟩
      exact step_agree (fun hfits => ih hfits (Nat.le_of_succ_le_succ hdepth)) hfits

end Descent

/-! ## Schemas -/

section Schemas

variable {d : Document} {package : Option String} {depth : Nat} {taken : List String}
  {k : Stacks} {scripts scripts' : Scripting}

theorem groupDepth_le (d : Document) (k : Stacks) :
    groupDepth d k ≤ d.weight + 1 + d.weight * (baseDepth d + d.weight + 1) := by
  have hmul := Nat.mul_le_mul_right (baseDepth d + d.weight + 1)
    (room_groupNames (d := d) k.groups)
  unfold groupDepth
  omega

/-- A depth that is enough for whatever stands in the document. -/
def startDepth (d : Document) (k : Stacks) : Nat := groupDepth d k + baseDepth d + d.weight + 1

theorem startDepth_le (d : Document) (k : Stacks) : startDepth d k ≤ d.expansionBound := by
  have hgroup := groupDepth_le d k
  unfold startDepth Document.expansionBound baseDepth at *
  generalize d.weight = w at *
  grind

theorem standsIn_fits (hdepth : startDepth d k ≤ depth) {task : Task} (h : task.StandsIn d) :
    Fits d depth taken k task := by
  unfold startDepth at hdepth
  cases task with
  | content parent t =>
      obtain ⟨home, hplaces⟩ := h
      have hweight : t.weight ≤ d.weight := Document.weight_place (hplaces (t.mem_places home))
      exact .content hplaces (by omega)
  | element parent e =>
      obtain ⟨home, hplaces⟩ := h
      refine .element hplaces ?_
      rw [Element.places_eq] at hplaces
      rw [Element.weight_eq]
      cases ht : e.complexType with
      | none =>
          simp only [Option.map_none, Option.getD_none]
          omega
      | some t =>
          rw [ht] at hplaces
          have hweight : t.weight ≤ d.weight :=
            Document.weight_place (hplaces (t.mem_places _))
          simp only [Option.map_some, Option.getD_some]
          omega
  | group parent reference => exact .group h (by omega)
  | attributes parent attributes groups =>
      have hroom := room_attributeGroupNames (d := d) k.attributeGroups
      exact .attributes h (by omega)

theorem schemaScript_agree
    (hself : ∀ {taken : List String} {k : Stacks} {task : Task}, Fits d depth taken k task →
      Agree taken (scripts k task) (scripts' k task))
    (hdepth : ∀ k, startDepth d k ≤ depth) {schema : Schema} (hschema : schema ∈ d.schemas) :
    Agree taken (schemaScript (.ofDocument d) package scripts k schema)
      (schemaScript (.ofDocument d) package scripts' k schema) := by
  refine (Agree.piecewise taken).schema _ _ (.skip .done) fun xmlName definition h => ?_
  cases hdraft : draft (.ofDocument d) package k xmlName definition with
  | skip => exact .skip .done
  | synonym a => exact .synonym .done
  | plain documentation text =>
      exact .record ((Agree.piecewise _).ofOption _ fun _ _ => .text .done) .done
  | record documentation k' task =>
      exact .record (hself (standsIn_fits (hdepth k') (draft_standsIn hschema h hdraft))) .done

end Schemas

/-- The scripts of schemas are the same at all depths from the bound on, and reach none of them. -/
theorem schemas_agree (d : Document) (package : Option String) (k : Stacks) {schemas : List Schema}
    (hschemas : schemas ⊆ d.schemas) {depth : Nat} (hdepth : d.expansionBound ≤ depth) :
    Agree []
      (.each schemas (schemaScript (.ofDocument d) package
        (script (.ofDocument d) package d.expansionBound) k))
      (.each schemas (schemaScript (.ofDocument d) package
        (script (.ofDocument d) package depth) k)) :=
  (Agree.piecewise []).each _ fun _ hschema =>
    schemaScript_agree (fun hfits => script_agree hfits hdepth) (startDepth_le d) (hschemas hschema)

end SoapBindings.Emission

namespace SoapBindings.Document

open Emission

/-- Emission of the schemas of a package ends, whatever the state that it starts in.  The bound is
not reached, and without one or with a greater one the same would be emitted. -/
theorem emission_ends (d : Document) (package : String) (more : Nat) (s : Emission) :
    let emit := fun depth => ((d.schemasIn package).forM
      (Emission.schema (.ofDocument d) (expand (.ofDocument d) depth))).run s
    (emit d.expansionBound).2.exhausted = s.exhausted ∧
      emit (d.expansionBound + more) = emit d.expansionBound := by
  have hagree := schemas_agree d s.context.package s.toStacks (d.schemasIn_subset package)
    (Nat.le_add_right d.expansionBound more)
  obtain ⟨hsame, hexhausted⟩ := hagree.emit (s := s) (List.nil_subset _)
  simp only [schemas_run]
  exact ⟨hexhausted, congrArg _ hsame.symm⟩

/-- A package is emitted in full. -/
theorem emitPackage_exhausted (d : Document) (package : String) :
    (d.emitPackage (.ofDocument d) package).exhausted = false := by
  have hagree := schemas_agree d (some package) {} (d.schemasIn_subset package)
    (Nat.le_refl d.expansionBound)
  rw [emitPackage_eq]
  exact (hagree.emit (List.nil_subset _)).2

/-- No document goes too deep to be generated. -/
theorem generate_ne_exhausted (d : Document) (operations : String) :
    d.generate operations ≠ .error .exhausted := by
  have hany : (d.packages.map fun package => (package, d.emitPackage (.ofDocument d) package)).any
      (·.2.exhausted) = false := by
    simp [emitPackage_exhausted]
  intro h
  unfold generate at h
  simp only [hany, Bool.false_eq_true, if_false] at h
  split at h
  · cases h
  · split at h <;> cases h

end SoapBindings.Document
