/-
# `SoapBindings.Proofs.Emission.Prefixes` — generated code is blind to prefixes

Two documents that are equal without prefixes are emitted side by side.  Whatever is looked up, put
on a stack or given a name goes by local names, so the scripts of the two expansions take the same
steps.  Only documentation spells references as they are written: what it says of the members of a
union and of the items of a list.

The simulation has one relation to a level, and each is carried over to the next: `Task.Alike` for
what is to be expanded, `Script.Alike` for what is done, `Emission.Alike` for the state that is
left, and `TokensAlike` for the code.
-/
import Mathlib.Data.List.Forall2
import SoapBindings.Proofs.Emission.Depth
import SoapBindings.Proofs.Prefixes
import SoapBindings.Proofs.WellNamed

namespace SoapBindings

open Naming (localName)
open Xsd

/-! ## What the prefixes show in -/

namespace Code

/-- Two remarks on a type, which may name the members of a union or the items of a list by
references with other prefixes. -/
inductive RemarksAlike : List String → List String → Prop
  | same (texts : List String) : RemarksAlike texts texts
  | union {members members' : List String} :
      members.map localName = members'.map localName →
      RemarksAlike ["Union of " ++ ", ".intercalate members]
        ["Union of " ++ ", ".intercalate members']
  | list {item item' : String} : localName item = localName item' →
      RemarksAlike ["Whitespace separated list of " ++ item]
        ["Whitespace separated list of " ++ item']

/-- The synonyms are the same but for the last remarks in their documentation. -/
structure Synonym.Alike (a a' : Synonym) : Prop where
  name : a.name = a'.name
  target : a.target = a'.target
  constants : a.constants = a'.constants
  documentation : ∃ own remarks remarks', RemarksAlike remarks remarks' ∧
    a.documentation = own ++ remarks ∧ a'.documentation = own ++ remarks'

theorem Synonym.Alike.refl (a : Synonym) : a.Alike a :=
  ⟨rfl, rfl, rfl, a.documentation, [], [], .same [], by simp, by simp⟩

inductive Declaration.Alike : Declaration → Declaration → Prop
  | synonym {a a' : Synonym} : a.Alike a' → Declaration.Alike (.synonym a) (.synonym a')
  | record (r : Record) : Declaration.Alike (.record r) (.record r)

end Code

namespace Emission

/-! ## Scripts -/

/-- Scripts that take the same steps, and declare synonyms that are alike. -/
inductive Script.Alike : Script → Script → Prop
  | done : Script.Alike .done .done
  | skip {p q : Script} : Script.Alike p q → Script.Alike (.skip p) (.skip q)
  | refer {type : TypeRef} {p q : Script} :
      Script.Alike p q → Script.Alike (.refer type p) (.refer type q)
  | field {name : String} {documentation : Option String} {content : Code.Content}
      {p q : Script} : Script.Alike p q →
      Script.Alike (.field name documentation content p) (.field name documentation content q)
  | text {type : TypeRef} {p q : Script} :
      Script.Alike p q → Script.Alike (.text type p) (.text type q)
  | synonym {a a' : Code.Synonym} {p q : Script} : a.Alike a' →
      Script.Alike p q → Script.Alike (.synonym a p) (.synonym a' q)
  | record {name xmlName : String} {documentation : Option String} {inner inner' p q : Script} :
      Script.Alike inner inner' → Script.Alike p q →
      Script.Alike (.record name xmlName documentation inner p)
        (.record name xmlName documentation inner' q)
  | cut {p q : Script} : Script.Alike p q → Script.Alike (.cut p) (.cut q)

namespace Script.Alike

theorem refl (p : Script) : p.Alike p := by
  induction p with
  | done => exact .done
  | skip _ ih => exact .skip ih
  | refer _ _ ih => exact .refer ih
  | field _ _ _ _ ih => exact .field ih
  | text _ _ ih => exact .text ih
  | synonym a _ ih => exact .synonym (.refl a) ih
  | record _ _ _ _ _ ihInner ih => exact .record ihInner ih
  | cut _ ih => exact .cut ih

theorem append {p q p' q' : Script} (h : p.Alike q) (h' : p'.Alike q') :
    (p ++ p').Alike (q ++ q') := by
  induction h with
  | done => exact h'
  | skip _ ih => exact .skip ih
  | refer _ ih => exact .refer ih
  | field _ ih => exact .field ih
  | text _ ih => exact .text ih
  | synonym ha _ ih => exact .synonym ha ih
  | record hinner _ _ ih => exact .record hinner ih
  | cut _ ih => exact .cut ih

/-- Items that are the same in some respect have scripts that are alike. -/
theorem each {α β : Type} {f : α → β} {items items' : List α} {p q : α → Script}
    (hitems : items.map f = items'.map f) (h : ∀ a a', f a = f a' → (p a).Alike (q a')) :
    (Script.each items p).Alike (.each items' q) := by
  induction items generalizing items' with
  | nil =>
      obtain rfl := List.map_eq_nil_iff.mp hitems.symm
      exact .done
  | cons a items ih =>
      obtain ⟨a', items', rfl, hhead, htail⟩ := List.map_eq_cons_iff.mp hitems.symm
      exact (h a a' hhead.symm).append (ih htail.symm)

theorem ofOption {α β : Type} {f : α → β} {item item' : Option α} {p q : α → Script}
    (hitem : item.map f = item'.map f) (h : ∀ a a', f a = f a' → (p a).Alike (q a')) :
    (Script.ofOption item p).Alike (.ofOption item' q) := by
  obtain ⟨rfl, rfl⟩ | ⟨a, a', rfl, rfl, ha⟩ := map_eq_map hitem
  · exact .done
  · exact h a a' ha

theorem fields {p q : Script} (h : p.Alike q) (fs : Fields) : p.fields fs = q.fields fs := by
  induction h generalizing fs with
  | done => rfl
  | skip _ ih | refer _ ih | synonym _ _ ih | record _ _ _ ih | cut _ ih => exact ih fs
  | field _ ih | text _ ih => exact ih _

end Script.Alike

/-! ## The state -/

/-- What is taken, in use and declared is the same, but for remarks on synonyms. -/
structure Alike (s s' : Emission) : Prop where
  context : s.context = s'.context
  declarations :
    List.Forall₂ (Option.Rel Code.Declaration.Alike) s.declarations s'.declarations

namespace Alike

variable {s s' : Emission}

theorem noted (h : s.Alike s') (type : TypeRef) : (s.noted type).Alike (s'.noted type) :=
  ⟨congrArg (·.note type) h.context, h.declarations⟩

theorem marked (h : s.Alike s') (name : String) : (s.marked name).Alike (s'.marked name) :=
  ⟨congrArg (·.markEmitted name) h.context, h.declarations⟩

theorem listed (h : s.Alike s') {declaration declaration' : Option Code.Declaration}
    (hdeclaration : Option.Rel Code.Declaration.Alike declaration declaration') :
    (s.listed declaration).Alike (s'.listed declaration') :=
  ⟨h.context, List.rel_append h.declarations (.cons hdeclaration .nil)⟩

theorem claiming (h : s.Alike s') (name : String) {declare declare' : Emission → Emission}
    (hdeclare : ∀ {s s' : Emission}, s.Alike s' → (declare s).Alike (declare' s')) :
    (s.claiming name declare).Alike (s'.claiming name declare') := by
  unfold Emission.claiming
  rw [h.context]
  split
  · exact h.listed .none
  · exact hdeclare (h.marked name)

end Alike

/-- Scripts that are alike lead to states that are alike. -/
theorem Script.Alike.emit {p q : Script} (h : p.Alike q) {s s' : Emission} (hs : s.Alike s') :
    (p.emit s).Alike (q.emit s') := by
  induction h generalizing s s' with
  | done => exact hs
  | skip _ ih => exact ih (hs.listed .none)
  | @refer type _ _ _ ih => exact ih (hs.noted type)
  | @field _ _ content _ _ _ ih => exact ih (hs.noted content.type)
  | @text type _ _ _ ih => exact ih (hs.noted type)
  | @synonym a a' _ _ ha _ ih =>
      refine ih ?_
      rw [← ha.name, ← ha.target]
      exact hs.claiming a.name fun hs => (hs.noted a.target).listed (.some (.synonym ha))
  | @record name _ _ _ _ _ _ hinner _ ihInner ih =>
      refine ih (hs.claiming name fun hs => (ihInner hs).listed ?_)
      rw [hinner.fields]
      exact .some (.record _)
  | cut _ ih => exact ih ⟨hs.context, hs.declarations⟩

/-! ## Simple types -/

section SimpleTypes

variable {t t' : SimpleType} (h : t.unprefixed = t'.unprefixed)

include h

theorem enumerations_alike : enumerations t = enumerations t' := by
  have henumerations (t : SimpleType) : enumerations t.unprefixed = enumerations t := by
    rw [SimpleType.unprefixed_eq]
    obtain ⟨_, _, _ | restriction, _ | union, _⟩ := t
    · rfl
    · simp only [enumerations, Option.map_none, Option.map_some, UnionType.unprefixed_eq,
        List.flatMap_map]
      refine List.flatMap_congr fun member _ => ?_
      rw [SimpleType.unprefixed_eq]
      cases member.restriction <;> rfl
    · rfl
    · rfl
  rw [← henumerations t, h, henumerations]

theorem remarks_alike : Code.RemarksAlike (remarks t) (remarks t') := by
  simp only [SimpleType.unprefixed_eq, SimpleType.mk.injEq] at h
  obtain ⟨-, -, hrestriction, hunion, hlist⟩ := h
  unfold remarks
  obtain ⟨hr, hr'⟩ | ⟨restriction, restriction', hr, hr', hsame⟩ := map_eq_map hrestriction
  · obtain ⟨hu, hu'⟩ | ⟨union, union', hu, hu', hunion⟩ := map_eq_map hunion
    · obtain ⟨hl, hl'⟩ | ⟨item, item', hl, hl', hitem⟩ := map_eq_map hlist
      · simp only [hr, hr', hu, hu', hl, hl']
        exact .same []
      · simp only [hr, hr', hu, hu', hl, hl']
        exact .list hitem
    · simp only [UnionType.unprefixed_eq, UnionType.mk.injEq] at hunion
      have hempty : union.memberTypes.isEmpty = union'.memberTypes.isEmpty := by
        simpa using congrArg List.isEmpty hunion.1
      simp only [hr, hr', hu, hu', hempty]
      split
      · exact .same []
      · exact .union hunion.1
  · have hfacets : restriction.unprefixed.facets = restriction'.unprefixed.facets :=
      congrArg Restriction.facets hsame
    simp only [Restriction.unprefixed] at hfacets
    simp only [hr, hr', hfacets]
    exact .same _

variable {r r' : Resolver} (hr : r.Alike r') (package : Option String)

include hr

theorem restrictedType_alike : restrictedType r package t = restrictedType r' package t' := by
  have hbase (t : SimpleType) : t.unprefixed.restriction.bind (·.base) =
      (t.restriction.bind (·.base)).map localName := by
    rw [SimpleType.unprefixed_eq]
    cases t.restriction <;> rfl
  unfold restrictedType
  obtain ⟨hb, hb'⟩ | ⟨base, base', hb, hb', hlocal⟩ :=
    map_eq_map ((hbase t).symm.trans (h ▸ hbase t'))
  · rw [hb, hb']
  · rw [hb, hb']
    exact hr.resolveType package hlocal

theorem synonymOf_alike (name : String) (documentation : Option String) :
    (synonymOf r package name t documentation).Alike
      (synonymOf r' package name t' documentation) := by
  have htarget := restrictedType_alike h hr package
  have hconstants := enumerations_alike h
  refine ⟨rfl, ?_, ?_, documentation.toList, remarks t, remarks t', remarks_alike h, rfl, rfl⟩
  · exact congrArg (synonymTarget name) htarget
  · simp only [synonymOf, htarget, hconstants]

theorem synonymScript_alike (name : String) :
    (synonymScript r package name t t.documentation).Alike
      (synonymScript r' package name t' t'.documentation) := by
  rw [SimpleType.documentation_eq h]
  exact .synonym (synonymOf_alike h hr package name _) .done

end SimpleTypes

/-! ## Tasks -/

/-- Tasks that are the same without prefixes. -/
inductive Task.Alike : Task → Task → Prop
  | content {parent : String} {t t' : ComplexType} : t.unprefixed = t'.unprefixed →
      Task.Alike (.content parent t) (.content parent t')
  | element {parent : String} {e e' : Element} : e.unprefixed = e'.unprefixed →
      Task.Alike (.element parent e) (.element parent e')
  | group {parent reference reference' : String} : localName reference = localName reference' →
      Task.Alike (.group parent reference) (.group parent reference')
  | attributes {parent : String} {attributes attributes' : List Attribute}
      {groups groups' : List String} :
      attributes.map (·.unprefixed) = attributes'.map (·.unprefixed) →
      groups.map localName = groups'.map localName →
      Task.Alike (.attributes parent attributes groups) (.attributes parent attributes' groups')

section Tasks

variable {r r' : Resolver} (hr : r.Alike r') (package : Option String)

include hr in
theorem textScript_alike (parent : String) {base base' : Option String}
    (h : base.map localName = base'.map localName) :
    textScript r package parent base = textScript r' package parent base' := by
  obtain ⟨rfl, rfl⟩ | ⟨base, base', rfl, rfl, hlocal⟩ := map_eq_map h
  · rfl
  · simp only [textScript, hr.resolveType package hlocal]

include hr in
theorem attributeScript_alike (parent : String) {a a' : Attribute}
    (h : a.unprefixed = a'.unprefixed) :
    (attributeScript r package parent a).Alike (attributeScript r' package parent a') := by
  simp only [Attribute.unprefixed, Attribute.mk.injEq] at h
  obtain ⟨hname, href, htype, -, -, hdocumentation, hsimple⟩ := h
  unfold attributeScript
  rw [hname, hdocumentation]
  cases a'.name with
  | some name =>
      unfold attributeTypeScript
      obtain ⟨ht, ht'⟩ | ⟨type, type', ht, ht', hlocal⟩ := map_eq_map htype
      · obtain ⟨hs, hs'⟩ | ⟨t, t', hs, hs', hsame⟩ := map_eq_map hsimple
        · simp only [ht, ht', hs, hs']
          exact .refl _
        · simp only [ht, ht', hs, hs']
          exact (synonymScript_alike hsame hr package _).append (.refl _)
      · simp only [ht, ht', hr.resolveType package hlocal]
        exact .refl _
  | none =>
      obtain ⟨hf, hf'⟩ | ⟨reference, reference', hf, hf', hlocal⟩ := map_eq_map href
      · simp only [hf, hf']
        exact .done
      · simp only [hf, hf', hlocal]
        exact .refl _

variable {scripts scripts' : Scripting} {k : Stacks}
  (hself : ∀ k {task task' : Task}, task.Alike task' →
    (scripts k task).Alike (scripts' k task'))

include hself

theorem elements_alike (parent : String) {es es' : List Element}
    (h : es.map (·.unprefixed) = es'.map (·.unprefixed)) :
    (Script.each es fun e => scripts k (.element parent e)).Alike
      (.each es' fun e => scripts' k (.element parent e)) :=
  .each h fun _ _ he => hself _ (.element he)

theorem groups_alike (parent : String) {groups groups' : List String}
    (h : groups.map localName = groups'.map localName) :
    (Script.each groups fun g => scripts k (.group parent g)).Alike
      (.each groups' fun g => scripts' k (.group parent g)) :=
  .each h fun _ _ hg => hself _ (.group hg)

theorem recordScript_alike (name xmlName : String) {t t' : ComplexType}
    (h : t.unprefixed = t'.unprefixed) :
    (recordScript scripts k name xmlName t t.documentation).Alike
      (recordScript scripts' k name xmlName t' t'.documentation) := by
  rw [ComplexType.documentation_eq h]
  exact .record (hself _ (.content h)) .done

theorem inlineScript_alike (declared : String) {t t' : ComplexType}
    (h : t.unprefixed = t'.unprefixed) (p : Script) :
    ((inlineScript scripts k declared t).getD p).Alike
      ((inlineScript scripts' k declared t').getD p) := by
  unfold inlineScript
  dsimp only
  split
  · exact .refl p
  · exact hself _ (.content h)

section Derivations

variable {d d' : Derivation} (h : d.unprefixed = d'.unprefixed) (parent : String)

include h

theorem additionScript_alike :
    (additionScript scripts k parent d).Alike (additionScript scripts' k parent d') := by
  simp only [Derivation.unprefixed_eq, Xsd.Derivation.mk.injEq] at h
  obtain ⟨-, -, helements, hwildcards, hgroups, hattributes, hattributeGroups⟩ := h
  unfold additionScript
  rw [hwildcards]
  exact (((elements_alike hself parent helements).append
    (groups_alike hself parent hgroups)).append (.refl _)).append
    (hself k (.attributes hattributes hattributeGroups))

include hr

omit hself in
theorem base_alike : d.kind = d'.kind ∧ d.base.map localName = d'.base.map localName ∧
    (d.base.bind r.baseType?).map (Prod.map id (·.unprefixed)) =
      (d'.base.bind r'.baseType?).map (Prod.map id (·.unprefixed)) := by
  simp only [Derivation.unprefixed_eq, Xsd.Derivation.mk.injEq] at h
  obtain ⟨hkind, hbase, -⟩ := h
  refine ⟨hkind, hbase, ?_⟩
  obtain ⟨hb, hb'⟩ | ⟨base, base', hb, hb', hlocal⟩ := map_eq_map hbase
  · rw [hb, hb']
    rfl
  · rw [hb, hb']
    exact hr.baseType? hlocal

theorem complexContentScript_alike :
    (complexContentScript r scripts k parent d).Alike
      (complexContentScript r' scripts' k parent d') := by
  obtain ⟨hkind, -, hbase⟩ := base_alike hr h
  have hextended : (if d.kind = .extension then d.base.bind r.baseType? else none).map
        (Prod.map id (·.unprefixed)) =
      (if d'.kind = .extension then d'.base.bind r'.baseType? else none).map
        (Prod.map id (·.unprefixed)) := by
    rw [hkind]
    split
    · exact hbase
    · rfl
  refine Script.Alike.append ?_ (additionScript_alike hself h parent)
  obtain ⟨hb, hb'⟩ | ⟨declared, t, t', hb, hb', ht⟩ := map_eq_map_named hextended
  · rw [hb, hb']
    exact .done
  · rw [hb, hb']
    exact inlineScript_alike hself declared ht _

theorem simpleContentScript_alike :
    (simpleContentScript r package scripts k parent d).Alike
      (simpleContentScript r' package scripts' k parent d') := by
  obtain ⟨hkind, hname, hbase⟩ := base_alike hr h
  refine Script.Alike.append ?_ (additionScript_alike hself h parent)
  obtain ⟨hb, hb'⟩ | ⟨declared, t, t', hb, hb', ht⟩ := map_eq_map_named hbase
  · rw [hb, hb']
    exact textScript_alike hr package parent hname ▸ .refl _
  · rw [hb, hb', hkind]
    dsimp only
    split
    · exact inlineScript_alike hself declared ht _
    · exact .refl _

end Derivations

include hr

theorem contentScript_alike (parent : String) {t t' : ComplexType}
    (h : t.unprefixed = t'.unprefixed) :
    (contentScript r package scripts k parent t).Alike
      (contentScript r' package scripts' k parent t') := by
  simp only [ComplexType.unprefixed_eq, ComplexType.mk.injEq] at h
  obtain ⟨-, -, -, hmixed, hsequence, hchoice, hall, hwildcards, hgroups, hcomplex, hsimple,
    hattributes, hattributeGroups⟩ := h
  have hinPlace : (t.sequence ++ t.choice ++ t.all).map (·.unprefixed) =
      (t'.sequence ++ t'.choice ++ t'.all).map (·.unprefixed) := by
    simp only [List.map_append, hsequence, hchoice, hall]
  have hcomplex := Script.Alike.ofOption hcomplex fun _ _ hd =>
    complexContentScript_alike (k := k) hr hself hd parent
  have hsimple := Script.Alike.ofOption hsimple fun _ _ hd =>
    simpleContentScript_alike (k := k) hr package hself hd parent
  unfold contentScript
  rw [hwildcards, hmixed]
  exact (((((hcomplex.append hsimple).append (elements_alike hself parent hinPlace)).append
    (groups_alike hself parent hgroups)).append (.refl _)).append
    (hself k (.attributes hattributes hattributeGroups))).append (.refl _)

theorem elementScript_alike (parent : String) {e e' : Element} (h : e.unprefixed = e'.unprefixed) :
    (elementScript r package scripts k parent e).Alike
      (elementScript r' package scripts' k parent e') := by
  have htypes := Element.types_alike h
  simp only [Element.unprefixed_eq, Element.mk.injEq] at h
  obtain ⟨hname, href, -, -, hmax, -, hdocumentation, -⟩ := h
  have hcontent : elementContent e = elementContent e' := by
    funext name type
    unfold elementContent
    rw [hmax]
  unfold elementScript
  rw [hname, hdocumentation, hcontent]
  obtain ⟨hf, hf'⟩ | ⟨reference, reference', hf, hf', hlocal⟩ := map_eq_map href
  · rw [hf, hf']
    cases e'.name with
    | none => exact .done
    | some name =>
        unfold elementTypeScript
        cases htypes with
        | none ht ht' hc hc' hs hs' =>
            simp only [ht, ht', hc, hc', hs, hs']
            exact .refl _
        | type ht ht' hlocal =>
            simp only [ht, ht', hr.resolve package hlocal]
            exact .refl _
        | complexType ht ht' hc hc' hsame =>
            simp only [ht, ht', hc, hc']
            exact (recordScript_alike hself _ _ hsame).append (.refl _)
        | simpleType ht ht' hc hc' hs hs' hsame =>
            simp only [ht, ht', hc, hc', hs, hs']
            exact (synonymScript_alike hsame hr package _).append (.refl _)
  · simp only [hf, hf', hlocal, hr.resolveElement package hlocal]
    exact .refl _

theorem groupScript_alike (parent : String) {reference reference' : String}
    (h : localName reference = localName reference') :
    (groupScript r scripts k parent reference).Alike
      (groupScript r' scripts' k parent reference') := by
  unfold groupScript
  rw [h]
  dsimp only
  split
  · exact .done
  · obtain ⟨hg, hg'⟩ | ⟨g, g', hg, hg', hsame⟩ := map_eq_map (hr.group? h)
    · rw [hg, hg']
      exact .done
    · rw [hg, hg']
      simp only [Group.unprefixed, Group.mk.injEq] at hsame
      obtain ⟨-, -, -, helements, hgroups⟩ := hsame
      exact (elements_alike hself parent helements).append (groups_alike hself parent hgroups)

theorem attributeGroupScript_alike (parent : String) {reference reference' : String}
    (h : localName reference = localName reference') :
    (attributeGroupScript r scripts k parent reference).Alike
      (attributeGroupScript r' scripts' k parent reference') := by
  unfold attributeGroupScript
  rw [h]
  dsimp only
  split
  · exact .done
  · obtain ⟨hg, hg'⟩ | ⟨g, g', hg, hg', hsame⟩ := map_eq_map (hr.attributeGroup? h)
    · rw [hg, hg']
      exact .done
    · rw [hg, hg']
      simp only [AttributeGroup.unprefixed, AttributeGroup.mk.injEq] at hsame
      obtain ⟨-, -, -, hattributes, hgroups⟩ := hsame
      exact hself _ (.attributes hattributes hgroups)

theorem stepScript_alike {task task' : Task} (h : task.Alike task') :
    (stepScript r package scripts k task).Alike (stepScript r' package scripts' k task') := by
  cases h with
  | content ht => exact contentScript_alike hr package hself _ ht
  | element he => exact elementScript_alike hr package hself _ he
  | group hg => exact groupScript_alike hr hself _ hg
  | @attributes parent _ _ _ _ hattributes hgroups =>
      have hfields := Script.Alike.each hattributes fun _ _ ha =>
        attributeScript_alike hr package parent ha
      have hgroups := Script.Alike.each hgroups fun _ _ hg =>
        attributeGroupScript_alike (k := k) hr hself parent hg
      exact hfields.append hgroups

omit hself in
/-- To every depth, tasks that are the same without prefixes have scripts that are alike. -/
theorem script_alike (depth : Nat) (k : Stacks) {task task' : Task} (h : task.Alike task') :
    (script r package depth k task).Alike (script r' package depth k task') := by
  induction depth generalizing k task task' with
  | zero => exact .cut .done
  | succ depth ih => exact stepScript_alike hr package ih h

end Tasks

/-! ## Schemas -/

/-- Drafts of declarations that are alike. -/
inductive Draft.Alike : Draft → Draft → Prop
  | skip : Draft.Alike .skip .skip
  | synonym {a a' : Code.Synonym} : a.Alike a' → Draft.Alike (.synonym a) (.synonym a')
  | plain {documentation : Option String} {text : Option TypeRef} :
      Draft.Alike (.plain documentation text) (.plain documentation text)
  | record {documentation : Option String} {k : Stacks} {task task' : Task} : task.Alike task' →
      Draft.Alike (.record documentation k task) (.record documentation k task')

section Schemas

variable {r r' : Resolver} (hr : r.Alike r') (package : Option String) (k : Stacks)

include hr

theorem typedDraft_alike (xmlName : String) {type type' : String}
    (h : localName type = localName type') (documentation : Option String) :
    (typedDraft r package k xmlName type documentation).Alike
      (typedDraft r' package k xmlName type' documentation) := by
  have hresolve := hr.resolve package h
  have hcovered (name : String) :
      isCovered r package name type = isCovered r' package name type' := by
    unfold isCovered
    rw [hresolve]
  unfold typedDraft
  simp only [hresolve, hcovered]
  split
  · exact .skip
  · split
    · exact .plain
    · obtain ⟨hc, hc'⟩ | ⟨declared, t, t', hc, hc', ht⟩ := map_eq_map_named (hr.complexType? h)
      · rw [hc, hc']
        exact .synonym (.refl _)
      · rw [hc, hc']
        dsimp only
        split
        · exact .plain
        · exact .record (.content ht)

theorem elementDraft_alike (xmlName : String) {e e' : Element} (h : e.unprefixed = e'.unprefixed) :
    (elementDraft r package k xmlName e).Alike (elementDraft r' package k xmlName e') := by
  have htypes := Element.types_alike h
  simp only [Element.unprefixed_eq, Element.mk.injEq] at h
  obtain ⟨-, -, -, -, -, -, hdocumentation, -⟩ := h
  unfold elementDraft
  cases htypes with
  | none ht ht' hc hc' hs hs' =>
      simp only [ht, ht', hc, hc', hs, hs', hdocumentation]
      exact .plain
  | type ht ht' hlocal =>
      simp only [ht, ht', hdocumentation]
      exact typedDraft_alike hr package k xmlName hlocal _
  | complexType ht ht' hc hc' hsame =>
      simp only [ht, ht', hc, hc', hdocumentation, ComplexType.documentation_eq hsame]
      exact .record (.content hsame)
  | simpleType ht ht' hc hc' hs hs' hsame =>
      simp only [ht, ht', hc, hc', hs, hs', hdocumentation, SimpleType.documentation_eq hsame]
      exact .synonym (synonymOf_alike hsame hr package _ _)

theorem draft_alike (xmlName : String) {definition definition' : Definition}
    (h : definition.unprefixed = definition'.unprefixed) :
    (draft r package k xmlName definition).Alike (draft r' package k xmlName definition') := by
  cases definition <;> cases definition' <;>
    simp only [Definition.unprefixed, reduceCtorEq, Definition.element.injEq,
      Definition.simpleType.injEq, Definition.complexType.injEq,
      Definition.attributeGroup.injEq] at h
  case element e e' => exact elementDraft_alike hr package k xmlName h
  case simpleType t t' =>
    simp only [draft, SimpleType.documentation_eq h]
    exact .synonym (synonymOf_alike h hr package _ _)
  case complexType t t' =>
    simp only [draft, ComplexType.documentation_eq h]
    exact .record (.content h)
  case attributeGroup g g' =>
    simp only [AttributeGroup.unprefixed, AttributeGroup.mk.injEq] at h
    obtain ⟨-, -, hinner, hattributes, hgroups⟩ := h
    simp only [draft, hinner]
    exact .record (.attributes hattributes hgroups)

variable {scripts scripts' : Scripting}
  (hself : ∀ k {task task' : Task}, task.Alike task' →
    (scripts k task).Alike (scripts' k task'))

include hself

omit hr in
theorem Draft.Alike.script {found found' : Draft} (h : found.Alike found') (xmlName : String) :
    (found.script scripts xmlName).Alike (found'.script scripts' xmlName) := by
  cases h with
  | skip => exact .refl _
  | synonym ha => exact .synonym ha .done
  | plain => exact .refl _
  | record htask => exact .record (hself _ htask) .done

theorem definitionScript_alike {name name' : Option String} (hname : name = name')
    {definition definition' : Definition} (h : definition.unprefixed = definition'.unprefixed) :
    (definitionScript r package scripts k name definition).Alike
      (definitionScript r' package scripts' k name' definition') := by
  subst hname
  cases name with
  | none => exact .refl _
  | some xmlName => exact (draft_alike hr package k xmlName h).script hself xmlName

theorem schemaScript_alike {s s' : Schema} (h : s.unprefixed = s'.unprefixed) :
    (schemaScript r package scripts k s).Alike (schemaScript r' package scripts' k s') := by
  simp only [Schema.unprefixed, Schema.mk.injEq] at h
  obtain ⟨-, -, -, -, -, -, helements, hcomplex, hsimple, hgroups, -⟩ := h
  refine .append (.append (.append (.each hsimple fun t t' ht => ?_)
    (.each hcomplex fun t t' ht => ?_)) (.each helements fun e e' he => ?_))
    (.each hgroups fun g g' hg => ?_)
  · exact definitionScript_alike hr package k hself
      (by simpa using congrArg SimpleType.name ht) (congrArg Definition.simpleType ht)
  · exact definitionScript_alike hr package k hself
      (by simpa using congrArg ComplexType.name ht) (congrArg Definition.complexType ht)
  · exact definitionScript_alike hr package k hself
      (by simpa using congrArg Element.name he) (congrArg Definition.element he)
  · exact definitionScript_alike hr package k hself
      (congrArg AttributeGroup.name hg) (congrArg Definition.attributeGroup hg)

end Schemas

end Emission

/-! ## Packages -/

namespace Document

open Emission

/-- Any depth from the bound on will do for the script of a package. -/
theorem emitPackage_deeper (d : Document) (package : String) (more : Nat) :
    d.emitPackage (.ofDocument d) package =
      (Script.each (d.schemasIn package) (schemaScript (.ofDocument d) (some package)
        (script (.ofDocument d) (some package) (d.expansionBound + more)) {})).emit
        { context := { package := some package } } := by
  have hagree := schemas_agree d (some package) {} (d.schemasIn_subset package)
    (Nat.le_add_right d.expansionBound more)
  rw [emitPackage_eq]
  exact (hagree.emit (List.nil_subset _)).1

section Packages

variable {d d' : Document} (h : d.unprefixed = d'.unprefixed)

include h

theorem packages_alike : d.packages = d'.packages := by
  rw [← packages_unprefixed d, h, packages_unprefixed]

theorem schemasIn_alike (package : String) :
    (d.schemasIn package).map (·.unprefixed) = (d'.schemasIn package).map (·.unprefixed) := by
  rw [← schemasIn_unprefixed, h, schemasIn_unprefixed]

/-- The bounds of the two documents need not be the same, so both are expanded to their sum. -/
theorem emitPackage_alike (package : String) :
    (d.emitPackage (.ofDocument d) package).Alike (d'.emitPackage (.ofDocument d') package) := by
  have hr := resolvers_alike h
  have hscripts : (Script.each (d.schemasIn package) (schemaScript (.ofDocument d) (some package)
        (script (.ofDocument d) (some package) (d.expansionBound + d'.expansionBound)) {})).Alike
      (.each (d'.schemasIn package) (schemaScript (.ofDocument d') (some package)
        (script (.ofDocument d') (some package) (d.expansionBound + d'.expansionBound)) {})) :=
    .each (schemasIn_alike h package) fun _ _ hs =>
      schemaScript_alike hr (some package) {} (script_alike hr (some package) _) hs
  have hdeeper' := emitPackage_deeper d' package d.expansionBound
  rw [Nat.add_comm] at hdeeper'
  rw [emitPackage_deeper d package d'.expansionBound, hdeeper']
  exact hscripts.emit ⟨rfl, .nil⟩

theorem sources_alike (package : String) :
    ((d.schemasIn package).findSome? (·.location) <|> d.location) =
      ((d'.schemasIn package).findSome? (·.location) <|> d'.location) := by
  have hschemas (d : Document) : (d.schemasIn package).findSome? (·.location) =
      (d.unprefixed.schemasIn package).findSome? (·.location) := by
    rw [schemasIn_unprefixed, List.findSome?_map]
    rfl
  have hlocation : d.unprefixed.location = d'.unprefixed.location := congrArg Document.location h
  rw [hschemas d, hschemas d', h]
  exact congrArg (fun location => _ <|> location) hlocation

theorem operationsModule_alike (operations : String) :
    d.operationsModule (.ofDocument d) operations =
      d'.operationsModule (.ofDocument d') operations := by
  rw [← operationsModule_unprefixed d, h, operationsModule_unprefixed]

end Packages

end Document

/-! ## Code -/

namespace Code

/-- Code that is the same token for token, except where it says what the members of a union or the
items of a list are. -/
inductive TokensAlike : Tokens → Tokens → Prop
  | same (tokens : Tokens) : TokensAlike tokens tokens
  | append {a a' b b' : Tokens} : TokensAlike a a' → TokensAlike b b' →
      TokensAlike (a ++ b) (a' ++ b')
  | remarks {texts texts' : List String} : RemarksAlike texts texts' →
      TokensAlike (comments texts) (comments texts')

theorem TokensAlike.flatMap {α : Type} {R : α → α → Prop} {f : α → Tokens} {items items' : List α}
    (h : List.Forall₂ R items items') (hf : ∀ a a', R a a' → TokensAlike (f a) (f a')) :
    TokensAlike (items.flatMap f) (items'.flatMap f) := by
  induction h with
  | nil => exact .same []
  | cons hhead _ ih =>
      rw [List.flatMap_cons, List.flatMap_cons]
      exact (hf _ _ hhead).append ih

theorem comments_append (texts more : List String) :
    comments (texts ++ more) = comments texts ++ comments more := by
  simp [comments, commentLines]

theorem Synonym.Alike.tokens {a a' : Synonym} (h : a.Alike a') :
    TokensAlike a.tokens a'.tokens := by
  obtain ⟨hname, htarget, hconstants, own, remarks, remarks', hremarks, hown, hown'⟩ := h
  unfold Synonym.tokens
  dsimp only
  rw [hname, htarget, hconstants, hown, hown', comments_append, comments_append]
  refine .append (.append (.append (.append (.append (.same _) (.remarks hremarks)) (.same _))
    (.same _)) (.same _)) (.same _)

namespace Declaration.Alike

variable {declaration declaration' : Declaration} (h : declaration.Alike declaration')

include h

theorem tokens : TokensAlike declaration.tokens declaration'.tokens := by
  cases h with
  | synonym ha => exact ha.tokens
  | record r => exact .same _

theorem identifiers : declaration.identifiers = declaration'.identifiers := by
  cases h with
  | synonym ha => simp only [Declaration.identifiers, ha.name, ha.target, ha.constants]
  | record r => rfl

end Declaration.Alike

/-- Modules of types that are alike. -/
structure SourceModule.Alike (m m' : SourceModule) : Prop where
  package : m.package = m'.package
  source : m.source = m'.source
  imports : m.imports = m'.imports
  body : ∃ declarations declarations', m.body = .types declarations ∧
    m'.body = .types declarations' ∧ List.Forall₂ Declaration.Alike declarations declarations'

namespace SourceModule.Alike

variable {m m' : SourceModule} (h : m.Alike m')

include h

theorem tokens : TokensAlike m.tokens m'.tokens := by
  obtain ⟨hpackage, hsource, himports, declarations, declarations', hbody, hbody', halike⟩ := h
  have hheader : m.header = m'.header := by
    simp only [header, title, hpackage, hsource, himports, hbody, hbody']
  unfold SourceModule.tokens
  rw [hheader, hbody, hbody']
  exact .append (.same _) (.flatMap halike fun _ _ hd => hd.tokens)

theorem isWellNamed : m.isWellNamed = m'.isWellNamed := by
  obtain ⟨-, -, himports, declarations, declarations', hbody, hbody', halike⟩ := h
  have hdeclarations : declarations.map (·.identifiers) = declarations'.map (·.identifiers) := by
    rw [← List.forall₂_eq_eq_eq, List.forall₂_map_left_iff, List.forall₂_map_right_iff]
    exact halike.imp fun _ _ hd => hd.identifiers
  simp only [SourceModule.isWellNamed, SourceModule.identifiers, Body.identifiers, himports, hbody,
    hbody', List.flatMap_def, hdeclarations]

end SourceModule.Alike

end Code

namespace Document

theorem typesModule_alike {d d' : Document} (h : d.unprefixed = d'.unprefixed) (package : String)
    {s s' : Emission} (hs : s.Alike s') :
    (d.typesModule package s).Alike (d'.typesModule package s') where
  package := rfl
  source := sources_alike h package
  imports := congrArg Context.imports hs.context
  body := ⟨_, _, rfl, rfl, List.rel_filterMap (fun _ _ h => h) hs.declarations⟩

/-- **Generated code is blind to prefixes.**  Of two documents that are equal but for the prefixes
of their references, code is generated for both or for neither, and if for neither then they fail
alike.  The modules are the same, token for token but for the lines that say what the members of a
union or the items of a list are; that of the clients is the same altogether. -/
theorem generate_prefixes {d d' : Document} (h : d.unprefixed = d'.unprefixed)
    (operations : String) :
    (∃ g g', d.generate operations = .ok g ∧ d'.generate operations = .ok g' ∧
      List.Forall₂ (fun m m' => m.Alike m' ∧ Code.TokensAlike m.tokens m'.tokens)
        g.types g'.types ∧
      g.operations = g'.operations) ∨
    ∃ e, d.generate operations = .error e ∧ d'.generate operations = .error e := by
  have hmodule (package : String) := typesModule_alike h package (emitPackage_alike h package)
  have htypes : (d.packages.all fun package =>
      (d.typesModule package (d.emitPackage (.ofDocument d) package)).isWellNamed) =
      d.packages.all fun package =>
        (d'.typesModule package (d'.emitPackage (.ofDocument d') package)).isWellNamed :=
    congrArg _ (funext fun package => (hmodule package).isWellNamed)
  rw [generate_eq d, generate_eq d', ← packages_alike h, ← operationsModule_alike h, htypes]
  split
  · split
    · refine .inl ⟨_, _, rfl, rfl, ?_, rfl⟩
      rw [List.forall₂_map_left_iff, List.forall₂_map_right_iff, List.forall₂_same]
      exact fun package _ => ⟨hmodule package, (hmodule package).tokens⟩
    · exact .inr ⟨_, rfl, rfl⟩
  · exact .inr ⟨_, rfl, rfl⟩

/-- A union and a service that asks for a value of it, with some prefix on every reference. -/
def fitting (mark : String) : Document where
  kind := .wsdl
  location := none
  rootPackage := basePackage
  definitions := {
    schemas := [{
      identifier := basePackage
      simpleTypes := [{
        name := some "Size"
        union := some { memberTypes := [mark ++ "int", mark ++ "token"] } }]
      elements := [{ name := some "Fit", type := some (mark ++ "Size") }] }]
    messages := [{
      name := "FitRequest"
      parts := [{ name := "size", element := some (mark ++ "Fit") }] }]
    portTypes := [{
      name := "Fitting"
      operations := [{ name := "Try", input := some (mark ++ "FitRequest") }] }]
    bindings := [{
      name := "FittingBinding"
      type := mark ++ "Fitting"
      operations := [{ name := "Try", action := some "try" }] }] }
  registry := {}

theorem fitting_unprefixed : (fitting "t:").unprefixed = (fitting "").unprefixed := by
  rfl

theorem generate_prefixes_fitting :
    ∃ g g', (fitting "t:").generate "operations" = .ok g ∧
      (fitting "").generate "operations" = .ok g' ∧
      g.types.map (·.body.remarks) = [["Union of t:int, t:token"]] ∧
      g'.types.map (·.body.remarks) = [["Union of int, token"]] ∧
      List.Forall₂ (fun m m' => Code.TokensAlike m.tokens m'.tokens) g.types g'.types ∧
      g.operations = g'.operations := by
  have hremarks (mark : String) (remarks : List (List String))
      (h : ((fitting mark).generate "operations").toOption.map
        (fun g => g.types.map (·.body.remarks)) = some remarks) {g : Generated}
      (hg : (fitting mark).generate "operations" = .ok g) :
      g.types.map (·.body.remarks) = remarks := by
    rw [hg] at h
    exact Option.some.inj h
  obtain ⟨g, g', hg, hg', htypes, hoperations⟩ | ⟨e, he, -⟩ :=
    generate_prefixes fitting_unprefixed "operations"
  · refine ⟨g, g', hg, hg', ?_, ?_, htypes.imp fun _ _ h => h.2, hoperations⟩
    · exact hremarks "t:" _ (by decide +kernel) hg
    · exact hremarks "" _ (by decide +kernel) hg'
  · have hgenerates : (fitting "t:").generates "operations" := by decide +kernel
    obtain ⟨g, hg⟩ := exists_of_generates hgenerates
    rw [he] at hg
    cases hg

end Document

end SoapBindings
