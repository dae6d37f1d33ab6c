/-
# `SoapBindings.Proofs.Emission.Contents` — the fields of a script in order

`Script.contents` says what the actions of a script have to add, in their order.  All of that
becomes fields of the record at hand, behind those that it has, as long as no text is among it: of
texts only the first one is kept, wherever it comes from.
-/
import SoapBindings.Proofs.Emission.Finite

namespace SoapBindings

open Xsd Emission

/-- The field is for elements of one name. -/
def Code.Content.isElement : Code.Content → Bool
  | elements _ _ | element _ _ => true
  | attr _ _ | text _ | wildcard => false

namespace Emission

/-- What the fields so far hold. -/
def Fields.contents (fs : Fields) : List Code.Content := fs.fields.map (·.content)

/-- A text becomes a field unless there is one. -/
theorem Fields.addText_contents (fs : Fields) (type : TypeRef) :
    (fs.addText type).contents =
      if fs.contents.filter (·.isText) = [] then fs.contents ++ [.text type] else fs.contents := by
  have hany : fs.fields.any (·.content.isText) ↔ fs.contents.filter (·.isText) ≠ [] := by
    simp [Fields.contents, List.filter_eq_nil_iff]
  unfold Fields.addText
  by_cases htext : fs.contents.filter (·.isText) = []
  · rw [if_pos htext, if_neg (mt hany.mp (not_not.mpr htext))]
    simp [Fields.contents, Fields.add]
  · rw [if_neg htext, if_pos (hany.mpr htext)]
    rfl

namespace Script

theorem each_append {α : Type} (items more : List α) (p : α → Script) :
    each (items ++ more) p = each items p ++ each more p := by
  induction items with
  | nil => rfl
  | cons item items ih => rw [List.cons_append, each_cons, each_cons, ih, append_assoc]

theorem each_flatMap {α β : Type} (items : List α) (inside : α → List β) (p : β → Script) :
    each (items.flatMap inside) p = each items fun item => each (inside item) p := by
  induction items with
  | nil => rfl
  | cons item items ih => rw [List.flatMap_cons, each_append, each_cons, ih]

theorem contents_each {α : Type} (items : List α) (p : α → Script) :
    (each items p).contents = items.flatMap fun item => (p item).contents := by
  induction items with
  | nil => rfl
  | cons item items ih => rw [each_cons, contents_append, ih, List.flatMap_cons]

/-- Contents without a text become fields one by one. -/
theorem fields_contents {p : Script} (h : ∀ content ∈ p.contents, content.isText = false)
    (fs : Fields) : (p.fields fs).contents = fs.contents ++ p.contents := by
  induction p generalizing fs with
  | done => exact (List.append_nil _).symm
  | skip rest ih | refer _ rest ih | synonym _ rest ih | record _ _ _ _ rest _ ih | cut rest ih =>
      exact ih h fs
  | field name documentation content rest ih =>
      have hrest := ih (fun other hother => h other (List.mem_cons_of_mem _ hother))
        (fs.add name documentation content)
      simpa [Fields.contents, Fields.add, contents, fields] using hrest
  | text type rest ih => exact absurd (h _ List.mem_cons_self) (by simp [Code.Content.isText])

/-- Fields that are there stay in front. -/
theorem contents_kept (p : Script) (fs : Fields) : fs.contents <+: (p.fields fs).contents :=
  (p.fields_prefix fs).map _

/-- Texts have an action of their own: no other field of the record at hand is one. -/
def TextsApart : Script → Prop
  | done => True
  | field _ _ content rest => content.isText = false ∧ rest.TextsApart
  | skip rest | refer _ rest | text _ rest | synonym _ rest | record _ _ _ _ rest | cut rest =>
    rest.TextsApart

theorem TextsApart.append {p q : Script} (hp : p.TextsApart) (hq : q.TextsApart) :
    (p ++ q).TextsApart := by
  induction p with
  | done => exact hq
  | field name documentation content rest ih => exact ⟨hp.1, ih hp.2⟩
  | skip rest ih | refer _ rest ih | text _ rest ih | synonym _ rest ih | record _ _ _ _ rest _ ih
  | cut rest ih => exact ih hp

/-- The first text is kept, and no other. -/
theorem fields_texts {p : Script} (hp : p.TextsApart) {fs : Fields}
    (hfs : (fs.contents.filter (·.isText)).length ≤ 1) :
    (p.fields fs).contents.filter (·.isText) =
      ((fs.contents ++ p.contents).filter (·.isText)).take 1 := by
  induction p generalizing fs with
  | done => simpa [contents, fields] using (List.take_of_length_le hfs).symm
  | skip rest ih | refer _ rest ih | synonym _ rest ih | record _ _ _ _ rest _ ih | cut rest ih =>
      exact ih hp hfs
  | field name documentation content rest ih =>
      have hadd : (fs.add name documentation content).contents = fs.contents ++ [content] := by
        simp [Fields.contents, Fields.add]
      have hrest := @ih hp.2 (fs.add name documentation content)
        (by simpa [hadd, hp.1] using hfs)
      simpa [hadd, contents, fields] using hrest
  | text type rest ih =>
      have hadd := fs.addText_contents type
      cases hfound : fs.contents.filter (·.isText) with
      | nil =>
          rw [hfound, if_pos rfl] at hadd
          have hone : ((fs.addText type).contents.filter (·.isText)).length ≤ 1 := by
            rw [hadd, List.filter_append, hfound]
            exact Nat.le_refl 1
          have hrest := ih hp hone
          simpa [hadd, contents, fields] using hrest
      | cons found others =>
          rw [hfound, if_neg (List.cons_ne_nil _ _)] at hadd
          have hrest := @ih hp (fs.addText type) (hadd ▸ hfs)
          simpa [hadd, hfound, contents, fields] using hrest

end Script

/-- Elements become fields one by one, whatever is among them. -/
theorem Script.fields_elements (p : Script) (fs : Fields) :
    (p.fields fs).contents.filter (·.isElement) =
      fs.contents.filter (·.isElement) ++ p.contents.filter (·.isElement) := by
  induction p generalizing fs with
  | done => exact (List.append_nil _).symm
  | skip rest ih | refer _ rest ih | synonym _ rest ih | record _ _ _ _ rest _ ih | cut rest ih =>
      exact ih fs
  | field name documentation content rest ih =>
      have hadd : (fs.add name documentation content).contents = fs.contents ++ [content] := by
        simp [Fields.contents, Fields.add]
      have hrest := ih (fs.add name documentation content)
      rwa [hadd, List.filter_append, List.append_assoc, ← List.filter_append] at hrest
  | text type rest ih =>
      have hadd : (fs.addText type).contents.filter (·.isElement) =
          fs.contents.filter (·.isElement) := by
        rw [fs.addText_contents]
        split
        · rw [List.filter_append]
          exact List.append_nil _
        · rfl
      exact (ih (fs.addText type)).trans (congrArg (· ++ _) hadd)

/-! ## Elements and attributes -/

/-- What the field for an element holds.  There is none for an element without any name. -/
def elementField? (r : Resolver) (package : Option String) (parent : String) (e : Element) :
    Option Code.Content :=
  match e.ref, e.name with
  | some reference, _ =>
    some (elementContent e (Naming.localName reference) (r.resolveElement package reference))
  | none, some name =>
    some (elementContent e name (match e.type, e.complexType, e.simpleType with
      | some type, _, _ => r.resolve package type
      | none, some _, _ => .own (anonymousName parent name) (some .complexType)
      | none, none, some _ => .own (anonymousName parent name) (some .simpleType)
      | none, none, none => plainText))
  | none, none => none

/-- What the field for an attribute holds.  There is none for an attribute without any name. -/
def attributeField? (r : Resolver) (package : Option String) (parent : String) (a : Attribute) :
    Option Code.Content :=
  match a.name, a.ref with
  | some name, _ => some (.attr name (attributeTypeScript r package parent name a).1)
  | none, some reference => some (.attr (Naming.localName reference) plainText)
  | none, none => none

section Parts

variable {r : Resolver} {package : Option String} {parent : String}

theorem elementField?_isText {e : Element} {content : Code.Content}
    (h : elementField? r package parent e = some content) : content.isText = false := by
  unfold elementField? at h
  split at h <;> cases h
  · exact elementContent_isText ..
  · exact elementContent_isText ..

theorem elementField?_isElement {e : Element} {content : Code.Content}
    (h : elementField? r package parent e = some content) : content.isElement = true := by
  have hcontent (name : String) (type : TypeRef) :
      (elementContent e name type).isElement = true := by
    unfold elementContent
    split <;> rfl
  unfold elementField? at h
  split at h <;> cases h
  · exact hcontent ..
  · exact hcontent ..

theorem elementScript_contents (scripts : Scripting) (k : Stacks) (e : Element) :
    (elementScript r package scripts k parent e).contents =
      (elementField? r package parent e).toList := by
  unfold elementScript elementField?
  cases e.ref with
  | some reference => rfl
  | none =>
      cases e.name with
      | none => rfl
      | some name =>
          unfold elementTypeScript
          cases e.type with
          | some type => rfl
          | none =>
              cases e.complexType with
              | some t => rfl
              | none => cases e.simpleType <;> rfl

theorem attributeField?_isText {a : Attribute} {content : Code.Content}
    (h : attributeField? r package parent a = some content) : content.isText = false := by
  unfold attributeField? at h
  split at h <;> cases h <;> rfl

theorem attributeScript_contents (a : Attribute) :
    (attributeScript r package parent a).contents =
      (attributeField? r package parent a).toList := by
  unfold attributeScript attributeField?
  cases a.name with
  | none => cases a.ref <;> rfl
  | some name =>
      unfold attributeTypeScript
      cases a.type with
      | some type => rfl
      | none => cases a.simpleType <;> rfl

theorem attributes_contents (attributes : List Attribute) :
    (Script.each attributes (attributeScript r package parent)).contents =
      attributes.filterMap (attributeField? r package parent) := by
  simp only [Script.contents_each, attributeScript_contents, List.filterMap_eq_flatMap_toList]

theorem attributes_isText (attributes : List Attribute) :
    ∀ content ∈ (Script.each attributes (attributeScript r package parent)).contents,
      content.isText = false := by
  intro content hcontent
  rw [attributes_contents] at hcontent
  obtain ⟨a, -, ha⟩ := List.mem_filterMap.mp hcontent
  exact attributeField?_isText ha

end Parts

end Emission

namespace Document

variable {d : Document} {package : String}

/-- What a task within a record comes to by itself, it adds to the record in a row. -/
theorem Asks.contents_infix {name : String} {documentation : Option String} {k k' : Stacks}
    {task task' : Task} (h : d.Asks package name (.record documentation k task))
    (hwithin : Within (.ofDocument d) k task k' task') {added : List Code.Content}
    (hadded : ∀ fs, ((script (.ofDocument d) (some package) d.expansionBound k' task').fields
      fs).contents = fs.contents ++ added) :
    added <:+: (d.expansion package k task).contents := by
  obtain ⟨depth, hcontains⟩ := hwithin.contains h.whole
  change Script.Contains _ (script (.ofDocument d) (some package) (depth + 1) k' task') at hcontains
  -- The task is done at some other depth, but at both of them nothing is missing.
  have hwhole := standsIn_whole package k' (hwithin.standsIn h.standsIn)
  have hsettles := (script_settles (.ofDocument d) (some package)
    (Nat.le_max_left (depth + 1) d.expansionBound) k' task' (hcontains.whole h.whole)).2
  have hsettles' := (script_settles (.ofDocument d) (some package)
    (Nat.le_max_right (depth + 1) d.expansionBound) k' task' hwhole).2
  obtain ⟨before, after, hscript⟩ := hcontains
  rw [expansion_eq, hscript, Script.fields_append, Script.fields_append, ← hsettles, hsettles']
  obtain ⟨rest, hrest⟩ := after.contents_kept
    ((script (.ofDocument d) (some package) d.expansionBound k' task').fields (before.fields {}))
  exact ⟨(before.fields {}).contents, rest, by rw [← hrest, hadded]⟩

end Document

end SoapBindings
