/-
# `SoapBindings.Proofs.Document.Attributes` — attributes that make no difference

The reader asks a tag for the values of a few attributes by their local names, and which these are
depends on the element and its parent (`Frame.vocabulary`).  It knows a tag by these values and by
its name (`openNamed_byValues`).  So an attribute makes no difference to a document if its local
name is not asked for, or if the last attribute with that name is another one (`attribute_ignored`).

Prefixes play no part in this.  An attribute of a foreign namespace is read like one without a
prefix, and takes the place of the one that was meant if it stands behind it (`prefixed_name_read`).
-/
import SoapBindings.Proofs.Document.Resuming
import SoapBindings.Proofs.Markup.Attributes

namespace SoapBindings

open Markup Xsd Wsdl

variable {α : Type} [DecidableEq α] [TextUnit α]

/-- The name without a prefix, if the attribute declares no namespace. -/
def Markup.Attribute.localName? (a : Markup.Attribute α) : Option String :=
  if a.isNamespace then none else (TextUnit.decode? (localPart a.key)).map String.ofList

namespace Document

/-! ## Values -/

/-- Two readings come to the same values, or to the same error. -/
def SameValues : Except LoadError Values → Except LoadError Values → Prop
  | .error e, .error e' => e = e'
  | .ok v, .ok v' => ∀ name, v.lookup name = v'.lookup name
  | .error _, .ok _ | .ok _, .error _ => False

theorem SameValues.refl (x : Except LoadError Values) : SameValues x x := by
  cases x with
  | error e => rfl
  | ok v => exact fun name => rfl

/-- Values are only looked up. -/
theorem SameValues.bind {β : Type} {x y : Except LoadError Values} (h : SameValues x y)
    {f g : Values → Except LoadError β}
    (hf : ∀ v v', (∀ name, v.lookup name = v'.lookup name) → f v = g v') : x >>= f = y >>= g := by
  cases x with
  | error e =>
      cases y with
      | error e' =>
          obtain rfl : e = e' := h
          rfl
      | ok v => cases h
  | ok v =>
      cases y with
      | error e => cases h
      | ok v' => exact hf v v' h

section Values

variable {names : List String} {a : Markup.Attribute α} {name : String}

theorem localName?_eq_some (h : a.localName? = some name) : a.isNamespace = false ∧
    ∃ cs, TextUnit.decode? (localPart a.key) = some cs ∧ String.ofList cs = name := by
  unfold Attribute.localName? at h
  split at h
  · cases h
  · exact ⟨Bool.eq_false_iff.mpr ‹_›, Option.map_eq_some_iff.mp h⟩

theorem takeValue_other (hname : a.localName? = some name) (h : name ∉ names) (found : Values) :
    takeValue names found (.ok a) = .ok found := by
  obtain ⟨hnamespace, cs, hcs, rfl⟩ := localName?_eq_some hname
  simp [takeValue, hnamespace, hcs, h]

theorem takeValue_asked (hname : a.localName? = some name) (h : name ∈ names) {cs : List Char}
    (hvalue : characters? a.value = some cs) (found : Values) :
    takeValue names found (.ok a) = .ok ((name, String.ofList cs) :: found) := by
  obtain ⟨hnamespace, key, hkey, rfl⟩ := localName?_eq_some hname
  obtain ⟨text, htext, hread⟩ := Option.bind_eq_some_iff.mp hvalue
  simp [takeValue, hnamespace, hkey, h, htext, hread]

theorem takeValue_unreadable (hname : a.localName? = some name) (h : name ∈ names)
    (hvalue : characters? a.value = none) :
    ∃ e, ∀ found, takeValue names found (.ok a) = .error e := by
  obtain ⟨hnamespace, key, hkey, rfl⟩ := localName?_eq_some hname
  cases htext : TextUnit.decode? a.value with
  | none =>
      exact ⟨.malformed .undecodable, fun found => by
        simp [takeValue, hnamespace, hkey, h, htext]⟩
  | some text =>
      have hread : unescape? text = none := by
        rw [characters?, htext] at hvalue
        exact hvalue
      exact ⟨.malformed .badReference, fun found => by
        simp [takeValue, hnamespace, hkey, h, htext, hread]⟩

/-- What is taken does not depend on what has been found before. -/
theorem takeValue_cases (names : List String) (item : Except AttributeFault (Markup.Attribute α)) :
    (∃ e, ∀ found, takeValue names found item = .error e) ∨
    ∃ more, (∀ found, takeValue names found item = .ok (more ++ found)) ∧
      ∀ a name, item = .ok a → a.localName? = some name → name ∈ names →
        (more.lookup name).isSome := by
  cases item with
  | error f => exact .inl ⟨_, fun found => rfl⟩
  | ok a =>
      cases hname : a.localName? with
      | none =>
          cases hnamespace : a.isNamespace with
          | true =>
              refine .inr ⟨[], fun found => by simp [takeValue, hnamespace], ?_⟩
              rintro _ name ⟨⟩ hother
              rw [hname] at hother
              cases hother
          | false =>
              have hkey : TextUnit.decode? (localPart a.key) = none := by
                simpa [Attribute.localName?, hnamespace] using hname
              exact .inl ⟨.badEncoding, fun found => by simp [takeValue, hnamespace, hkey]⟩
      | some name =>
          by_cases hasked : name ∈ names
          · cases hvalue : characters? a.value with
            | none => exact .inl (takeValue_unreadable hname hasked hvalue)
            | some cs =>
                refine .inr ⟨[(name, String.ofList cs)], takeValue_asked hname hasked hvalue, ?_⟩
                rintro _ other ⟨⟩ hother -
                obtain rfl : name = other := Option.some.inj (hname.symm.trans hother)
                simp
          · refine .inr ⟨[], takeValue_other hname hasked, ?_⟩
            rintro _ other ⟨⟩ hother hin
            obtain rfl : name = other := Option.some.inj (hname.symm.trans hother)
            exact absurd hin hasked

theorem foldlM_takeValue (names : List String)
    (items : List (Except AttributeFault (Markup.Attribute α))) :
    (∃ e, ∀ found, items.foldlM (takeValue names) found = .error e) ∨
    ∃ more, (∀ found, items.foldlM (takeValue names) found = .ok (more ++ found)) ∧
      ∀ a name, .ok a ∈ items → a.localName? = some name → name ∈ names →
        (more.lookup name).isSome := by
  induction items with
  | nil => exact .inr ⟨[], fun found => rfl, fun a name h => absurd h List.not_mem_nil⟩
  | cons item items ih =>
      simp only [List.foldlM_cons]
      rcases takeValue_cases names item with ⟨e, he⟩ | ⟨one, hone, hasked⟩
      · exact .inl ⟨e, fun found => by rw [he]; rfl⟩
      rcases ih with ⟨e, he⟩ | ⟨more, hmore, hrest⟩
      · exact .inl ⟨e, fun found => by rw [hone]; exact he _⟩
      · refine .inr ⟨more ++ one, ?_, ?_⟩
        · intro found
          rw [hone, List.append_assoc]
          exact hmore _
        · intro a name ha hname hin
          rw [List.lookup_append, Option.isSome_or, Bool.or_eq_true]
          rcases List.mem_cons.mp ha with rfl | ha
          · exact .inr (hasked a name rfl hname hin)
          · exact .inl (hrest a name ha hname hin)

/-- The place between two parts of a tag is one for an attribute with this local name and value that
makes no difference: nobody asks for the name, or the value can be read, and another attribute with
the name stands behind it. -/
def MakesNoDifference (names : List String) (front back : List α) (name : String) (value : List α) :
    Prop :=
  name ∉ names ∨ (characters? value).isSome ∧
    ∃ later, .ok later ∈ (attributes (front ++ back)).drop (attributes front).length ∧
      later.localName? = some name

theorem readValues_insert [LawfulTextUnit α] {front back : List α} {w : WrittenAttribute α}
    (hplace : Between front back) (hw : w.IsWellFormed)
    (hnew : w.key ∉ attributeKeys (front ++ back)) (hname : w.toAttribute.localName? = some name)
    (h : MakesNoDifference names front back name w.value) :
    SameValues (readValues names (front ++ (w.text ++ back)))
      (readValues names (front ++ back)) := by
  obtain ⟨behind, hold, hinserted⟩ := attributes_insert hplace hw hnew
  rw [readValues, readValues, hinserted, hold, List.foldlM_append, List.foldlM_append]
  cases (attributes front).foldlM (takeValue names) [] with
  | error e => exact rfl
  | ok found =>
      show SameValues ((.ok w.toAttribute :: behind).foldlM (takeValue names) found)
        (behind.foldlM (takeValue names) found)
      rw [List.foldlM_cons]
      by_cases hasked : name ∈ names
      · obtain ⟨hvalue, later, hlater, hlaterName⟩ := h.resolve_left (not_not.mpr hasked)
        obtain ⟨cs, hcs⟩ := Option.isSome_iff_exists.mp hvalue
        rw [hold, List.drop_left] at hlater
        rw [takeValue_asked hname hasked hcs]
        show SameValues (behind.foldlM (takeValue names) ((name, String.ofList cs) :: found)) _
        rcases foldlM_takeValue names behind with ⟨e, he⟩ | ⟨more, hmore, hfound⟩
        · rw [he, he]
          exact rfl
        · rw [hmore, hmore]
          intro other
          rw [List.lookup_append, List.lookup_append, List.lookup_cons]
          by_cases hother : other = name
          · obtain ⟨value, hvalue⟩ :=
              Option.isSome_iff_exists.mp (hfound later name hlater hlaterName hasked)
            rw [hother, hvalue, Option.some_or, Option.some_or]
          · rw [beq_eq_false_iff_ne.mpr hother]
      · rw [takeValue_other hname hasked]
        exact .refl _

end Values

/-! ## What the reader asks for -/

/-- The tag is known by these values of it. -/
def ByValues {β : Type} (names : List String) (f : List α → Except LoadError β) : Prop :=
  ∀ tag tag', SameValues (readValues names tag) (readValues names tag') → f tag = f tag'

namespace ByValues

variable {β γ : Type} {names : List String} {f : List α → Except LoadError β}

theorem const (names : List String) (x : Except LoadError β) :
    ByValues names fun _ : List α => x := fun _ _ _ => rfl

theorem read {k : Values → Except LoadError β}
    (hk : ∀ v v', (∀ name, v.lookup name = v'.lookup name) → k v = k v') :
    ByValues names fun tag : List α => readValues names tag >>= k :=
  fun _ _ h => h.bind hk

theorem bind (h : ByValues names f) (g : β → Except LoadError γ) :
    ByValues names fun tag => f tag >>= g := by
  intro tag tag' hvalues
  show f tag >>= g = f tag' >>= g
  rw [h tag tag' hvalues]

theorem map (h : ByValues names f) (g : β → γ) : ByValues names fun tag => (f tag).map g := by
  intro tag tag' hvalues
  show (f tag).map g = (f tag').map g
  rw [h tag tag' hvalues]

end ByValues

/-! ### Elements that several others hold -/

def schemaEntry : String × List String := ("schema", ["targetNamespace", "elementFormDefault"])

def elementEntry : String × List String :=
  ("element", ["name", "ref", "type", "minOccurs", "maxOccurs", "nillable"])

def complexTypeEntry : String × List String := ("complexType", ["name", "abstract", "mixed"])

def simpleTypeEntry : String × List String := ("simpleType", ["name"])

def groupEntry : String × List String := ("group", ["name", "ref"])

def wildcardEntry : String × List String := ("any", ["namespace", "maxOccurs"])

def attributeEntries : List (String × List String) :=
  [("attribute", ["name", "ref", "type", "use", "default"]), ("attributeGroup", ["name", "ref"])]

/-- The elements that mean something below an element and are asked for attributes,
with the names of these. -/
def Frame.vocabulary : Frame → List (String × List String)
  | .definitions =>
    [("import", ["location", "namespace"]), ("message", ["name"]), ("portType", ["name"]),
      ("binding", ["name", "type"]), ("service", ["name"])]
  | .types => [schemaEntry]
  | .schema _ =>
    ("import", ["namespace", "schemaLocation"]) :: ("include", ["schemaLocation"]) ::
      elementEntry :: complexTypeEntry :: simpleTypeEntry :: groupEntry :: attributeEntries
  | .element _ => [complexTypeEntry, simpleTypeEntry]
  | .complexType _ | .derivation _ => wildcardEntry :: groupEntry :: attributeEntries
  | .compositor _ _ => [elementEntry, groupEntry, wildcardEntry]
  | .complexContent _ | .simpleContent _ => [("extension", ["base"]), ("restriction", ["base"])]
  | .simpleType _ =>
    [("restriction", ["base"]), ("union", ["memberTypes"]), ("list", ["itemType"])]
  | .union _ | .attr _ => [simpleTypeEntry]
  | .attributeGroup _ => attributeEntries
  | .message _ => [("part", ["name", "element", "type"])]
  | .portType _ => [("operation", ["name"])]
  | .operation _ => ["input", "output", "fault"].map (·, ["name", "message"])
  | .binding _ => [("binding", ["style", "transport"]), ("operation", ["name"])]
  | .bindingOperation _ => [("operation", ["soapAction", "style"])]
  | .service _ => [("port", ["name", "binding"])]
  | .port _ => [("address", ["location"])]
  | .group _ | .restriction _ | .enumeration _ | .annotated _ | .documentation _ | .other _ => []

/-- The attributes that a child is asked for.  A restriction asks all its children for a value. -/
def Frame.asks (parent : Frame) (name : String) : List String :=
  match parent with
  | .restriction _ => ["value"]
  | _ => (parent.vocabulary.lookup name).getD []

section Opening

theorem readSchema_byValues : ByValues schemaEntry.2 fun tag : List α => readSchema tag :=
  .read fun v v' hv => by simp only [hv]

theorem readElement_byValues : ByValues elementEntry.2 fun tag : List α => readElement tag :=
  .read fun v v' hv => by simp only [hv]

theorem readComplexType_byValues :
    ByValues complexTypeEntry.2 fun tag : List α => readComplexType tag :=
  .read fun v v' hv => by simp only [hv]

theorem readWildcard_byValues : ByValues wildcardEntry.2 fun tag : List α => readWildcard tag :=
  .read fun v v' hv => by simp only [hv]

theorem openSimpleType_byValues :
    ByValues simpleTypeEntry.2 fun tag : List α => openSimpleType tag :=
  .read fun v v' hv => by simp only [hv]

theorem openGroup_byValues : ByValues groupEntry.2 fun tag : List α => openGroup tag :=
  .read fun v v' hv => by simp only [hv]

variable {names : List String} {name : String}

theorem openAttributes_byValues (h : ∀ entry ∈ attributeEntries, name = entry.1 → names = entry.2) :
    ByValues names fun tag : List α => openAttributes name tag := by
  unfold openAttributes
  split
  · rw [h _ List.mem_cons_self rfl]
    refine .bind (.read fun v v' hv => ?_) _
    simp only [hv]
  · rw [h _ (List.mem_cons_of_mem _ List.mem_cons_self) rfl]
    exact .read fun v v' hv => by simp only [hv]
  · exact .const _ _

theorem openContent_byValues
    (h : ∀ entry ∈ groupEntry :: attributeEntries, name = entry.1 → names = entry.2) :
    ByValues names fun tag : List α => openContent name tag := by
  obtain ⟨hgroup, hattributes⟩ := List.forall_mem_cons.mp h
  unfold openContent
  split
  · rename_i hname
    rw [hgroup (beq_iff_eq.mp hname)]
    exact openGroup_byValues
  · split
    · exact .const _ _
    · exact openAttributes_byValues hattributes

/-- A child that only one name means something to. -/
theorem byValues_of_name {β : Type} {known : String} {x : Except LoadError β}
    {f : List α → Except LoadError β} (h : name = known → ByValues names f) :
    ByValues names fun tag => if name == known then f tag else x := by
  intro tag tag' hvalues
  by_cases hname : name = known
  · simpa [hname] using h hname tag tag' hvalues
  · simp [hname]

theorem forall_attributeEntries {P : String × List String → Prop}
    (hattribute : P ("attribute", ["name", "ref", "type", "use", "default"]))
    (hgroup : P ("attributeGroup", ["name", "ref"])) : ∀ entry ∈ attributeEntries, P entry := by
  simp [attributeEntries, hattribute, hgroup]

/-- **A child is known by its name and by the values of its tag that it is asked for.** -/
theorem openChild_byValues (parent : Frame) (name : String) :
    ByValues (parent.asks name) fun tag : List α => parent.openChild name tag := by
  have hentry {entries : List (String × List String)}
      (h : ∀ entry ∈ entries, parent.asks entry.1 = entry.2) :
      ∀ entry ∈ entries, name = entry.1 → parent.asks name = entry.2 := by
    rintro entry hentry rfl
    exact h entry hentry
  cases parent with
  | definitions | enumeration _ | annotated _ | documentation _ | other _ => exact .const _ _
  | types =>
      refine .map (byValues_of_name ?_) _
      rintro rfl
      exact readSchema_byValues.bind _
  | schema s =>
      show ByValues _ fun tag => openInSchema s name tag
      unfold openInSchema
      split
      · exact .read fun v v' hv => by simp only [hv]
      · exact .read fun v v' hv => by simp only [required, hv]
      · exact readElement_byValues.bind _
      · exact readComplexType_byValues.bind _
      · exact openSimpleType_byValues.bind _
      · exact openGroup_byValues.bind _
      · exact .bind (openAttributes_byValues (hentry (forall_attributeEntries rfl rfl))) _
  | element e =>
      refine .map ?_ _
      unfold openInElement
      split
      · exact readComplexType_byValues.bind _
      · exact openSimpleType_byValues
      · exact .const _ _
  | complexType t =>
      have hcontent : ∀ entry ∈ groupEntry :: attributeEntries,
          (Frame.complexType t).asks entry.1 = entry.2 :=
        List.forall_mem_cons.mpr ⟨rfl, forall_attributeEntries rfl rfl⟩
      show ByValues _ fun tag => openInComplexType t name tag
      unfold openInComplexType
      split
      · exact readWildcard_byValues.bind _
      · exact .const _ _
      · exact .const _ _
      · exact .bind (openContent_byValues (hentry hcontent)) _
  | compositor kind p =>
      show ByValues _ fun tag => openInCompositor kind p name tag
      unfold openInCompositor
      split
      · exact readElement_byValues.bind _
      · exact openGroup_byValues.bind _
      · exact readWildcard_byValues.bind _
      · split <;> exact .const _ _
  | complexContent _ | simpleContent _ =>
      refine .map ?_ _
      unfold openInContent
      split
      · exact .read fun v v' hv => by simp only [hv]
      · exact .read fun v v' hv => by simp only [hv]
      · exact .const _ _
  | derivation d =>
      have hcontent : ∀ entry ∈ groupEntry :: attributeEntries,
          (Frame.derivation d).asks entry.1 = entry.2 :=
        List.forall_mem_cons.mpr ⟨rfl, forall_attributeEntries rfl rfl⟩
      show ByValues _ fun tag => openInDerivation d name tag
      unfold openInDerivation
      split
      · rename_i hname
        obtain rfl : name = "any" := by simpa using hname
        exact readWildcard_byValues.bind _
      · exact .bind (openContent_byValues (hentry hcontent)) _
  | simpleType t =>
      show ByValues _ fun tag => openInSimpleType t name tag
      unfold openInSimpleType
      split
      · exact .read fun v v' hv => by simp only [hv]
      · refine .bind (.read fun v v' hv => ?_) _
        simp only [hv]
      · exact .read fun v v' hv => by simp only [hv]
      · exact .const _ _
  | restriction r => exact .read fun v v' hv => by simp only [required, hv]
  | union _ | attr _ =>
      refine .map (byValues_of_name ?_) _
      rintro rfl
      exact openSimpleType_byValues
  | attributeGroup _ =>
      exact .map (openAttributes_byValues (hentry (forall_attributeEntries rfl rfl))) _
  | group g => exact .const _ _
  | message m =>
      refine byValues_of_name ?_
      rintro rfl
      exact .read fun v v' hv => by simp only [required, hv]
  | portType p =>
      refine .map (byValues_of_name ?_) _
      rintro rfl
      exact .read fun v v' hv => by simp only [required, hv]
  | operation o =>
      show ByValues _ fun tag => openInOperation o name tag
      by_cases hname : name ∈ ["input", "output", "fault"]
      · have hasks : (Frame.operation o).asks name = ["name", "message"] := by
          simp only [List.mem_cons, List.not_mem_nil, or_false] at hname
          rcases hname with rfl | rfl | rfl <;> rfl
        simp only [openInOperation, List.contains_iff_mem.mpr hname, hasks]
        exact .read fun v v' hv => by simp only [required, hv]
      · have hother : ["input", "output", "fault"].contains name = false := by simpa using hname
        simp only [openInOperation, hother]
        exact .const _ _
  | binding b =>
      show ByValues _ fun tag => openInBinding b name tag
      unfold openInBinding
      split
      · exact .read fun v v' hv => by simp only [hv]
      · exact .read fun v v' hv => by simp only [required, hv]
      · exact .const _ _
  | bindingOperation o =>
      refine byValues_of_name ?_
      rintro rfl
      exact .read fun v v' hv => by simp only [hv]
  | service s =>
      refine .map (byValues_of_name ?_) _
      rintro rfl
      exact .read fun v v' hv => by simp only [required, hv]
  | port p =>
      refine byValues_of_name ?_
      rintro rfl
      exact .read fun v v' hv => by simp only [hv]

end Opening

namespace Assembly

/-- The attributes that the next element is asked for if it has this name. -/
def asks (a : Assembly) (name : String) : List String :=
  match a.stack with
  | [] => ([("definitions", ["name", "targetNamespace"]), schemaEntry].lookup name).getD []
  | parent :: _ =>
    if name == "annotation" || name == "documentation" then [] else parent.asks name

theorem openRoot_byValues (a : Assembly) (name : String) :
    ByValues ([("definitions", ["name", "targetNamespace"]), schemaEntry].lookup name |>.getD [])
      fun tag : List α => a.openRoot name tag := by
  unfold openRoot
  split
  · exact .read fun v v' hv => by simp only [hv]
  · exact readSchema_byValues.bind _
  · exact .const _ _

theorem openInDefinitions_byValues (a : Assembly) (name : String) :
    ByValues (Frame.definitions.asks name) fun tag : List α => a.openInDefinitions name tag := by
  unfold openInDefinitions
  split
  · exact .read fun v v' hv => by simp only [required, hv]
  · exact .const _ _
  · exact .read fun v v' hv => by simp only [required, hv]
  · exact .read fun v v' hv => by simp only [required, hv]
  · exact .read fun v v' hv => by simp only [required, hv]
  · exact .read fun v v' hv => by simp only [required, hv]
  · exact .const _ _

/-- **An element is known by its name and by the values of its tag that it is asked for.** -/
theorem openNamed_byValues (a : Assembly) (name : String) :
    ByValues (a.asks name) fun tag : List α => a.openNamed name tag := by
  obtain ⟨definitions, schema, stack⟩ := a
  rcases stack with _ | ⟨parent, below⟩
  · exact openRoot_byValues _ name
  by_cases hother : ∃ unknown, parent = .other unknown
  · obtain ⟨unknown, rfl⟩ := hother
    exact .const _ _
  have hknown (unknown : String) : parent ≠ .other unknown := fun h => hother ⟨unknown, h⟩
  by_cases hnote : name = "annotation"
  · subst hnote
    cases parent with
    | other unknown => exact absurd rfl (hknown unknown)
    | _ => exact .const _ _
  by_cases htext : name = "documentation"
  · subst htext
    cases parent with
    | other unknown => exact absurd rfl (hknown unknown)
    | _ => exact .const _ _
  have hasks : asks ⟨definitions, schema, parent :: below⟩ name = parent.asks name := by
    simp [asks, hnote, htext]
  rw [hasks]
  by_cases hdefinitions : parent = .definitions
  · subst hdefinitions
    have hopen (tag : List α) : openNamed ⟨definitions, schema, .definitions :: below⟩ name tag =
        openInDefinitions ⟨definitions, schema, .definitions :: below⟩ name tag := by
      simp [openNamed]
    simp only [hopen]
    exact openInDefinitions_byValues _ name
  · have hopen (tag : List α) := openNamed_child parent name tag hknown hnote htext hdefinitions
      ⟨definitions, schema, parent :: below⟩ below rfl
    simp only [hopen]
    exact (openChild_byValues parent name).bind _

theorem openElement_insert [LawfulTextUnit α] (a : Assembly) {front back : List α}
    {w : WrittenAttribute α} {name : String} (hplace : Between front back) (hw : w.IsWellFormed)
    (hnew : w.key ∉ attributeKeys (front ++ back)) (hname : w.toAttribute.localName? = some name)
    (h : ∀ cs, TextUnit.decode? (localPart (tagName (front ++ back))) = some cs →
      MakesNoDifference (a.asks (String.ofList cs)) front back name w.value) :
    a.openElement (front ++ (w.text ++ back)) = a.openElement (front ++ back) := by
  rw [openElement, openElement, tagName_insert hplace hw]
  cases helement : TextUnit.decode? (localPart (tagName (front ++ back))) with
  | none => rfl
  | some cs =>
      exact openNamed_byValues a (String.ofList cs) _ _
        (readValues_insert hplace hw hnew hname (h cs helement))

end Assembly

/-! ## Attributes in documents -/

/-- **An attribute that nobody asks for is ignored**, and so is one that is not the last with its
local name, whatever its prefix.  In any document an attribute can be put between the attributes of
any tag, if its key is new to the tag: what is read stays the same, if the element, where it stands,
is not asked for an attribute with the local name, or if the value can be read, and another
attribute with the local name stands behind it. -/
theorem attribute_ignored [ContentUnit α] {before front back : List α} {a : Assembly}
    {w : WrittenAttribute α} {name : String} {tag : List α → Token α}
    (htag : tag = .start ∨ tag = .empty) (hwritten : (tag (front ++ back)).isWritten)
    (hplace : ReadsTo before a) (hbetween : Between front back) (hw : w.IsWellFormed)
    (hnew : w.key ∉ attributeKeys (front ++ back)) (hname : w.toAttribute.localName? = some name)
    (h : ∀ cs, TextUnit.decode? (localPart (tagName (front ++ back))) = some cs →
      MakesNoDifference (a.asks (String.ofList cs)) front back name w.value) (after : List α) :
    parse (ContentUnit.source (before ++ (tag (front ++ (w.text ++ back))).render ++ after)) =
      parse (ContentUnit.source (before ++ (tag (front ++ back)).render ++ after)) := by
  have hopen := a.openElement_insert hbetween hw hnew hname h
  rcases htag with rfl | rfl
  · have hinserted := hplace.parse_markup
      (Token.isSpelled_of_isWritten (isWritten_start_insert hwritten hbetween hw)) rfl rfl after
    have hold := hplace.parse_markup (Token.isSpelled_of_isWritten hwritten) rfl rfl after
    rw [tagName_insert hbetween hw] at hinserted
    refine hinserted.trans (Eq.trans ?_ hold.symm)
    show a.openElement _ >>= _ = a.openElement _ >>= _
    rw [hopen]
  · have hinserted := hplace.parse_markup
      (Token.isSpelled_of_isWritten (isWritten_empty_insert hwritten hbetween hw)) rfl rfl after
    have hold := hplace.parse_markup (Token.isSpelled_of_isWritten hwritten) rfl rfl after
    refine hinserted.trans (Eq.trans ?_ hold.symm)
    show (a.openElement _ >>= _) >>= _ = (a.openElement _ >>= _) >>= _
    rw [hopen]

/-- A prefixed name in front of the name of an element. -/
theorem attribute_ignored_element :
    parse (.text "<schema xmlns:p='urn:p'><element p:name='b' name='a'/></schema>".toList) =
      parse (.text "<schema xmlns:p='urn:p'><element name='a'/></schema>".toList) := by
  let w : WrittenAttribute Char :=
    { lead := [' '], key := "p:name".toList, quote := '\'', value := ['b'] }
  have hw : w.IsWellFormed :=
    ⟨by decide, by decide, by decide, by decide, by decide, by decide, by decide, by decide⟩
  have hplace : ReadsTo "<schema xmlns:p='urn:p'>".toList ⟨none, none, [.schema {}]⟩ :=
    ⟨by decide +kernel, by rfl⟩
  have hbetween : Between "element".toList " name='a'".toList :=
    ⟨by rfl, by decide +kernel, .inr (by decide)⟩
  have hname : w.toAttribute.localName? = some "name" := by decide +kernel
  have hlater : MakesNoDifference (Assembly.asks ⟨none, none, [.schema {}]⟩ "element")
      "element".toList " name='a'".toList "name" w.value :=
    .inr ⟨by decide +kernel, ⟨"name".toList, "a".toList⟩, by decide +kernel, by decide +kernel⟩
  have hinserted : "<schema xmlns:p='urn:p'><element p:name='b' name='a'/></schema>".toList =
      "<schema xmlns:p='urn:p'>".toList ++
        (Token.empty ("element".toList ++ (w.text ++ " name='a'".toList))).render ++
        "</schema>".toList := by decide +kernel
  have hold : "<schema xmlns:p='urn:p'><element name='a'/></schema>".toList =
      "<schema xmlns:p='urn:p'>".toList ++
        (Token.empty ("element".toList ++ " name='a'".toList)).render ++
        "</schema>".toList := by decide +kernel
  rw [hinserted, hold]
  refine attribute_ignored (.inr rfl) (by decide +kernel) hplace hbetween hw (by decide +kernel)
    hname ?_ "</schema>".toList
  intro cs hcs
  obtain rfl : "element".toList = cs := Option.some.inj hcs
  exact hlater

/-- A prefixed name behind it is read in its place. -/
theorem prefixed_name_read : ∃ w : WrittenAttribute Char, w.IsWellFormed ∧
    w.key = "p:name".toList ∧
    parse (.text "<schema xmlns:p='urn:p'><element name='a'/></schema>".toList) =
      .ok (.schema { elements := [{ name := some "a" }] }) ∧
    parse (.text ("<schema xmlns:p='urn:p'><element name='a'".toList ++ w.text ++
      "/></schema>".toList)) = .ok (.schema { elements := [{ name := some "b" }] }) :=
  ⟨{ lead := [' '], key := "p:name".toList, quote := '\'', value := ['b'] },
    ⟨by decide, by decide, by decide, by decide, by decide, by decide, by decide, by decide⟩,
    rfl, by rfl, by rfl⟩

end Document

end SoapBindings
