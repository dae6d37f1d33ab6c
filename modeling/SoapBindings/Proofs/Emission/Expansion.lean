/-
# `SoapBindings.Proofs.Emission.Expansion` — `expand` does its script

`script` follows the shape of `step`, one definition to each of its parts, but where `step` acts
`script` writes the action down.  It is told the package and the stacks, which is all that an
expansion looks at before it acts.

`Acts` is the statement that is carried through the parts: with these stacks an emission gives that
value and changes the state that way, whatever else is in the state.
-/
import SoapBindings.Proofs.Emission.Script

namespace SoapBindings.Emission

open Xsd

/-! ## The script of a task -/

/-- The scripts of the tasks inside a task, by the stacks that they are done with. -/
abbrev Scripting := Stacks → Task → Script

/-- The target of a synonym.  What would be the synonym itself counts as text. -/
def synonymTarget (name : String) : TypeRef → TypeRef
  | .own base kind => if base == name then plainText else .own base kind
  | target => target

section Scripts

variable (r : Resolver) (package : Option String) (self : Scripting) (k : Stacks)

/-- The type that a simple type restricts. -/
def restrictedType (type : SimpleType) : TypeRef :=
  match type.restriction.bind (·.base) with
  | some base => r.resolveType package base
  | none => plainText

def synonymOf (name : String) (type : SimpleType) (documentation : Option String) :
    Code.Synonym :=
  let target := synonymTarget name (restrictedType r package type)
  { name, target
    documentation := documentation.toList ++ remarks type
    constants := constants name target (enumerations type) }

def synonymScript (name : String) (type : SimpleType) (documentation : Option String) : Script :=
  .synonym (synonymOf r package name type documentation) .done

def recordScript (name xmlName : String) (type : ComplexType) (documentation : Option String) :
    Script :=
  .record name xmlName documentation (self (k.inRecord name) (.content name type))
    .done

/-- No script where the record is being expanded already. -/
def inlineScript (declared : String) (type : ComplexType) : Option Script :=
  let name := Naming.typeName declared
  if k.expanding.contains name then none
  else some (self (k.inBase name) (.content name type))

def wildcardScript (wildcards : List Wildcard) : Script :=
  if wildcards.isEmpty then .done else .field "any" none .wildcard .done

def additionScript (parent : String) (d : Derivation) : Script :=
  .each d.elements (fun e => self k (.element parent e)) ++
    .each d.groups (fun g => self k (.group parent g)) ++
    wildcardScript d.wildcards ++ self k (.attributes parent d.attributes d.attributeGroups)

def complexContentScript (parent : String) (d : Derivation) : Script :=
  let base := if d.kind = .extension then d.base.bind r.baseType? else none
  (match base with
    | some (name, type) => (inlineScript self k name type).getD .done
    | none => .done) ++ additionScript self k parent d

def textScript (parent : String) (base : Option String) : Script :=
  match base with
  | none => .text plainText .done
  | some base =>
    let type := r.resolveType package base
    let itself := match type with
      | .own name _ => name == parent
      | _ => false
    if itself || type.isRecord then .refer type (.text plainText .done) else .text type .done

def simpleContentScript (parent : String) (d : Derivation) : Script :=
  (match d.base.bind r.baseType? with
    | some (name, type) =>
      if d.kind = .extension then (inlineScript self k name type).getD (.text plainText .done)
      else .text plainText .done
    | none => textScript r package parent d.base) ++ additionScript self k parent d

def contentScript (parent : String) (type : ComplexType) : Script :=
  .ofOption type.complexContent (complexContentScript r self k parent) ++
  .ofOption type.simpleContent (simpleContentScript r package self k parent) ++
  .each (type.sequence ++ type.choice ++ type.all) (fun e => self k (.element parent e)) ++
  .each type.groups (fun g => self k (.group parent g)) ++
  wildcardScript type.wildcards ++
  self k (.attributes parent type.attributes type.attributeGroups) ++
  if type.mixed then .text plainText .done else .done

/-- The type of an element that is declared in place, and how it comes to be declared. -/
def elementTypeScript (parent name : String) (e : Element) : TypeRef × Script :=
  match e.type, e.complexType, e.simpleType with
  | some type, _, _ => (r.resolve package type, .done)
  | none, some type, _ =>
    let anonymous := anonymousName parent name
    (.own anonymous (some .complexType), recordScript self k anonymous name type type.documentation)
  | none, none, some type =>
    let anonymous := anonymousName parent name
    (.own anonymous (some .simpleType), synonymScript r package anonymous type type.documentation)
  | none, none, none => (plainText, .done)

/-- What a field for an element holds. -/
def elementContent (e : Element) (name : String) (type : TypeRef) : Code.Content :=
  if repeats e.maxOccurs then .elements name type else .element name type

theorem elementContent_type (e : Element) (name : String) (type : TypeRef) :
    (elementContent e name type).type = type := by
  unfold elementContent
  split <;> rfl

theorem elementContent_isText (e : Element) (name : String) (type : TypeRef) :
    (elementContent e name type).isText = false := by
  unfold elementContent
  split <;> rfl

def elementScript (parent : String) (e : Element) : Script :=
  let add := fun (name : String) (type : TypeRef) =>
    Script.field name e.documentation (elementContent e name type) .done
  match e.ref, e.name with
  | some reference, _ => add (Naming.localName reference) (r.resolveElement package reference)
  | none, some name =>
    let (type, script) := elementTypeScript r package self k parent name e
    script ++ add name type
  | none, none => .done

def groupScript (parent reference : String) : Script :=
  let name := Naming.localName reference
  if k.groups.contains name then .done
  else match r.group? reference with
    | none => .done
    | some g =>
      .each g.elements (fun e => self (k.inGroup name) (.element parent e)) ++
        .each g.groups (fun g => self (k.inGroup name) (.group parent g))

/-- The type of an attribute that is declared in place, and how it comes to be declared. -/
def attributeTypeScript (parent name : String) (a : Attribute) : TypeRef × Script :=
  match a.type, a.simpleType with
  | some type, _ => (r.resolveType package type, .done)
  | none, some type =>
    let anonymous := anonymousName parent name
    (.own anonymous (some .simpleType), synonymScript r package anonymous type type.documentation)
  | none, none => (plainText, .done)

def attributeScript (parent : String) (a : Attribute) : Script :=
  match a.name, a.ref with
  | some name, _ =>
    let (type, script) := attributeTypeScript r package parent name a
    script ++ .field name a.documentation (.attr name type) .done
  | none, some reference =>
    let name := Naming.localName reference
    .field name a.documentation (.attr name plainText) .done
  | none, none => .done

def attributeGroupScript (parent reference : String) : Script :=
  let name := Text.lowercaseText (Naming.localName reference)
  if k.attributeGroups.contains name then .done
  else match r.attributeGroup? reference with
    | none => .done
    | some g =>
      self (k.inAttributeGroup name) (.attributes parent g.attributes g.attributeGroups)

def stepScript : Task → Script
  | .content parent type => contentScript r package self k parent type
  | .element parent e => elementScript r package self k parent e
  | .group parent reference => groupScript r self k parent reference
  | .attributes parent attributes groups =>
    .each attributes (attributeScript r package parent) ++
      .each groups (attributeGroupScript r self k parent)

end Scripts

/-- The script of a task, down to a depth. -/
def script (r : Resolver) (package : Option String) : Nat → Scripting
  | 0, _, _ => .cut .done
  | depth + 1, k, task => stepScript r package (script r package depth) k task

/-! ## Acting -/

@[simp] theorem run_bind {α β : Type} (x : Emitter α) (f : α → Emitter β) (s : Emission) :
    (x >>= f).run s = (f (x.run s).1).run (x.run s).2 := rfl

@[simp] theorem run_pure {α : Type} (a : α) (s : Emission) :
    (pure a : Emitter α).run s = (a, s) := rfl

@[simp] theorem run_get (s : Emission) : (get : Emitter Emission).run s = (s, s) := rfl

@[simp] theorem run_modify (f : Emission → Emission) (s : Emission) :
    (modify f : Emitter PUnit).run s = (⟨⟩, f s) := rfl

/-- With a package and stacks, `x` gives `a` and changes the state as `change` says. -/
def Acts {α : Type} (package : Option String) (k : Stacks) (x : Emitter α) (a : α)
    (change : Emission → Emission) : Prop :=
  ∀ s : Emission, s.context.package = package → s.toStacks = k → x.run s = (a, change s)

/-- With a package and stacks, `x` adds to fields and to the state as a script says. -/
def Does (package : Option String) (k : Stacks) (x : Fields → Emitter Fields) (p : Script) : Prop :=
  ∀ fs, Acts package k (x fs) (p.fields fs) p.emit

/-- An open recursion does the scripts of its tasks. -/
def DoesAll (package : Option String) (self : Expansion) (scripts : Scripting) : Prop :=
  ∀ k task, Does package k (self task) (scripts k task)

section Acts

variable {α β : Type} {package : Option String} {k : Stacks}

theorem Acts.pure (a : α) : Acts package k (Pure.pure a) a id := fun _ _ _ => rfl

theorem Acts.bind {x : Emitter α} {a : α} {p : Script} {f : α → Emitter β} {b : β}
    {change : Emission → Emission} (hx : Acts package k x a p.emit)
    (hf : Acts package k (f a) b change) :
    Acts package k (x >>= f) b (change ∘ p.emit) := by
  intro s hpackage hk
  rw [run_bind, hx s hpackage hk]
  exact hf _ (by simpa using hpackage) (by simpa using hk)

theorem Does.done : Does package k Pure.pure .done := fun fs => Acts.pure fs

theorem Does.append {x y : Fields → Emitter Fields} {p q : Script} (hx : Does package k x p)
    (hy : Does package k y q) : Does package k (fun fs => x fs >>= y) (p ++ q) := by
  intro fs s hpackage hk
  rw [(hx fs).bind (hy _) s hpackage hk]
  simp

theorem Does.each (items : List β) {x : Fields → β → Emitter Fields} {p : β → Script}
    (h : ∀ item, Does package k (x · item) (p item)) :
    Does package k (fun fs => items.foldlM x fs) (.each items p) := by
  induction items with
  | nil => exact .done
  | cons item items ih => simpa [List.foldlM_cons] using (h item).append ih

/-- An emission that does nothing to the state but take note of the type that it gives. -/
theorem refer_acts (find : Option String → TypeRef) :
    Acts package k (refer find) (find package) (·.noted (find package)) := by
  rintro s rfl hk
  rfl

end Acts

theorem Script.emit_withStacks_toStacks (p : Script) (s : Emission) :
    (p.emit s).withStacks s.toStacks = p.emit s := by
  rw [← emit_withStacks, withStacks_toStacks]

theorem Does.ofOption {α : Type} {package : Option String} {k : Stacks} (item : Option α)
    {x : α → Fields → Emitter Fields} {p : α → Script} (h : ∀ a, Does package k (x a) (p a)) :
    Does package k
      (fun fs => match item with
        | some a => x a fs
        | none => Pure.pure fs)
      (.ofOption item p) := by
  cases item with
  | some a => exact h a
  | none => exact .done

/-- Do a script with other stacks. -/
theorem Does.run_withStacks {package : Option String} {k : Stacks} {x : Fields → Emitter Fields}
    {p : Script} (hx : Does package k x p) (fs : Fields) {s : Emission}
    (hpackage : s.context.package = package) :
    (x fs).run (s.withStacks k) = (p.fields fs, (p.emit s).withStacks k) := by
  rw [hx fs (s.withStacks k) hpackage rfl, Script.emit_withStacks]

section Parts

variable {r : Resolver} {package : Option String} {self : Expansion} {scripts : Scripting}
  {k : Stacks}

/-! ### Types -/

/-- Claim a name and declare what `x` makes of it. -/
theorem claim_declare (name : String) (x : Emitter (Option Code.Declaration)) (s : Emission) :
    ((do if !(← claim name) then return none else x) >>= declare).run s =
      (⟨⟩, s.claiming name fun s => (x.run s).2.listed (x.run s).1) := by
  by_cases htaken : s.context.isEmitted name = true
  · simp only [claim, claiming, htaken, Context.markEmitted, run_bind, run_get, run_modify,
      run_pure, Bool.not_true, Bool.not_false, if_true]
    rfl
  · simp only [claim, claiming, htaken, run_bind, run_get, run_modify, run_pure,
      Bool.not_false, Bool.not_true, Bool.false_eq_true, if_false]
    rfl

theorem simpleBase_acts (type : SimpleType) :
    Acts package k (simpleBase r type) (restrictedType r package type)
      (·.noted (restrictedType r package type)) := by
  unfold simpleBase restrictedType
  cases type.restriction.bind (·.base) with
  | some base => exact refer_acts (r.resolveType · base)
  | none => exact fun s _ _ => rfl

/-- Only a type of the package at hand is replaced, and of that no note is taken. -/
theorem noted_synonymTarget (s : Emission) (name : String) (type : TypeRef) :
    s.noted (synonymTarget name type) = s.noted type := by
  cases type with
  | own base kind =>
      unfold synonymTarget
      dsimp only
      split <;> rfl
  | _ => rfl

theorem simpleType_declare (name : String) (type : SimpleType) (documentation : Option String) :
    Acts package k (simpleType r name type documentation >>= declare) ⟨⟩
      (synonymScript r package name type documentation).emit := by
  intro s hpackage hk
  refine (claim_declare name _ s).trans (congrArg (Prod.mk PUnit.unit) ?_)
  have hbase := simpleBase_acts (r := r) type (s.marked name)
    ((Context.markEmitted_package ..).trans hpackage) hk
  simp only [run_bind, run_pure, synonymScript, synonymOf, Script.emit, claiming]
  split
  · rfl
  · rw [hbase, noted_synonymTarget]
    rfl

theorem complexType_declare (hself : DoesAll package self scripts) (name xmlName : String)
    (type : ComplexType) (documentation : Option String) :
    Acts package k (complexType self name xmlName type documentation >>= declare) ⟨⟩
      (recordScript scripts k name xmlName type documentation).emit := by
  rintro s hpackage rfl
  refine (claim_declare name _ s).trans (congrArg (Prod.mk PUnit.unit) ?_)
  have hinner : (self (.content name type) {}).run { s.marked name with expanding := [name] } = _ :=
    (hself (s.toStacks.inRecord name) _).run_withStacks {}
      ((Context.markEmitted_package ..).trans hpackage)
  simp only [run_bind, run_get, run_modify, run_pure, hinner, recordScript, Script.emit, claiming]
  split
  · rfl
  · exact congrArg (listed · _) (Script.emit_withStacks_toStacks _ _)

theorem inline_run (hself : DoesAll package self scripts) (declared : String) (type : ComplexType)
    (fs : Fields) {s : Emission} (hpackage : s.context.package = package) :
    (Emission.inline self declared type fs).run s =
      match inlineScript scripts s.toStacks declared type with
      | some p => (some (p.fields fs), p.emit s)
      | none => (none, s) := by
  let name := Naming.typeName declared
  have hinner :
      (self (.content name type) fs).run { s with expanding := name :: s.expanding } = _ :=
    (hself (s.toStacks.inBase name) _).run_withStacks fs hpackage
  simp only [Emission.inline, inlineScript, run_bind, run_get]
  by_cases hexpanding : s.expanding.contains name
  · simp only [toStacks, name, hexpanding, if_true, run_pure]
  · simp only [toStacks, name, hexpanding, if_false, Bool.false_eq_true, run_bind, run_modify,
      run_pure, hinner]
    exact congrArg (Prod.mk _) (Script.emit_withStacks_toStacks _ s)

/-- Where the base is being expanded already, `q` stands in for its content. -/
theorem inline_getD (hself : DoesAll package self scripts) (declared : String) (type : ComplexType)
    (q : Script) (hq : ∀ s, q.emit s = s) :
    Does package k
      (fun fs => do return (← Emission.inline self declared type fs).getD (q.fields fs))
      ((inlineScript scripts k declared type).getD q) := by
  rintro fs s hpackage rfl
  simp only [run_bind, inline_run hself declared type fs hpackage, run_pure]
  cases inlineScript scripts s.toStacks declared type with
  | some p => rfl
  | none => exact congrArg (Prod.mk _) (hq s).symm

/-! ### Derivations -/

theorem wildcards_fields (found : List Wildcard) (fs : Fields) :
    (wildcardScript found).fields fs = wildcards found fs := by
  unfold wildcardScript wildcards
  split <;> rfl

theorem wildcards_emit (found : List Wildcard) (s : Emission) :
    (wildcardScript found).emit s = s := by
  unfold wildcardScript
  split <;> rfl

theorem wildcards_does (found : List Wildcard) :
    Does package k (fun fs => pure (wildcards found fs)) (wildcardScript found) := by
  intro fs s _ _
  rw [run_pure, wildcards_fields, wildcards_emit]

theorem addition_does (hself : DoesAll package self scripts) (parent : String) (d : Derivation) :
    Does package k (addition self parent d) (additionScript scripts k parent d) := by
  have helements := Does.each d.elements fun e => hself k (.element parent e)
  have hgroups := Does.each d.groups fun g => hself k (.group parent g)
  have hattributes := hself k (.attributes parent d.attributes d.attributeGroups)
  exact ((helements.append hgroups).append (wildcards_does d.wildcards)).append hattributes

theorem complexContent_does (hself : DoesAll package self scripts) (parent : String)
    (d : Derivation) :
    Does package k (complexContent r self parent d)
      (complexContentScript r scripts k parent d) := by
  have hrest := addition_does (k := k) hself parent d
  unfold complexContent complexContentScript
  cases if d.kind = .extension then d.base.bind r.baseType? else none with
  | none => exact hrest
  | some base =>
      have hbase := inline_getD (k := k) hself base.1 base.2 .done fun _ => rfl
      simpa only [Script.fields, pure_bind, bind_assoc] using hbase.append hrest

theorem textType_does (parent : String) (base : Option String) :
    Does package k (fun fs => do return fs.addText (← textType r parent base))
      (textScript r package parent base) := by
  rintro fs s rfl rfl
  unfold textType textScript
  cases base with
  | none => rfl
  | some base =>
      simp only [run_bind, refer_acts (r.resolveType · base) s rfl rfl, run_pure]
      generalize r.resolveType s.context.package base = type
      cases htext : (match type with
        | .own name _ => name == parent
        | _ => false) || type.isRecord <;> rfl

theorem simpleContent_does (hself : DoesAll package self scripts) (parent : String)
    (d : Derivation) :
    Does package k (simpleContent r self parent d)
      (simpleContentScript r package scripts k parent d) := by
  have hrest := addition_does (k := k) hself parent d
  unfold simpleContent simpleContentScript
  cases d.base.bind r.baseType? with
  | none =>
      simpa only [pure_bind, bind_assoc] using (textType_does parent d.base).append hrest
  | some base =>
      dsimp only
      split
      · have hbase := inline_getD (k := k) hself base.1 base.2 (.text plainText .done) fun _ => rfl
        simpa only [Script.fields, pure_bind, bind_assoc] using hbase.append hrest
      · have htext : Does package k (fun fs => pure (fs.addText plainText))
            (.text plainText .done) := fun fs s _ _ => rfl
        simpa only [pure_bind] using htext.append hrest

/-! ### Tasks -/

theorem content_does (hself : DoesAll package self scripts) (parent : String)
    (type : ComplexType) :
    Does package k (content r self parent type)
      (contentScript r package scripts k parent type) := by
  have helements := Does.each (type.sequence ++ type.choice ++ type.all)
    fun e => hself k (.element parent e)
  have hgroups := Does.each type.groups fun g => hself k (.group parent g)
  have hattributes := hself k (.attributes parent type.attributes type.attributeGroups)
  have hmixed : Does package k
      (fun fs => pure (if type.mixed then fs.addText plainText else fs))
      (if type.mixed then .text plainText .done else .done) := by
    intro fs s _ _
    cases type.mixed <;> rfl
  have hcomplex := Does.ofOption type.complexContent
    (complexContent_does (k := k) (r := r) hself parent)
  have hsimple := Does.ofOption type.simpleContent
    (simpleContent_does (k := k) (r := r) hself parent)
  have hall := (((((hcomplex.append hsimple).append helements).append hgroups).append
    (wildcards_does type.wildcards)).append hattributes).append hmixed
  unfold content contentScript
  cases hc : type.complexContent <;> cases hs : type.simpleContent <;>
    simpa only [hc, hs, pure_bind, bind_assoc] using hall

/-- What comes to be declared for an element, and the field that refers to it. -/
theorem elementType_does (hself : DoesAll package self scripts) (parent name : String)
    (e : Element) :
    Does package k
      (fun fs => do
        return fs.add name e.documentation
          (elementContent e name (← elementType r self parent name e)))
      ((elementTypeScript r package scripts k parent name e).2 ++
        .field name e.documentation
          (elementContent e name (elementTypeScript r package scripts k parent name e).1)
          .done) := by
  rintro fs s rfl rfl
  unfold elementType elementTypeScript
  cases htype : e.type with
  | some type =>
      simp only [run_bind, refer_acts (r.resolve · type) s rfl rfl, run_pure]
      simp [Script.fields, Script.emit, elementContent_type]
  | none =>
      cases hcomplex : e.complexType with
      | some type =>
          have hdeclare := complexType_declare hself (anonymousName parent name) name type
            type.documentation s rfl rfl
          simp only [run_bind] at hdeclare
          simp only [run_bind, hdeclare, run_pure]
          simp only [Script.fields_append, Script.emit_append, Script.fields, Script.emit,
            elementContent_type, recordScript]
          rfl
      | none =>
          cases hsimple : e.simpleType with
          | some type =>
              have hdeclare := simpleType_declare (r := r) (anonymousName parent name) type
                type.documentation s rfl rfl
              simp only [run_bind] at hdeclare
              simp only [run_bind, hdeclare, run_pure]
              simp only [Script.fields_append, Script.emit_append, Script.fields, Script.emit,
                elementContent_type, synonymScript]
              rfl
          | none =>
              simp only [run_bind, run_pure, Script.done_append, Script.fields, Script.emit,
                elementContent_type]
              rfl

theorem element_does (hself : DoesAll package self scripts) (parent : String) (e : Element) :
    Does package k (element r self parent e) (elementScript r package scripts k parent e) := by
  unfold element elementScript
  cases href : e.ref with
  | some reference =>
      rintro fs s rfl rfl
      simp only [run_bind, refer_acts (r.resolveElement · reference) s rfl rfl, run_pure]
      simp only [Script.fields, Script.emit, elementContent_type]
      rfl
  | none =>
      cases hname : e.name with
      | some name => exact elementType_does hself parent name e
      | none => exact .done

theorem group_does (hself : DoesAll package self scripts) (parent reference : String) :
    Does package k (group r self parent reference) (groupScript r scripts k parent reference) := by
  rintro fs s hpackage rfl
  unfold group groupScript
  simp only [run_bind, run_get]
  by_cases hgroups : s.groups.contains (Naming.localName reference)
  · simp only [toStacks, hgroups, if_true]
    rfl
  · simp only [toStacks, hgroups, Bool.false_eq_true, if_false]
    cases hgroup : r.group? reference with
    | none => rfl
    | some g =>
        let name := Naming.localName reference
        have helements := Does.each g.elements
          fun e => hself (s.toStacks.inGroup name) (.element parent e)
        have hnested := Does.each g.groups
          fun g => hself (s.toStacks.inGroup name) (.group parent g)
        have hinner : (g.elements.foldlM (fun fs e => self (.element parent e) fs) fs >>=
            fun fs => g.groups.foldlM (fun fs g => self (.group parent g) fs) fs).run
              { s with groups := name :: s.groups } = _ :=
          (helements.append hnested).run_withStacks fs hpackage
        simp only [run_bind] at hinner
        simp only [name] at hinner
        simp only [run_bind, run_modify, run_pure, hinner]
        exact congrArg (Prod.mk _) (Script.emit_withStacks_toStacks _ s)

/-! ### Attributes -/

theorem attributeField_does (parent : String) (a : Attribute) :
    Does package k (attributeField r parent · a) (attributeScript r package parent a) := by
  rintro fs s rfl rfl
  unfold attributeField attributeScript attributeType attributeTypeScript
  cases hname : a.name with
  | some name =>
      cases htype : a.type with
      | some type =>
          simp only [run_bind, refer_acts (r.resolveType · type) s rfl rfl, run_pure]
          rfl
      | none =>
          cases hsimple : a.simpleType with
          | some type =>
              have hdeclare := simpleType_declare (r := r) (anonymousName parent name) type
                type.documentation s rfl rfl
              simp only [run_bind] at hdeclare
              simp only [run_bind, hdeclare, run_pure]
              simp only [Script.fields_append, Script.emit_append, Script.fields, Script.emit,
                synonymScript]
              rfl
          | none => rfl
  | none =>
      cases href : a.ref with
      | some reference => rfl
      | none => rfl

theorem attributeGroup_does (hself : DoesAll package self scripts) (parent reference : String) :
    Does package k (attributeGroup r self parent · reference)
      (attributeGroupScript r scripts k parent reference) := by
  rintro fs s hpackage rfl
  unfold attributeGroup attributeGroupScript
  simp only [run_bind, run_get]
  by_cases hgroups :
      s.attributeGroups.contains (Text.lowercaseText (Naming.localName reference))
  · simp only [toStacks, hgroups, if_true]
    rfl
  · simp only [toStacks, hgroups, Bool.false_eq_true, if_false]
    cases hgroup : r.attributeGroup? reference with
    | none => rfl
    | some g =>
        let name := Text.lowercaseText (Naming.localName reference)
        have hinner : (self (.attributes parent g.attributes g.attributeGroups) fs).run
            { s with attributeGroups := name :: s.attributeGroups } = _ :=
          (hself (s.toStacks.inAttributeGroup name) _).run_withStacks fs
            hpackage
        simp only [name] at hinner
        simp only [run_bind, run_modify, run_pure, hinner]
        exact congrArg (Prod.mk _) (Script.emit_withStacks_toStacks _ s)

/-! ### Steps -/

theorem step_does (hself : DoesAll package self scripts) :
    DoesAll package (step r self) (stepScript r package scripts) := by
  intro k task
  cases task with
  | content parent type => exact content_does hself parent type
  | element parent e => exact element_does hself parent e
  | group parent reference => exact group_does hself parent reference
  | attributes parent attributes groups =>
      exact (Does.each attributes (attributeField_does parent)).append
        (Does.each groups (attributeGroup_does hself parent))

end Parts

/-- Expansion to a depth does the script to that depth. -/
theorem expand_does (r : Resolver) (package : Option String) (depth : Nat) :
    DoesAll package (expand r depth) (script r package depth) := by
  induction depth with
  | zero => exact fun _ _ _ _ _ _ => rfl
  | succ depth ih => exact step_does ih

end SoapBindings.Emission
