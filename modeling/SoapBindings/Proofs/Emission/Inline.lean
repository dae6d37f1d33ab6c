/-
# `SoapBindings.Proofs.Emission.Inline` — content that is expanded in place

The content of a complex type is expanded in its own record, in the records of the types that extend
it, and in those of the elements that have it as their type.  All of these have the same fields.

What could tell them apart is the stack of records that are being expanded: inside an extension it
holds more names than inside the base alone.  A name on the stack only matters where a base has it,
so nothing changes as long as no type in a chain of bases has the name of one above it; and an
element puts the same single name on the stack as its type does.
-/
import Mathlib.Logic.Relation
import SoapBindings.Proofs.Emission.Origins

namespace SoapBindings

open Xsd Emission

namespace Emission

/-! ## Records by themselves -/

/-- Between two definitions of a package: nothing is being expanded. -/
structure Idle (s : Emission) (package : String) : Prop where
  package : s.context.package = some package
  stacked : s.toStacks = {}

theorem idle_start (package : String) :
    Idle { context := { package := some package } } package := ⟨rfl, rfl⟩

/-- Nothing is being expanded any more once a script is done. -/
theorem Idle.acts {α : Type} {s : Emission} {package : String} (h : s.Idle package)
    {x : Emitter α} {a : α} {p : Script} (hx : Acts (some package) {} x a p.emit) :
    Idle (x.run s).2 package := by
  rw [hx s h.package h.stacked]
  exact ⟨(Script.emit_package p s).trans h.package, (Script.emit_toStacks p s).trans h.stacked⟩

/-- Whatever schemas have been emitted, the next one starts between two definitions. -/
theorem Idle.schemas {s : Emission} {package : String} (h : s.Idle package) (r : Resolver)
    (depth : Nat) (schemas : List Schema) :
    Idle ((schemas.forM (schema r (expand r depth))).run s).2 package :=
  h.acts (Acts.forM schemas fun schema => schema_acts (expand_does r (some package) depth) schema)

/-- A complex type becomes a record of its content, unless its name is taken. -/
theorem complexType_run {package : Option String} {self : Expansion} {scripts : Scripting}
    (hself : DoesAll package self scripts) (name xmlName : String) (type : ComplexType)
    (documentation : Option String) {s : Emission} (hpackage : s.context.package = package) :
    ((complexType self name xmlName type documentation).run s).1 =
      if s.context.isEmitted name then none
      else some (record name xmlName documentation
        ((scripts (s.toStacks.inRecord name) (.content name type)).fields {})) := by
  have hinner : (self (.content name type) {}).run { s.marked name with expanding := [name] } = _ :=
    (hself (s.toStacks.inRecord name) _).run_withStacks {}
      ((Context.markEmitted_package ..).trans hpackage)
  by_cases htaken : s.context.isEmitted name = true
  · simp only [complexType, claim, run_bind, run_get, run_modify, run_pure, htaken, Bool.not_true,
      Bool.not_false, if_true]
  · simp only [complexType, claim, run_bind, run_get, run_modify, run_pure, htaken, Bool.not_false,
      Bool.not_true, Bool.false_eq_true, if_false]
    exact congrArg (fun result => some (record name xmlName documentation result.1)) hinner

end Emission

namespace Document

/-- The fields of a complex type's own record. -/
def recordFields (d : Document) (package name : String) (t : ComplexType) : Fields :=
  (script (.ofDocument d) (some package) d.expansionBound (Stacks.inRecord {} name)
    (.content name t)).fields {}

variable {d : Document} {package : String} {s : Emission}

theorem complexType_eq (hidle : s.Idle package) {name : String}
    (hfree : ¬s.context.isEmitted name) (xmlName : String) (t : ComplexType)
    (documentation : Option String) :
    ((complexType (expand (.ofDocument d) d.expansionBound) name xmlName t documentation).run s).1 =
      some (record name xmlName documentation (d.recordFields package name t)) := by
  rw [complexType_run (expand_does _ _ _) _ _ _ _ hidle.package, if_neg hfree, hidle.stacked]
  rfl

theorem globalComplexType_eq (hidle : s.Idle package) {t : ComplexType} {name : String}
    (hname : t.name = some name) (hfree : ¬s.context.isEmitted (Naming.typeName name)) :
    ((globalComplexType (expand (.ofDocument d) d.expansionBound) t).run s).1 =
      some (record (Naming.typeName name) name t.documentation
        (d.recordFields package (Naming.typeName name) t)) := by
  unfold globalComplexType
  rw [hname]
  exact complexType_eq hidle hfree name t t.documentation

end Document

/-! ## Chains of bases -/

/-- A complex type with its declared name extends another one. -/
def Resolver.Extends (r : Resolver) (x base : String × ComplexType) : Prop :=
  ∃ δ ∈ x.2.derivations, δ.kind = .extension ∧ δ.base.bind r.baseType? = some base

/-- The content of the base comes before all other content. -/
def Resolver.ExtendsFirst (r : Resolver) (x base : String × ComplexType) : Prop :=
  ∃ δ, x.2.derivations.head? = some δ ∧ δ.kind = .extension ∧
    δ.base.bind r.baseType? = some base

/-- No type in the chain of bases has the name of one above it. -/
def Resolver.DistinctNames (r : Resolver) (x : String × ComplexType) : Prop :=
  ∀ y base, Relation.ReflTransGen r.Extends x y → Relation.TransGen r.Extends y base →
    Naming.typeName y.1 ≠ Naming.typeName base.1

namespace Resolver

variable {r : Resolver} {x b : String × ComplexType}

theorem ExtendsFirst.extends (h : r.ExtendsFirst x b) : r.Extends x b := by
  obtain ⟨δ, hδ, hbase⟩ := h
  exact ⟨δ, List.mem_of_mem_head? (Option.mem_def.mpr hδ), hbase⟩

theorem DistinctNames.base (h : r.DistinctNames x) (hbase : r.Extends x b) : r.DistinctNames b :=
  fun y further hy hfurther => h y further (.head hbase hy) hfurther

/-- Names stay distinct if a type with another name extends the one at the top. -/
theorem DistinctNames.extend (h : r.DistinctNames b) (honly : ∀ c, r.Extends x c → c = b)
    (hnames : ∀ c, Relation.ReflTransGen r.Extends b c →
      Naming.typeName x.1 ≠ Naming.typeName c.1) :
    r.DistinctNames x := by
  intro y further hy hfurther
  obtain rfl | ⟨c, hc, hy⟩ := hy.cases_head
  · obtain ⟨c, hc, hrest⟩ := Relation.TransGen.head'_iff.mp hfurther
    exact hnames further (honly c hc ▸ hrest)
  · exact h y further (honly c hc ▸ hy) hfurther

end Resolver

/-- A base has its declared name. -/
theorem Document.base_name {d : Document} {reference : Option String}
    {base : String × ComplexType}
    (h : reference.bind (Resolver.ofDocument d).baseType? = some base) :
    base.2.name = some base.1 := by
  obtain ⟨name, -, hfound⟩ := Option.bind_eq_some_iff.mp h
  obtain ⟨symbol, hsymbol, hname, hdefinition⟩ := Resolver.baseType?_mem hfound
  obtain ⟨schema, -, -, hdeclares⟩ := declares_of_mem hsymbol
  rw [hdefinition, hname] at hdeclares
  cases hdeclares with
  | complexType _ hname => exact hname

/-! ## The stack of records -/

namespace Emission

/-- The bases that a task takes up for the record at hand. -/
def Task.Takes (r : Resolver) : Task → String × ComplexType → Prop
  | .content parent t, base => Relation.TransGen r.Extends (parent, t) base
  | .element _ _, _ | .group _ _, _ | .attributes _ _ _, _ => False

/-- The name of a type says nothing about its bases. -/
theorem extends_renamed {r : Resolver} {name name' : String} {t : ComplexType}
    {base : String × ComplexType} (h : Relation.TransGen r.Extends (name, t) base) :
    Relation.TransGen r.Extends (name', t) base := by
  obtain ⟨first, hfirst, hrest⟩ := Relation.TransGen.head'_iff.mp h
  exact Relation.TransGen.head'_iff.mpr ⟨first, hfirst, hrest⟩

section Expanding

variable {r : Resolver} {package : Option String} {scripts : Scripting} {k k' : Stacks}

theorem additionScript_congr {parent : String} {δ : Derivation}
    (h : ∀ task, (∀ base, ¬task.Takes r base) → scripts k task = scripts k' task) :
    additionScript scripts k parent δ = additionScript scripts k' parent δ := by
  simp only [additionScript, h (.element parent _) fun _ => id, h (.group parent _) fun _ => id,
    h (.attributes parent _ _) fun _ => id]

theorem piecewise_eq : Piecewise (· = ·) := ⟨rfl, congrArg₂ _, rfl, rfl⟩

/-- A task comes to the same with other stacks if all that it looks at does. -/
theorem contentScript_congr {parent : String} {t : ComplexType}
    (h : ∀ task, (∀ base, ¬task.Takes r base) → scripts k task = scripts k' task)
    (hbases : ∀ base, r.Extends (parent, t) base →
      inlineScript scripts k base.1 base.2 = inlineScript scripts k' base.1 base.2) :
    contentScript r package scripts k parent t = contentScript r package scripts k' parent t := by
  have hcomplex (δ : Derivation) (hδ : t.complexContent = some δ) :
      complexContentScript r scripts k parent δ = complexContentScript r scripts k' parent δ := by
    have hmem : δ ∈ t.derivations := List.mem_append_left _ (Option.mem_toList.mpr hδ)
    refine congrArg₂ (· ++ ·) ?_ (additionScript_congr h)
    split
    · next name type hbase =>
        split at hbase
        · next hkind => rw [hbases _ ⟨δ, hmem, hkind, hbase⟩]
        · cases hbase
    · rfl
  have hsimple (δ : Derivation) (hδ : t.simpleContent = some δ) :
      simpleContentScript r package scripts k parent δ =
        simpleContentScript r package scripts k' parent δ := by
    have hmem : δ ∈ t.derivations := List.mem_append_right _ (Option.mem_toList.mpr hδ)
    refine congrArg₂ (· ++ ·) ?_ (additionScript_congr h)
    split
    · next name type hbase =>
        split
        · next hkind => rw [hbases _ ⟨δ, hmem, hkind, hbase⟩]
        · rfl
    · rfl
  simp only [contentScript, piecewise_eq.ofOption _ hcomplex, piecewise_eq.ofOption _ hsimple,
    h (.element parent _) fun _ => id, h (.group parent _) fun _ => id,
    h (.attributes parent _ _) fun _ => id]

end Expanding

/-- Other records may be expanded, as long as the bases that a task takes up are open in the one
case if they are in the other. -/
theorem script_expanding (r : Resolver) (package : Option String) (depth : Nat) (k : Stacks)
    {names names' : List String} {task : Task}
    (h : ∀ base, task.Takes r base →
      (Naming.typeName base.1 ∈ names ↔ Naming.typeName base.1 ∈ names')) :
    script r package depth { k with expanding := names } task =
      script r package depth { k with expanding := names' } task := by
  induction depth generalizing k names names' task with
  | zero => rfl
  | succ depth ih =>
      have hother (k : Stacks) (task : Task) (htask : ∀ base, ¬task.Takes r base) :
          script r package depth { k with expanding := names } task =
            script r package depth { k with expanding := names' } task :=
        ih k fun base hbase => absurd hbase (htask base)
      cases task with
      | content parent t =>
          refine contentScript_congr (hother k) fun base hbase => ?_
          have hopen := h base (.single hbase)
          unfold inlineScript
          simp only [List.contains_iff_mem, hopen]
          split
          · rfl
          · refine congrArg some (ih k fun further hfurther => ?_)
            simp only [List.mem_cons, h further (.head hbase (extends_renamed hfurther))]
      | element parent e => rfl
      | group parent reference =>
          have hinside := hother (k.inGroup (Naming.localName reference))
          dsimp only [Stacks.inGroup] at hinside
          simp only [script, stepScript, groupScript, Stacks.inGroup,
            hinside (.element parent _) fun _ => id, hinside (.group parent _) fun _ => id]
      | attributes parent attributes groups =>
          refine congrArg (Script.each attributes _ ++ Script.each groups ·)
            (funext fun reference => ?_)
          let name := Text.lowercaseText (Naming.localName reference)
          have hinside := hother (k.inAttributeGroup name)
          dsimp only [Stacks.inAttributeGroup, name] at hinside
          simp only [attributeGroupScript, Stacks.inAttributeGroup,
            hinside (.attributes parent _ _) fun _ => id]

end Emission

/-! ## Extensions -/

/-- A complex type without the base of its complex content. -/
def Xsd.ComplexType.own (t : ComplexType) : ComplexType :=
  { t with complexContent := t.complexContent.map fun δ => { δ with base := none } }

namespace Emission

section Extensions

variable {r : Resolver} {package : Option String} {scripts : Scripting} {k : Stacks}

/-- What extends a base by complex content adds the rest of its content to that of the base. -/
theorem contentScript_extension {parent : String} {t : ComplexType} {δ : Derivation}
    (hδ : t.complexContent = some δ) (hkind : δ.kind = .extension)
    {base : String × ComplexType} (hbase : δ.base.bind r.baseType? = some base)
    (hopen : Naming.typeName base.1 ∉ k.expanding) :
    contentScript r package scripts k parent t =
      scripts (k.inBase (Naming.typeName base.1)) (.content (Naming.typeName base.1) base.2) ++
        contentScript r package scripts k parent t.own := by
  have hcomplex : complexContentScript r scripts k parent δ =
      scripts (k.inBase (Naming.typeName base.1)) (.content (Naming.typeName base.1) base.2) ++
        complexContentScript r scripts k parent { δ with base := none } := by
    simp [complexContentScript, additionScript, hkind, hbase, inlineScript, hopen]
  simp only [contentScript, ComplexType.own, hδ, Option.map_some, Script.ofOption, hcomplex,
    Script.append_assoc]

/-- The content of the first base comes before everything else. -/
theorem contentScript_first {name parent : String} {t : ComplexType} {base : String × ComplexType}
    (h : r.ExtendsFirst (name, t) base) (hopen : Naming.typeName base.1 ∉ k.expanding) :
    ∃ rest, contentScript r package scripts k parent t =
      scripts (k.inBase (Naming.typeName base.1)) (.content (Naming.typeName base.1) base.2) ++
        rest := by
  obtain ⟨δ, hδ, hkind, hbase⟩ := h
  unfold ComplexType.derivations at hδ
  cases hcomplex : t.complexContent with
  | some first =>
      rw [hcomplex] at hδ
      cases hδ
      exact ⟨_, contentScript_extension hcomplex hkind hbase hopen⟩
  | none =>
      rw [hcomplex] at hδ
      have hsimple : t.simpleContent = some δ := by simpa using hδ
      unfold contentScript
      simp only [hcomplex, hsimple, Script.ofOption, simpleContentScript, hbase, hkind, if_true,
        inlineScript, List.contains_iff_mem, hopen, if_false, Option.getD_some, Script.done_append,
        Script.append_assoc]
      exact ⟨_, rfl⟩

end Extensions

end Emission

namespace Document

variable {d : Document} {package : String}

/-- A base is not being expanded yet in the record of a type that extends it. -/
theorem base_open {x base : String × ComplexType}
    (hdistinct : (Resolver.ofDocument d).DistinctNames x)
    (hbase : (Resolver.ofDocument d).Extends x base) :
    Naming.typeName base.1 ∉ (Stacks.inRecord {} (Naming.typeName x.1)).expanding := by
  simpa [Stacks.inRecord] using (hdistinct x base .refl (.single hbase)).symm

/-- A base that is taken up has the fields of its own record, and the rest is added to them. -/
theorem recordFields_rest (x : String × ComplexType) {base : String × ComplexType}
    (hx : ∃ home, x.2.places home ⊆ d.places)
    (hdistinct : (Resolver.ofDocument d).DistinctNames x)
    (hbase : (Resolver.ofDocument d).Extends x base) {depth : Nat}
    (hdepth : d.expansionBound = depth + 1) {rest : Script}
    (hrest : contentScript (.ofDocument d) (some package)
        (script (.ofDocument d) (some package) depth)
        (Stacks.inRecord {} (Naming.typeName x.1)) (Naming.typeName x.1) x.2 =
      script (.ofDocument d) (some package) depth
          ((Stacks.inRecord {} (Naming.typeName x.1)).inBase (Naming.typeName base.1))
          (.content (Naming.typeName base.1) base.2) ++ rest) :
    d.recordFields package (Naming.typeName x.1) x.2 =
      rest.fields (d.recordFields package (Naming.typeName base.1) base.2) := by
  have hwhole := standsIn_whole package (Stacks.inRecord {} (Naming.typeName x.1))
    (show (Task.content (Naming.typeName x.1) x.2).StandsIn d from hx)
  unfold recordFields
  rw [hdepth] at hwhole ⊢
  -- No base above has the name of the type that is extended.
  have hstack : script (.ofDocument d) (some package) depth
        ((Stacks.inRecord {} (Naming.typeName x.1)).inBase (Naming.typeName base.1))
        (.content (Naming.typeName base.1) base.2) =
      script (.ofDocument d) (some package) depth (Stacks.inRecord {} (Naming.typeName base.1))
        (.content (Naming.typeName base.1) base.2) := by
    refine script_expanding _ _ _ {} fun further hfurther => ?_
    have hne := hdistinct x further .refl (.head hbase (extends_renamed hfurther))
    simp [Stacks.inRecord, hne.symm]
  change (contentScript ..).whole at hwhole
  rw [hrest, hstack, Script.whole_append] at hwhole
  change (contentScript ..).fields {} = _
  rw [hrest, hstack, Script.fields_append]
  exact congrArg rest.fields ((script_settles _ _ (Nat.le_succ depth) _ _ hwhole.1).2 {}).symm

theorem expansionBound_succ (d : Document) : ∃ depth, d.expansionBound = depth + 1 :=
  Nat.exists_eq_add_one.mpr (Nat.lt_of_lt_of_le (Nat.succ_pos _) (startDepth_le d {}))

/-- A type has the fields of every base that comes first in front of its own. -/
theorem recordFields_prefix (package : String) {x base : String × ComplexType}
    (h : Relation.TransGen (Resolver.ofDocument d).ExtendsFirst x base)
    (hx : ∃ home, x.2.places home ⊆ d.places)
    (hdistinct : (Resolver.ofDocument d).DistinctNames x) :
    (d.recordFields package (Naming.typeName base.1) base.2).fields <+:
      (d.recordFields package (Naming.typeName x.1) x.2).fields := by
  have hstep {x base : String × ComplexType} (h : (Resolver.ofDocument d).ExtendsFirst x base)
      (hx : ∃ home, x.2.places home ⊆ d.places)
      (hdistinct : (Resolver.ofDocument d).DistinctNames x) :
      (d.recordFields package (Naming.typeName base.1) base.2).fields <+:
        (d.recordFields package (Naming.typeName x.1) x.2).fields := by
    obtain ⟨depth, hdepth⟩ := expansionBound_succ d
    obtain ⟨rest, hrest⟩ := contentScript_first h (base_open hdistinct h.extends)
    rw [recordFields_rest x hx hdistinct h.extends hdepth hrest]
    exact rest.fields_prefix _
  induction h using Relation.TransGen.head_induction_on with
  | single h => exact hstep h hx hdistinct
  | head h hrest ih =>
      obtain ⟨δ, -, -, hfound⟩ := h.extends
      obtain ⟨name, -, hfound⟩ := Option.bind_eq_some_iff.mp hfound
      have hfurther := ih ⟨_, places_baseType hfound⟩ (hdistinct.base h.extends)
      exact hfurther.trans (hstep h hx hdistinct)

/-- **An extension has the fields of its base first.**  Every complex type whose complex content
extends another one becomes a record in its package.  It starts with exactly the fields that each
type in the chain of bases has in its own record, as far down as each extends the next one first,
and after those of its base it has what its content adds without the base. -/
theorem extension_fields {d : Document} {package : String} {schema : Schema} {t b : ComplexType}
    {δ : Derivation} {name declared : String}
    (hschema : schema ∈ d.schemasIn package) (ht : t ∈ schema.complexTypes)
    (hname : t.name = some name) (hδ : t.complexContent = some δ) (hkind : δ.kind = .extension)
    (hbase : δ.base.bind (Resolver.ofDocument d).baseType? = some (declared, b))
    (hdistinct : (Resolver.ofDocument d).DistinctNames (name, t))
    {s : Emission} (hidle : s.Idle package)
    (hfree : ¬s.context.isEmitted (Naming.typeName name)) :
    let self := expand (.ofDocument d) d.expansionBound
    ∃ derived : Fields,
      ((globalComplexType self t).run s).1 =
        some (record (Naming.typeName name) name t.documentation derived) ∧
      (∀ base, Relation.TransGen (Resolver.ofDocument d).ExtendsFirst (name, t) base →
        ∀ s' : Emission, s'.Idle package → ¬s'.context.isEmitted (Naming.typeName base.1) →
          ∃ fields : Fields,
            ((globalComplexType self base.2).run s').1 =
              some (record (Naming.typeName base.1) base.1 base.2.documentation fields) ∧
            fields.fields <+: derived.fields) ∧
      ∀ s' : Emission, s'.Idle package → ¬s'.context.isEmitted (Naming.typeName declared) →
        ∃ fields : Fields,
          ((globalComplexType self b).run s').1 =
            some (record (Naming.typeName declared) declared b.documentation fields) ∧
          derived = ((self (.content (Naming.typeName name) t.own) fields).run
            (s.withStacks (Stacks.inRecord {} (Naming.typeName name)))).1 := by
  intro self
  have hx : ∃ home, t.places home ⊆ d.places :=
    ⟨_, places_complexType (d.schemasIn_subset package hschema) ht hname⟩
  have hfirst : (Resolver.ofDocument d).ExtendsFirst (name, t) (declared, b) :=
    ⟨δ, by simp [ComplexType.derivations, hδ], hkind, hbase⟩
  refine ⟨d.recordFields package (Naming.typeName name) t,
    globalComplexType_eq hidle hname hfree, fun base hchain s' hidle' hfree' => ?_,
    fun s' hidle' hfree' => ?_⟩
  · have hbaseName : base.2.name = some base.1 := by
      obtain ⟨_, _, hlast⟩ := Relation.TransGen.tail'_iff.mp hchain
      obtain ⟨_, -, -, hfound⟩ := hlast
      exact base_name hfound
    have hprefix := recordFields_prefix package hchain hx hdistinct
    exact ⟨_, globalComplexType_eq hidle' hbaseName hfree', hprefix⟩
  · refine ⟨_, globalComplexType_eq hidle' (base_name hbase) hfree', ?_⟩
    obtain ⟨depth, hdepth⟩ := expansionBound_succ d
    have hrest := @contentScript_extension (.ofDocument d) (some package)
      (script (.ofDocument d) (some package) depth) _ (Naming.typeName name) t δ hδ hkind
      (declared, b) hbase (base_open hdistinct hfirst.extends)
    have hown := expand_does (.ofDocument d) (some package) d.expansionBound
      (Stacks.inRecord {} (Naming.typeName name)) (.content (Naming.typeName name) t.own)
      (d.recordFields package (Naming.typeName declared) b)
      (s.withStacks (Stacks.inRecord {} (Naming.typeName name))) hidle.package rfl
    rw [hown, recordFields_rest (name, t) hx hdistinct hfirst.extends hdepth hrest, hdepth]
    rfl

/-- The end of a chain of bases. -/
def rootType : ComplexType where
  name := some "Entity"
  mixed := true
  attributes := [{ name := some "id", type := some "int" }]

def middleType : ComplexType where
  name := some "Person"
  complexContent := some {
    kind := .extension
    base := some "Entity"
    elements := [{ name := some "id", type := some "string" }] }

def topType : ComplexType where
  name := some "Employee"
  complexContent := some {
    kind := .extension
    base := some "t:Person"
    elements := [{ name := some "Boss", type := some "t:Employee" }] }

/-- An element with the type at the top of the chain, which refers to itself. -/
def topElement : Element where
  name := some "Chief"
  type := some "t:Employee"

/-- A chain of three types, declared in no order. -/
def chained : Document where
  kind := .xsd
  location := none
  rootPackage := basePackage
  definitions := {
    schemas := [{
      identifier := basePackage
      elements := [topElement]
      complexTypes := [topType, rootType, middleType] }] }
  registry := {}

theorem chained_distinct :
    (Resolver.ofDocument chained).DistinctNames ("Employee", topType) := by
  have htop (b) (h : (Resolver.ofDocument chained).Extends ("Employee", topType) b) :
      b = ("Person", middleType) := by
    obtain ⟨δ, hδ, -, hb⟩ := h
    cases List.mem_singleton.mp hδ
    exact (Option.some.inj hb).symm
  have hmiddle (b) (h : (Resolver.ofDocument chained).Extends ("Person", middleType) b) :
      b = ("Entity", rootType) := by
    obtain ⟨δ, hδ, -, hb⟩ := h
    cases List.mem_singleton.mp hδ
    exact (Option.some.inj hb).symm
  have hroot (b) : ¬(Resolver.ofDocument chained).Extends ("Entity", rootType) b := by
    rintro ⟨δ, hδ, -⟩
    cases hδ
  have hend (c) (h : Relation.ReflTransGen (Resolver.ofDocument chained).Extends
      ("Entity", rootType) c) : c = ("Entity", rootType) := by
    obtain rfl | ⟨further, hfurther, -⟩ := h.cases_head
    · rfl
    · exact absurd hfurther (hroot further)
  have hdistinct : (Resolver.ofDocument chained).DistinctNames ("Entity", rootType) := by
    intro y further hy hfurther
    obtain ⟨c, hc, -⟩ := Relation.TransGen.head'_iff.mp hfurther
    exact absurd (hend y hy ▸ hc) (hroot c)
  refine (hdistinct.extend hmiddle fun c hc => ?_).extend htop fun c hc => ?_
  · rw [hend c hc]
    decide +kernel
  · obtain rfl | ⟨further, hfurther, hc⟩ := hc.cases_head
    · decide +kernel
    · rw [hend c (hmiddle further hfurther ▸ hc)]
      decide +kernel

theorem extension_fields_chain :
    let self := expand (.ofDocument chained) chained.expansionBound
    let start : Emission := { context := { package := some basePackage } }
    ∃ derived root : Fields,
      ((globalComplexType self topType).run start).1 =
        some (record (Naming.typeName "Employee") "Employee" none derived) ∧
      ((globalComplexType self rootType).run start).1 =
        some (record (Naming.typeName "Entity") "Entity" none root) ∧
      root.fields <+: derived.fields := by
  intro self start
  obtain ⟨derived, hderived, hchain, -⟩ := extension_fields (d := chained) (s := start)
    List.mem_cons_self List.mem_cons_self rfl rfl rfl rfl chained_distinct (idle_start _) nofun
  have hroot : Relation.TransGen (Resolver.ofDocument chained).ExtendsFirst
      ("Employee", topType) ("Entity", rootType) :=
    .head (b := ("Person", middleType)) ⟨_, rfl, rfl, rfl⟩ (.single ⟨_, rfl, rfl, rfl⟩)
  obtain ⟨root, hrun, hprefix⟩ := hchain _ hroot start (idle_start _) nofun
  exact ⟨derived, root, hderived, hrun, hprefix⟩

end Document

/-! ## Elements with the type of another definition -/

namespace Resolver

variable {r : Resolver} {name : String} {found : String × ComplexType}

/-- What is no simple type is referred to as a record, by its declared name. -/
theorem reference_record (package : Option String) {s : Symbol}
    (h : s.definition.kind ≠ .simpleType) :
    (reference package s).isRecord ∧
      (reference package s).name? = some (Naming.typeName s.name) := by
  refine ⟨?_, reference_name? package s⟩
  exact Bool.of_not_eq_false fun hrecord =>
    h ((TypeRef.isRecord_eq_false (reference_kind? package s)).mp hrecord)

/-- A base is referred to by its own name. -/
theorem baseType?_resolveType (package : Option String) (h : r.baseType? name = some found) :
    (r.resolveType package name).isRecord ∧
      (r.resolveType package name).name? = some (Naming.typeName found.1) := by
  unfold baseType? at h
  unfold resolveType
  dsimp only at h ⊢
  split at h
  · cases h
  · next hbuiltin =>
      rw [Option.not_isSome_iff_eq_none.mp hbuiltin]
      split at h
      · next s hs =>
          split at h
          · next t ht =>
              cases h
              exact reference_record package (by rw [ht]; nofun)
          · cases h
      · cases h

/-- What resolution says of a reference and the content that is found for it belong to the same
definition. -/
theorem complexType?_resolve (package : Option String) (h : r.complexType? name = some found) :
    (r.resolve package name).isRecord ∧
      (r.resolve package name).name? = some (Naming.typeName found.1) := by
  unfold complexType? at h
  unfold resolve
  dsimp only at h ⊢
  split at h
  · cases h
  · next hbuiltin =>
      rw [Option.not_isSome_iff_eq_none.mp hbuiltin]
      split at h
      · next s hs =>
          dsimp only [ofSymbol]
          split at h
          · next e he =>
              rw [he]
              dsimp only
              split at h
              · exact baseType?_resolveType package h
              · obtain ⟨t, -, rfl⟩ := Option.map_eq_some_iff.mp h
                exact reference_record package (by rw [he]; nofun)
          · next t ht =>
              cases h
              rw [ht]
              exact reference_record package (by rw [ht]; nofun)
          · cases h
      · cases h

end Resolver

namespace Document

/-- **An element has the fields of its type.**  An element whose type has known content becomes a
record, unless its name is taken or the type has it already; and that record has exactly the fields
that the content has in the type's own record in the same package. -/
theorem element_fields {d : Document} {package : String} {e : Element}
    {xmlName type declared : String} {t : ComplexType} (hname : e.name = some xmlName)
    (htype : e.type = some type)
    (hfound : (Resolver.ofDocument d).complexType? type = some (declared, t)) {s : Emission}
    (hidle : s.Idle package) :
    let r := Resolver.ofDocument d
    let self := expand r d.expansionBound
    (r.resolve (some package) type).isRecord ∧
    (r.resolve (some package) type).name? = some (Naming.typeName declared) ∧
    ∃ fields : Fields,
      ((globalElement r self e).run s).1 =
        (if s.context.isEmitted (Naming.typeName xmlName) ∨
            isCovered r (some package) (Naming.typeName xmlName) type then none
          else some (record (Naming.typeName xmlName) xmlName e.documentation fields)) ∧
      ∀ s' : Emission, s'.Idle package → ¬s'.context.isEmitted (Naming.typeName declared) →
        ∀ targetName documentation,
          ((complexType self (Naming.typeName declared) targetName t documentation).run s').1 =
            some (record (Naming.typeName declared) targetName documentation fields) := by
  dsimp only
  obtain ⟨hrecord, hdeclared⟩ := Resolver.complexType?_resolve (some package) hfound
  refine ⟨hrecord, hdeclared, d.recordFields package (Naming.typeName declared) t, ?_,
    fun s' hidle' hfree' targetName documentation =>
      complexType_eq hidle' hfree' targetName t documentation⟩
  -- On the empty stack the type is open, and alone on it as in its own record.
  have hself := expand_does (.ofDocument d) (some package) d.expansionBound
  have hinline := inline_run hself declared t {} (s := s.marked (Naming.typeName xmlName))
    ((Context.markEmitted_package ..).trans hidle.package)
  have hstacks : (s.marked (Naming.typeName xmlName)).toStacks = {} := hidle.stacked
  rw [hstacks] at hinline
  simp only [globalElement, hname, htype]
  rw [typedElement_run, hidle.package]
  by_cases hcovered : isCovered (.ofDocument d) (some package) (Naming.typeName xmlName) type = true
  · simp only [hcovered, if_true, or_true]
  · by_cases htaken : s.context.isEmitted (Naming.typeName xmlName) = true
    · simp only [hcovered, htaken, claim, run_bind, run_get, run_modify, run_pure, Bool.not_true,
        Bool.not_false, if_true, if_false, true_or, Bool.false_eq_true]
    · simp only [hcovered, htaken, claim, typedDeclaration, hrecord, hfound, run_bind, run_get,
        run_modify, run_pure, Bool.not_true, Bool.not_false, if_false, or_self,
        Bool.false_eq_true]
      exact congrArg (fun result => some (record (Naming.typeName xmlName) xmlName e.documentation
        (result.1.getD {}))) hinline

theorem element_fields_chain :
    let self := expand (.ofDocument chained) chained.expansionBound
    let start : Emission := { context := { package := some basePackage } }
    ∃ fields : Fields,
      ((globalElement (.ofDocument chained) self topElement).run start).1 =
        some (record (Naming.typeName "Chief") "Chief" none fields) ∧
      ((globalComplexType self topType).run start).1 =
        some (record (Naming.typeName "Employee") "Employee" none fields) := by
  intro self start
  obtain ⟨-, -, fields, hrun, htarget⟩ := element_fields (d := chained) (e := topElement)
    (t := topType) (s := start) rfl rfl rfl (idle_start basePackage)
  have hopen : ¬(start.context.isEmitted (Naming.typeName "Chief") = true ∨
      isCovered (.ofDocument chained) (some basePackage) (Naming.typeName "Chief")
        "t:Employee" = true) := by
    decide +kernel
  rw [if_neg hopen] at hrun
  exact ⟨fields, hrun, htarget start (idle_start basePackage) nofun "Employee" none⟩

end Document

end SoapBindings
