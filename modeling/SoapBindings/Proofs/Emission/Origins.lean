/-
# `SoapBindings.Proofs.Emission.Origins` — whose declaration a name has

A package asks for a declaration of every definition at the top of its schemas, and for one of every
anonymous type that stands in what it declares: in the type itself, in a base that is taken over, or
in a group.  The name of an anonymous type is put together from two others, and whoever asks first
for a name has it.

`Asks` lists what is asked for, whatever becomes of it.  Every declaration has the fields that one
of these definitions comes to by itself.  So no fields are lost exactly if the definitions that are
asked for under one name come to the same.

Such facts hold of a whole package because they hold of each piece of its script.  `Inherited` lists
the pieces together with what is known of them, and leads from there to the package; `AllTraced` is
the first property that goes this way.
-/
import Mathlib.Data.List.Nodup
import SoapBindings.Proofs.Emission.Depth
import SoapBindings.Proofs.Emission.Links
import SoapBindings.Proofs.Emission.Within

namespace SoapBindings

open Xsd

/-- The fields of a declaration, if it is a record. -/
def Code.Declaration.fields? : Code.Declaration → Option (List Code.Field)
  | synonym _ => none
  | record r => some r.fields

namespace Emission

/-- The kind that a reference has where the definition is anonymous. -/
def Draft.kind : Draft → SymbolKind
  | .synonym _ => .simpleType
  | .skip | .plain _ _ | .record _ _ _ => .complexType

/-- Scripts that agree reach no bound. -/
theorem Agree.whole {taken : List String} {p q : Script} (h : Agree taken p q) : p.whole := by
  induction h with
  | done => trivial
  | skip _ ih | refer _ ih | field _ ih | text _ ih | synonym _ ih | known _ _ ih
  | record _ _ _ ih => exact ih

/-- A part of a task has an anonymous type, which is to be declared under a name of its own. -/
inductive Anonymous (r : Resolver) (package : Option String) :
    Stacks → Task → String → Draft → Prop
  | complexType {k : Stacks} {parent name : String} {e : Element} {t : ComplexType} :
      e.ref = none → e.name = some name → e.type = none → e.complexType = some t →
      Anonymous r package k (.element parent e) (anonymousName parent name)
        (.record t.documentation (k.inRecord (anonymousName parent name))
          (.content (anonymousName parent name) t))
  | simpleType {k : Stacks} {parent name : String} {e : Element} {t : SimpleType} :
      e.ref = none → e.name = some name → e.type = none → e.complexType = none →
      e.simpleType = some t →
      Anonymous r package k (.element parent e) (anonymousName parent name)
        (.synonym (synonymOf r package (anonymousName parent name) t t.documentation))
  | attributeType {k : Stacks} {parent name : String} {attributes : List Attribute}
      {groups : List String} {a : Attribute} {t : SimpleType} : a ∈ attributes →
      a.name = some name → a.type = none → a.simpleType = some t →
      Anonymous r package k (.attributes parent attributes groups) (anonymousName parent name)
        (.synonym (synonymOf r package (anonymousName parent name) t t.documentation))

section Fields

variable {r : Resolver} {package : Option String} {k : Stacks}

/-- An element with an anonymous type becomes a field that refers to it. -/
theorem elementScript_contains {parent name : String} {e : Element} {t : ComplexType}
    (href : e.ref = none) (hname : e.name = some name) (htype : e.type = none)
    (ht : e.complexType = some t) (scripts : Scripting) :
    (stepScript r package scripts k (.element parent e)).Contains
      (.field name e.documentation
        (elementContent e name (.own (anonymousName parent name) (some .complexType))) .done) := by
  simp only [stepScript, elementScript, elementTypeScript, href, hname, htype, ht]
  exact .right (.refl _) _

/-- An anonymous type has a field that refers to it under its name. -/
theorem Anonymous.contains {task : Task} {name : String} {found : Draft}
    (h : Anonymous r package k task name found) :
    ∃ xmlName documentation content kind, content.type = .own name (some kind) ∧
      ∀ scripts, (stepScript r package scripts k task).Contains
        (.field xmlName documentation content .done) := by
  cases h with
  | @complexType parent name e t href hname htype ht =>
      exact ⟨_, _, _, _, elementContent_type .., elementScript_contains href hname htype ht⟩
  | @simpleType parent name e t href hname htype hcomplex ht =>
      refine ⟨name, e.documentation, elementContent e name (.own (anonymousName parent name)
        (some .simpleType)), .simpleType, elementContent_type .., fun scripts => ?_⟩
      simp only [stepScript, elementScript, elementTypeScript, href, hname, htype, hcomplex, ht]
      exact .right (.refl _) _
  | @attributeType parent name attributes groups a t ha hname htype ht =>
      refine ⟨name, a.documentation, .attr name (.own (anonymousName parent name)
        (some .simpleType)), .simpleType, rfl, fun scripts => ?_⟩
      refine .left (.trans (.each ha _) ?_) _
      simp only [attributeScript, attributeTypeScript, hname, htype, ht]
      exact .right (.refl _) _

end Fields

end Emission

namespace Document

open Emission

section Asks

variable (d : Document) (package : String)

/-- The fields that a task comes to by itself. -/
def expansion (k : Stacks) (task : Task) : Fields :=
  ((expand (.ofDocument d) d.expansionBound task {}).run
    (Emission.withStacks { context := { package := some package } } k)).1

/-- The fields that a definition comes to by itself, if it becomes a record. -/
def draftFields? : Draft → Option (List Code.Field)
  | .skip | .synonym _ => none
  | .plain _ text => some ((text.map (Fields.addText {})).getD {}).fields
  | .record _ k task => some (d.expansion package k task).fields

/-- The package asks for a definition to be declared under a name. -/
inductive Asks : String → Draft → Prop
  | definition {schema : Schema} {xmlName : String} {definition : Definition} :
      schema ∈ d.schemasIn package → schema.Declares xmlName definition →
      draft (.ofDocument d) (some package) {} xmlName definition ≠ .skip →
      Asks (Naming.typeName xmlName)
        (draft (.ofDocument d) (some package) {} xmlName definition)
  | anonymous {name inner : String} {documentation : Option String} {k k' : Stacks}
      {task task' : Task} {found : Draft} : Asks name (.record documentation k task) →
      Within (.ofDocument d) k task k' task' →
      Anonymous (.ofDocument d) (some package) k' task' inner found → Asks inner found

end Asks

variable {d : Document} {package : String}

theorem expansion_eq (k : Stacks) (task : Task) :
    d.expansion package k task =
      (script (.ofDocument d) (some package) d.expansionBound k task).fields {} :=
  congrArg Prod.fst
    (expand_does (.ofDocument d) (some package) d.expansionBound k task {} _ rfl rfl)

/-! ## What is asked for stands in the document -/

theorem Asks.standsIn {name : String} {documentation : Option String} {k : Stacks} {task : Task}
    (h : d.Asks package name (.record documentation k task)) : task.StandsIn d := by
  generalize hfound : Draft.record documentation k task = found at h
  induction h generalizing documentation k task with
  | definition hschema hdeclares _ =>
      exact draft_standsIn (d.schemasIn_subset package hschema) hdeclares hfound.symm
  | anonymous _ hwithin hanonymous ih =>
      have hstands := hwithin.standsIn (ih rfl)
      cases hanonymous with
      | complexType _ hname _ ht =>
          cases hfound
          obtain ⟨home, hplaces⟩ := hstands
          exact ⟨_, Element.places_anonymous ht hname home ▸ hplaces⟩
      | simpleType | attributeType => cases hfound

/-- The bound is deep enough for what stands in the document. -/
theorem standsIn_whole (package : String) (k : Stacks) {task : Task} (h : task.StandsIn d) :
    (script (.ofDocument d) (some package) d.expansionBound k task).whole := by
  have hfits : Fits d d.expansionBound [] k task := standsIn_fits (startDepth_le d k) h
  exact (script_agree hfits (Nat.le_refl _)).whole

theorem Asks.whole {name : String} {documentation : Option String} {k : Stacks} {task : Task}
    (h : d.Asks package name (.record documentation k task)) :
    (script (.ofDocument d) (some package) d.expansionBound k task).whole :=
  standsIn_whole package k h.standsIn

/-! ## Scripts of what is asked for -/

/-- A property that scripts inherit from their pieces,
where all that is declared on the way is asked for. -/
structure Inherited (d : Document) (package : String) (P : Script → Prop) : Prop where
  piecewise : Piecewise fun p _ => P p
  skip : P (.skip .done)
  cut : P (.cut .done)
  text : ∀ parent base, P (textScript (.ofDocument d) (some package) parent base)
  /-- A field with a type that is known by a name. -/
  named : ∀ {name documentation content}, Named (.ofDocument d) (some package) content.type →
    content.isText = false → P (.field name documentation content .done)
  /-- A field with an anonymous type. -/
  refers : ∀ {name documentation content inner found},
    content.type = .own inner (some (Draft.kind found)) → content.isText = false →
    d.Asks package inner found → P (.field name documentation content .done)
  synonym : ∀ {a}, d.Asks package a.name (.synonym a) → P (.synonym a .done)
  plain : ∀ {name xmlName documentation text}, d.Asks package name (.plain documentation text) →
    P (.record name xmlName documentation (.ofOption text fun type => .text type .done) .done)
  record : ∀ {name xmlName documentation asked k task depth},
    d.Asks package name (.record asked k task) → depth ≤ d.expansionBound →
    P (script (.ofDocument d) (some package) depth k task) →
    P (.record name xmlName documentation
      (script (.ofDocument d) (some package) depth k task) .done)

theorem draft_synonym {r : Resolver} {package : Option String} {k : Stacks} {xmlName : String}
    {definition : Definition} {a : Code.Synonym}
    (h : draft r package k xmlName definition = .synonym a) : a.name = Naming.typeName xmlName := by
  cases definition with
  | simpleType t =>
      cases h
      rfl
  | complexType t | attributeGroup g => cases h
  | element e =>
      simp only [draft, elementDraft] at h
      split at h
      · cases typed_of_eq h with
        | renamed => rfl
      · cases h
      · cases h
        rfl
      · cases h

namespace Inherited

variable {P : Script → Prop} (hP : Inherited d package P)

include hP

theorem append {p q : Script} (hp : P p) (hq : P q) : P (p ++ q) :=
  @Piecewise.append _ hP.piecewise p .done q .done hp hq

theorem attributeField {k : Stacks} {parent : String} {attributes : List Attribute}
    {groups : List String} {a : Attribute}
    (hasks : ∀ {name found}, Anonymous (.ofDocument d) (some package) k
      (.attributes parent attributes groups) name found → d.Asks package name found)
    (ha : a ∈ attributes) : P (attributeScript (.ofDocument d) (some package) parent a) := by
  have hform := attributeScript_form (.ofDocument d) (some package) parent a
  generalize attributeScript (.ofDocument d) (some package) parent a = p at hform
  cases hform with
  | missing => exact hP.piecewise.done
  | field hnamed => exact hP.named hnamed rfl
  | simpleType hname htype ht =>
      have hinside := hasks (.attributeType ha hname htype ht)
      exact hP.append (hP.synonym hinside) (hP.refers rfl rfl hinside)

theorem elementField {k : Stacks} {parent : String} {e : Element} {depth : Nat}
    (hasks : ∀ {name found}, Anonymous (.ofDocument d) (some package) k (.element parent e)
      name found → d.Asks package name found)
    (hdepth : depth ≤ d.expansionBound)
    (hinner : ∀ {name documentation k task}, d.Asks package name (.record documentation k task) →
      P (script (.ofDocument d) (some package) depth k task)) :
    P (elementScript (.ofDocument d) (some package)
      (script (.ofDocument d) (some package) depth) k parent e) := by
  obtain ⟨form, hform, hscript⟩ := elementScript_form (.ofDocument d) (some package) k parent e
  rw [hscript]
  cases hform with
  | missing => exact hP.piecewise.done
  | field hnamed =>
      exact hP.named (elementContent_type e _ _ ▸ hnamed) (elementContent_isText ..)
  | complexType href hname htype ht =>
      have hinside := hasks (.complexType href hname htype ht)
      exact hP.append
        (hP.record hinside hdepth (hinner hinside))
        (hP.refers (elementContent_type ..) (elementContent_isText ..) hinside)
  | simpleType href hname htype ht hsimple =>
      have hinside := hasks (.simpleType href hname htype ht hsimple)
      exact hP.append (hP.synonym hinside)
        (hP.refers (elementContent_type ..) (elementContent_isText ..) hinside)

/-- What is done for a record that is asked for. -/
theorem script {name : String} {documentation : Option String} {k₀ k : Stacks}
    {task₀ task : Task} (hasks : d.Asks package name (.record documentation k₀ task₀))
    (hwithin : Within (.ofDocument d) k₀ task₀ k task) {depth : Nat}
    (hdepth : depth ≤ d.expansionBound) :
    P (Emission.script (.ofDocument d) (some package) depth k task) := by
  induction depth generalizing name documentation k₀ task₀ k task with
  | zero => exact hP.cut
  | succ depth ih =>
      have hless := Nat.le_of_succ_le hdepth
      have hself {k' : Stacks} {task' : Task} (h : Subtask (.ofDocument d) k task k' task') :
          P (Emission.script (.ofDocument d) (some package) depth k' task') :=
        ih hasks (hwithin.step h) hless
      have hanonymous {name : String} {found : Draft}
          (h : Anonymous (.ofDocument d) (some package) k task name found) :
          d.Asks package name found := hasks.anonymous hwithin h
      let scripts := Emission.script (.ofDocument d) (some package) depth
      cases task with
      | content parent t =>
          have hinside : Inside (fun p _ => P p) scripts scripts k parent t :=
            ⟨fun e he => hself (.element he), fun g hg => hself (.group hg),
              fun part hpart => hself (.attributes hpart)⟩
          exact hP.piecewise.content scripts scripts hinside
            (fun _ hmem hkind _ _ hbase hopen => hself (.base hmem hkind hbase hopen))
            fun derivation _ _ => hP.text parent derivation.base
      | element parent e =>
          exact hP.elementField hanonymous hless fun h => ih h .refl hless
      | group parent reference =>
          exact hP.piecewise.group scripts scripts fun g hg hopen =>
            ⟨fun e he => hself (.groupElement hg hopen he),
              fun n hn => hself (.groupReference hg hopen hn)⟩
      | attributes parent attributes groups =>
          exact hP.piecewise.attributes scripts scripts
            (fun a ha => hP.attributeField hanonymous ha)
            fun reference hreference g hg hopen =>
              hself (.attributeGroup hreference hg hopen)

theorem draft {schema : Schema} (hschema : schema ∈ d.schemasIn package) {xmlName : String}
    {definition : Definition} (hdeclares : schema.Declares xmlName definition) :
    P ((Emission.draft (.ofDocument d) (some package) {} xmlName definition).script
      (Emission.script (.ofDocument d) (some package) d.expansionBound) xmlName) := by
  cases hdraft : Emission.draft (.ofDocument d) (some package) {} xmlName definition with
  | skip => exact hP.skip
  | synonym a =>
      have hasks := Asks.definition hschema hdeclares (by rw [hdraft]; nofun)
      rw [hdraft, ← draft_synonym hdraft] at hasks
      exact hP.synonym hasks
  | plain documentation text =>
      have hasks := Asks.definition hschema hdeclares (by rw [hdraft]; nofun)
      exact hP.plain (hdraft ▸ hasks)
  | record documentation k task =>
      have hasks := Asks.definition hschema hdeclares (by rw [hdraft]; nofun)
      rw [hdraft] at hasks
      exact hP.record hasks (Nat.le_refl _) (hP.script hasks .refl (Nat.le_refl _))

theorem packageScript : P (d.packageScript (.ofDocument d) package) :=
  hP.piecewise.each _ (q := fun _ => .done) fun _ hschema =>
    hP.piecewise.schema _ (fun _ _ => .done) hP.skip fun _ _ => hP.draft hschema

end Inherited

/-! ## Where declarations come from -/

/-- A definition that would be declared under its name is asked for, and comes to the same by
itself. -/
def Traced (d : Document) (package : String) (node : Node) : Prop :=
  ∃ found, d.Asks package node.name found ∧ d.draftFields? package found = node.declaration.fields?

/-- Every definition in a script is traced, if no field of it is missing for want of depth. -/
def AllTraced (d : Document) (package : String) (p : Script) : Prop :=
  ∀ node ∈ p.nodes, node.whole → Traced d package node

namespace AllTraced

theorem append {p q : Script} (hp : AllTraced d package p) (hq : AllTraced d package q) :
    AllTraced d package (p ++ q) := by
  intro node hnode
  rw [Script.nodes_append] at hnode
  exact (List.mem_append.mp hnode).elim (hp node) (hq node)

theorem synonym {a : Code.Synonym} (h : d.Asks package a.name (.synonym a)) :
    AllTraced d package (.synonym a .done) := by
  intro node hnode _
  rw [List.mem_singleton.mp hnode]
  exact ⟨_, h, rfl⟩

theorem plain {name xmlName : String} {documentation : Option String} {text : Option TypeRef}
    (h : d.Asks package name (.plain documentation text)) :
    AllTraced d package
      (.record name xmlName documentation (.ofOption text fun type => .text type .done) .done) := by
  intro node hnode _
  cases text with
  | none | some type =>
      rw [List.mem_singleton.mp hnode]
      exact ⟨_, h, rfl⟩

/-- A record comes to the same at every depth at which no field is missing. -/
theorem record {name xmlName : String} {documentation documentation' : Option String} {k : Stacks}
    {task : Task} (h : d.Asks package name (.record documentation' k task)) {depth : Nat}
    (hdepth : depth ≤ d.expansionBound)
    (hinner : AllTraced d package (script (.ofDocument d) (some package) depth k task)) :
    AllTraced d package (.record name xmlName documentation
      (script (.ofDocument d) (some package) depth k task) .done) := by
  intro node hnode hwhole
  obtain rfl | hnode := List.mem_cons.mp hnode
  · have hsettles := (script_settles (.ofDocument d) (some package) hdepth k task hwhole).2 {}
    refine ⟨_, h, ?_⟩
    rw [draftFields?, expansion_eq, hsettles]
    rfl
  · obtain hnode | hnode := List.mem_append.mp hnode
    · exact hinner node hnode hwhole
    · cases hnode

theorem text (parent : String) (base : Option String) :
    AllTraced d package (textScript (.ofDocument d) (some package) parent base) := by
  cases base with
  | none => exact nofun
  | some base =>
      obtain htext | ⟨htext, -⟩ := textScript_some (.ofDocument d) (some package) parent base
      · exact htext ▸ nofun
      · exact htext ▸ nofun

theorem inherited (d : Document) (package : String) :
    Inherited d package (AllTraced d package) where
  piecewise := ⟨nofun, append, nofun, nofun⟩
  skip := nofun
  cut := nofun
  text := text
  named _ _ := nofun
  refers _ _ _ := nofun
  synonym := synonym
  plain := plain
  record h hdepth hinner := record h hdepth hinner

end AllTraced

/-! ## Packages -/

/-- A declaration is what a definition that was asked for under its name comes to. -/
theorem declaration_asked {declaration : Code.Declaration}
    (h : declaration ∈ d.declarations package) :
    ∃ found, d.Asks package declaration.name found ∧
      d.draftFields? package found = declaration.fields? := by
  obtain ⟨node, hnode, rfl, hsettled⟩ := d.emitPackage_fromNodes package declaration h
  rw [node.declaration_name]
  have hwhole := hsettled.whole (d.emitPackage_exhausted package)
  exact (AllTraced.inherited d package).packageScript node hnode hwhole

/-! ## Whose name it is -/

/-- No two definitions that are asked for under one name come to different fields. -/
def NamesSettled (d : Document) (package : String) : Prop :=
  ∀ name found found', d.Asks package name found → d.Asks package name found' →
    d.draftFields? package found = d.draftFields? package found'

/-- The fields of a definition refer to the anonymous types in it. -/
theorem Asks.mem_expansion {name : String} {documentation : Option String} {k k' : Stacks}
    {task task' : Task} (h : d.Asks package name (.record documentation k task))
    (hwithin : Within (.ofDocument d) k task k' task') {xmlName : String}
    {text : Option String} {content : Code.Content}
    (hcontains : ∀ scripts, (stepScript (.ofDocument d) (some package) scripts k' task').Contains
      (.field xmlName text content .done)) :
    ∃ f ∈ (d.expansion package k task).fields, f.content = content := by
  obtain ⟨depth, hdepth⟩ := hwithin.contains h.whole
  rw [expansion_eq]
  exact (hdepth.trans (hcontains _)).mem_fields {}

/-- A type that a declaration refers to in its own package is declared. -/
theorem own_declared {declaration : Code.Declaration} (h : declaration ∈ d.declarations package)
    {name : String} {kind : SymbolKind} (ht : .own name (some kind) ∈ declaration.types) :
    name ∈ (d.declarations package).map (·.name) := by
  obtain hleads | ⟨name', kind', heq, hname⟩ := types_refer h ht
  · obtain ⟨s, hs, hreference, hdeclared⟩ := leads_declared hleads rfl
    unfold Resolver.reference at hreference
    dsimp only at hreference
    split at hreference
    · next hhere =>
        cases hreference
        cases hhere
        exact hdeclared
    · cases hreference
  · cases heq
    exact hname

theorem Asks.declared {name : String} {found : Draft} (hsettled : d.NamesSettled package)
    (h : d.Asks package name found) : name ∈ (d.declarations package).map (·.name) := by
  induction h with
  | definition hschema hdeclares hdraft => exact declares_draft hschema hdeclares hdraft
  | @anonymous name inner documentation k k' task task' found hasks hwithin hanonymous ih =>
      obtain ⟨declaration, hmem, rfl⟩ := List.mem_map.mp ih
      obtain ⟨other, hother, hfields⟩ := declaration_asked hmem
      have hsame : some (d.expansion package k task).fields = declaration.fields? :=
        (hsettled _ _ _ hasks hother).trans hfields
      obtain ⟨xmlName, text, content, kind, htype, hcontains⟩ := hanonymous.contains
      obtain ⟨f, hf, rfl⟩ := hasks.mem_expansion hwithin hcontains
      have hfield : .own inner (some kind) ∈ declaration.types := by
        cases declaration with
        | synonym a => cases hsame
        | record r =>
            rw [Option.some.inj hsame] at hf
            exact htype ▸ List.mem_map_of_mem hf
      exact own_declared hmem hfield

/-- **No definition loses its fields to another** exactly if those that are asked for under one name
come to the same fields.  Then whatever a package asks for is declared under its name with the
fields that it comes to by itself: every definition at the top of a schema, and every anonymous type
within, which the field of its element refers to by that name. -/
theorem definitions_kept (d : Document) (package : String) :
    ((∀ name found, d.Asks package name found → ∃ declaration ∈ d.declarations package,
        declaration.name = name ∧ declaration.fields? = d.draftFields? package found) ↔
      d.NamesSettled package) ∧
    ∀ name documentation k task, d.Asks package name (.record documentation k task) →
      ∀ k' parent e inner t, Within (.ofDocument d) k task k' (.element parent e) →
        e.ref = none → e.name = some inner → e.type = none → e.complexType = some t →
        (∃ f ∈ (d.expansion package k task).fields,
          f.content = elementContent e inner
            (.own (anonymousName parent inner) (some .complexType))) ∧
        d.Asks package (anonymousName parent inner)
          (.record t.documentation (k'.inRecord (anonymousName parent inner))
            (.content (anonymousName parent inner) t)) := by
  refine ⟨⟨fun hkept name found found' h h' => ?_, fun hsettled name found h => ?_⟩,
    fun name documentation k task h k' parent e inner t hwithin href hname htype ht => ?_⟩
  · obtain ⟨declaration, hmem, hdeclared, hfields⟩ := hkept name found h
    obtain ⟨declaration', hmem', hdeclared', hfields'⟩ := hkept name found' h'
    have hsame : declaration = declaration' := List.inj_on_of_nodup_map
      (d.declarations_nodup package) hmem hmem' (hdeclared.trans hdeclared'.symm)
    rw [← hfields, ← hfields', hsame]
  · obtain ⟨declaration, hmem, rfl⟩ := List.mem_map.mp (h.declared hsettled)
    obtain ⟨other, hother, hfields⟩ := declaration_asked hmem
    exact ⟨declaration, hmem, rfl, hfields.symm.trans (hsettled _ _ _ hother h)⟩
  · exact ⟨h.mem_expansion hwithin (elementScript_contains href hname htype ht),
      h.anonymous hwithin (.complexType href hname htype ht)⟩

/-- An anonymous type stands in a type `A`, for an element `B`. -/
def outerType : ComplexType where
  name := some "A"
  sequence := [{
    name := some "B"
    complexType := some { attributes := [{ name := some "y", type := some "int" }] } }]

/-- The anonymous type of `outerType` comes second for its name. -/
def shadowing : Document where
  kind := .xsd
  location := none
  rootPackage := basePackage
  definitions := {
    schemas := [{
      identifier := basePackage
      complexTypes := [
        { name := some "AB", attributes := [{ name := some "x", type := some "int" }] },
        outerType] }] }
  registry := {}

/-- An anonymous type can be replaced where no two definitions of the document share a name. -/
theorem shadowing_replaced :
    (shadowing.symbols.map fun s => Naming.typeName s.name).Nodup ∧
      ¬∀ name found, shadowing.Asks basePackage name found →
        ∃ declaration ∈ shadowing.declarations basePackage, declaration.name = name ∧
          declaration.fields? = shadowing.draftFields? basePackage found := by
  refine ⟨by decide +kernel, fun hkept => ?_⟩
  obtain ⟨schema, hschema, hmem⟩ :
      ∃ schema ∈ shadowing.schemasIn basePackage, outerType ∈ schema.complexTypes :=
    ⟨_, List.mem_cons_self, List.mem_cons_of_mem _ List.mem_cons_self⟩
  have houter := Asks.definition hschema (.complexType hmem rfl) nofun
  have hinner := houter.anonymous (.step .refl (.element List.mem_cons_self))
    (.complexType rfl rfl rfl rfl)
  obtain ⟨declaration, hdeclaration, hname, hfields⟩ := hkept _ _ hinner
  have hdeclared : ∀ declaration ∈ shadowing.declarations basePackage,
      declaration.name = anonymousName (Naming.typeName "A") "B" →
      declaration.fields?.map (·.map (·.ident)) = some ["x"] := by
    decide +kernel
  have hasked := hdeclared declaration hdeclaration hname
  rw [hfields] at hasked
  revert hasked
  decide +kernel

end Document

end SoapBindings
