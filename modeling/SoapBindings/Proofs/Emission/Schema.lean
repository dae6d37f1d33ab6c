/-
# `SoapBindings.Proofs.Emission.Schema` — the script of a package

The definitions of a schema stand in no record, so their scripts only claim names and declare.  The
script of a package is that of its schemas in order, and its emission does it from an empty state.
-/
import SoapBindings.Generation
import SoapBindings.Proofs.Emission.Expansion
import SoapBindings.Proofs.Resolution

namespace SoapBindings

open Xsd

namespace Emission

/-! ## The scripts of definitions -/

/-- What is declared for a definition at the top of a schema, if its name is free. -/
inductive Draft where
  | skip
  | synonym (synonym : Code.Synonym)
  /-- A record with a text or with nothing. -/
  | plain (documentation : Option String) (text : Option TypeRef)
  | record (documentation : Option String) (k : Stacks) (task : Task)

def Draft.script (scripts : Scripting) (xmlName : String) : Draft → Script
  | skip => .skip .done
  | synonym a => .synonym a .done
  | plain documentation text =>
    .record (Naming.typeName xmlName) xmlName documentation
      (.ofOption text fun type => .text type .done) .done
  | record documentation k task =>
    .record (Naming.typeName xmlName) xmlName documentation (scripts k task) .done

section Scripts

variable (r : Resolver) (package : Option String) (scripts : Scripting) (k : Stacks)

/-- The type that an element stands for is the package's own and has the element's name already. -/
def isCovered (name type : String) : Bool :=
  match r.resolve package type with
  | .own own _ => own == name
  | _ => false

variable {r package} in
theorem isCovered_iff {name type : String} :
    isCovered r package name type ↔ ∃ kind, r.resolve package type = .own name kind := by
  unfold isCovered
  cases r.resolve package type <;> simp

/-- An element with a type.  The content of the type is not taken over inside itself. -/
def typedDraft (xmlName type : String) (documentation : Option String) : Draft :=
  let name := Naming.typeName xmlName
  let target := r.resolve package type
  if isCovered r package name type then .skip
  else if !target.isRecord then .plain documentation (some target)
  else match r.complexType? type with
    | some (declared, type) =>
      let base := Naming.typeName declared
      if k.expanding.contains base then .plain documentation none
      else .record documentation (k.inBase base) (.content base type)
    | none => .synonym { name, target, documentation := documentation.toList }

/-- What becomes of an element with a type. -/
inductive Typed (xmlName type : String) (documentation : Option String) : Draft → Prop
  | covered : isCovered r package (Naming.typeName xmlName) type →
      Typed xmlName type documentation .skip
  | text : Typed xmlName type documentation (.plain documentation (some (r.resolve package type)))
  | expanding : Typed xmlName type documentation (.plain documentation none)
  | content {declared : String} {t : ComplexType} : r.complexType? type = some (declared, t) →
      Typed xmlName type documentation (.record documentation (k.inBase (Naming.typeName declared))
        (.content (Naming.typeName declared) t))
  | renamed : Typed xmlName type documentation
      (.synonym {
        name := Naming.typeName xmlName, target := r.resolve package type
        documentation := documentation.toList })

variable {r package k} in
theorem typed_of_eq {xmlName type : String} {documentation : Option String} {found : Draft}
    (h : typedDraft r package k xmlName type documentation = found) :
    Typed r package k xmlName type documentation found := by
  subst h
  unfold typedDraft
  dsimp only
  split
  · next hcovered => exact .covered hcovered
  · split
    · exact .text
    · split
      · next hfound =>
          split
          · exact .expanding
          · exact .content hfound
      · exact .renamed

def elementDraft (xmlName : String) (e : Element) : Draft :=
  let name := Naming.typeName xmlName
  match e.type, e.complexType, e.simpleType with
  | some type, _, _ => typedDraft r package k xmlName type e.documentation
  | none, some t, _ =>
    .record (t.documentation <|> e.documentation) (k.inRecord name) (.content name t)
  | none, none, some t =>
    .synonym (synonymOf r package name t (t.documentation <|> e.documentation))
  | none, none, none => .plain e.documentation none

def draft (xmlName : String) : Definition → Draft
  | .simpleType t => .synonym (synonymOf r package (Naming.typeName xmlName) t t.documentation)
  | .complexType t =>
    let name := Naming.typeName xmlName
    .record t.documentation (k.inRecord name) (.content name t)
  | .element e => elementDraft r package k xmlName e
  | .attributeGroup g =>
    .record g.documentation (k.inAttributeGroup (Text.lowercaseText xmlName))
      (.attributes (Naming.typeName xmlName) g.attributes g.attributeGroups)

/-- A definition without a name is skipped. -/
def definitionScript (name : Option String) (definition : Definition) : Script :=
  match name with
  | none => .skip .done
  | some xmlName => (draft r package k xmlName definition).script scripts xmlName

def schemaScript (s : Schema) : Script :=
  .each s.simpleTypes (fun t => definitionScript r package scripts k t.name (.simpleType t)) ++
    .each s.complexTypes (fun t => definitionScript r package scripts k t.name (.complexType t)) ++
    .each s.elements (fun e => definitionScript r package scripts k e.name (.element e)) ++
    .each s.attributeGroups
      fun g => definitionScript r package scripts k g.name (.attributeGroup g)

/-- The script of a schema does those of its definitions. -/
theorem schemaScript_contains {s : Schema} {xmlName : String} {definition : Definition}
    (h : s.Declares xmlName definition) :
    (schemaScript r package scripts k s).Contains
      ((draft r package k xmlName definition).script scripts xmlName) := by
  have hdefinition {α : Type} {items : List α} {item : α} (hitem : item ∈ items)
      {name : α → Option String} (hname : name item = some xmlName) (kind : α → Definition) :
      (Script.each items fun item =>
        definitionScript r package scripts k (name item) (kind item)).Contains
        ((draft r package k xmlName (kind item)).script scripts xmlName) := by
    have hcontains := Script.Contains.each hitem fun item =>
      definitionScript r package scripts k (name item) (kind item)
    rwa [hname] at hcontains
  cases h with
  | element he hname => exact ((hdefinition he hname .element).right _).left _
  | simpleType ht hname => exact (((hdefinition ht hname .simpleType).left _).left _).left _
  | complexType ht hname => exact (((hdefinition ht hname .complexType).right _).left _).left _
  | attributeGroup hg hname => exact (hdefinition hg hname .attributeGroup).right _

end Scripts

/-! ## Doing them -/

section Schema

variable {r : Resolver} {package : Option String} {self : Expansion} {scripts : Scripting}
  {k : Stacks}

theorem declare_none_acts : Acts package k (pure none >>= declare) ⟨⟩ (Script.skip .done).emit :=
  fun _ _ _ => rfl

/-- What is declared for an element with a type, once its name is claimed. -/
def typedDeclaration (r : Resolver) (self : Expansion) (xmlName type : String)
    (documentation : Option String) (target : TypeRef) : Emitter (Option Code.Declaration) := do
  let name := Naming.typeName xmlName
  if !target.isRecord then
    let target ← refer (r.resolve · type)
    return some (record name xmlName documentation (Fields.addText {} target))
  match r.complexType? type with
  | some (declared, type) =>
    let fields ← Emission.inline self declared type {}
    return some (record name xmlName documentation (fields.getD {}))
  | none =>
    let target ← refer (r.resolve · type)
    return some (.synonym { name, target, documentation := documentation.toList })

/-- An element with a type claims its name as every other definition does,
unless its type has it. -/
theorem typedElement_run (xmlName type : String) (documentation : Option String) (s : Emission) :
    (typedElement r self xmlName type documentation).run s =
      if isCovered r s.context.package (Naming.typeName xmlName) type then (none, s)
      else (do
        if !(← claim (Naming.typeName xmlName)) then return none
        else
          typedDeclaration r self xmlName type documentation
            (r.resolve s.context.package type)).run s := by
  unfold typedElement isCovered typedDeclaration
  by_cases htaken : s.context.isEmitted (Naming.typeName xmlName) = true
  · simp only [claim, Context.markEmitted, run_bind, run_get, run_modify, run_pure, htaken,
      if_true, Bool.not_true, Bool.not_false, ite_self]
  · obtain ⟨target, htarget⟩ : ∃ target, r.resolve s.context.package type = target := ⟨_, rfl⟩
    simp only [claim, run_bind, run_get, run_modify, run_pure, htaken, htarget, Bool.not_false,
      Bool.not_true, Bool.false_eq_true, if_false]
    cases target with
    | own own kind =>
        dsimp only
        split <;> rfl
    | builtin | foreign => rfl

theorem typedElement_declare (hself : DoesAll package self scripts) (xmlName type : String)
    (documentation : Option String) :
    Acts package k (typedElement r self xmlName type documentation >>= declare) ⟨⟩
      ((typedDraft r package k xmlName type documentation).script scripts xmlName).emit := by
  rintro s rfl rfl
  rw [run_bind, typedElement_run]
  unfold typedDraft
  by_cases hcovered :
      isCovered r s.context.package (Naming.typeName xmlName) type = true
  · simp only [hcovered, if_true]
    rfl
  · simp only [hcovered, Bool.false_eq_true, if_false]
    rw [← run_bind, claim_declare]
    refine congrArg (Prod.mk PUnit.unit) ?_
    have hpackage : (s.marked (Naming.typeName xmlName)).context.package = s.context.package :=
      Context.markEmitted_package ..
    unfold typedDeclaration
    cases hrecord : (r.resolve s.context.package type).isRecord with
    | false =>
        simp only [run_bind, run_pure, Bool.not_false, if_true, Draft.script, Script.emit, claiming,
          refer_acts (r.resolve · type) _ hpackage rfl]
        rfl
    | true =>
        simp only [Bool.not_true, Bool.false_eq_true, if_false]
        cases r.complexType? type with
        | some target =>
            have hinline := inline_run hself target.1 target.2 {} hpackage
            unfold inlineScript at hinline
            by_cases hexpanding : s.toStacks.expanding.contains (Naming.typeName target.1) = true
            · have hbase : (s.marked (Naming.typeName xmlName)).toStacks.expanding.contains
                  (Naming.typeName target.1) = true := hexpanding
              simp only [hbase, if_true] at hinline
              simp only [run_bind, run_pure, Draft.script, Script.emit, claiming, hinline,
                hexpanding, if_true]
              rfl
            · have hbase : ¬(s.marked (Naming.typeName xmlName)).toStacks.expanding.contains
                  (Naming.typeName target.1) = true := hexpanding
              simp only [hbase, Bool.false_eq_true, if_false] at hinline
              simp only [run_bind, run_pure, Draft.script, Script.emit, claiming, hinline,
                hexpanding, Bool.false_eq_true, if_false]
              rfl
        | none =>
            simp only [run_bind, run_pure, Draft.script, Script.emit, claiming,
              refer_acts (r.resolve · type) _ hpackage rfl]

theorem globalElement_declare (hself : DoesAll package self scripts) (e : Element) :
    Acts package k (globalElement r self e >>= declare) ⟨⟩
      (definitionScript r package scripts k e.name (.element e)).emit := by
  unfold globalElement definitionScript
  cases e.name with
  | none => exact declare_none_acts
  | some xmlName =>
      simp only [draft, elementDraft]
      cases e.type with
      | some type => exact typedElement_declare hself xmlName type e.documentation
      | none =>
          cases e.complexType with
          | some type => exact complexType_declare hself _ xmlName type _
          | none =>
              cases e.simpleType with
              | some type => exact simpleType_declare _ type _
              | none =>
                  intro s _ _
                  by_cases htaken : s.context.isEmitted (Naming.typeName xmlName) = true
                  · simp only [claim, run_bind, run_get, run_modify, run_pure, Draft.script,
                      Script.emit, claiming, htaken, Context.markEmitted, if_true, Bool.not_true,
                      Bool.false_eq_true, if_false]
                    rfl
                  · simp only [claim, run_bind, run_get, run_modify, run_pure, Draft.script,
                      Script.emit, claiming, htaken, if_true, Bool.not_false, Bool.false_eq_true,
                      if_false]
                    rfl

theorem globalSimpleType_declare (type : SimpleType) :
    Acts package k (globalSimpleType r type >>= declare) ⟨⟩
      (definitionScript r package scripts k type.name (.simpleType type)).emit := by
  unfold globalSimpleType definitionScript
  cases type.name with
  | none => exact declare_none_acts
  | some name => exact simpleType_declare _ type _

theorem globalComplexType_declare (hself : DoesAll package self scripts) (type : ComplexType) :
    Acts package k (globalComplexType self type >>= declare) ⟨⟩
      (definitionScript r package scripts k type.name (.complexType type)).emit := by
  unfold globalComplexType definitionScript
  cases type.name with
  | none => exact declare_none_acts
  | some name => exact complexType_declare hself _ name type _

theorem globalAttributeGroup_declare (hself : DoesAll package self scripts) (g : AttributeGroup) :
    Acts package k (globalAttributeGroup self g >>= declare) ⟨⟩
      (definitionScript r package scripts k g.name (.attributeGroup g)).emit := by
  rintro s rfl rfl
  unfold globalAttributeGroup definitionScript
  cases g.name with
  | none => rfl
  | some xmlName =>
      let name := Naming.typeName xmlName
      let inside := Text.lowercaseText xmlName :: (s.marked name).attributeGroups
      have hinner : (self (.attributes name g.attributes g.attributeGroups) {}).run
          { s.marked name with attributeGroups := inside } = _ :=
        (hself (s.toStacks.inAttributeGroup (Text.lowercaseText xmlName)) _).run_withStacks {}
          (Context.markEmitted_package ..)
      refine (claim_declare name _ s).trans (congrArg (Prod.mk PUnit.unit) ?_)
      simp only [name, inside] at hinner
      simp only [name, run_bind, run_get, run_modify, run_pure, draft, Draft.script, Script.emit,
        claiming]
      split
      · rfl
      · rw [hinner]
        exact congrArg (listed · _) (Script.emit_withStacks_toStacks _ _)

/-! ### Schemas and packages -/

theorem Acts.seq {x y : Emitter PUnit} {p q : Script} (hx : Acts package k x ⟨⟩ p.emit)
    (hy : Acts package k y ⟨⟩ q.emit) :
    Acts package k (x >>= fun _ => y) ⟨⟩ (p ++ q).emit := by
  intro s hpackage hk
  rw [hx.bind hy s hpackage hk]
  simp

theorem Acts.forM {α : Type} (items : List α) {x : α → Emitter PUnit} {p : α → Script}
    (h : ∀ item, Acts package k (x item) ⟨⟩ (p item).emit) :
    Acts package k (items.forM x) ⟨⟩ (Script.each items p).emit := by
  induction items with
  | nil => exact Acts.pure _
  | cons item items ih => exact (h item).seq ih

theorem schema_acts (hself : DoesAll package self scripts) (s : Schema) :
    Acts package k (schema r self s) ⟨⟩ (schemaScript r package scripts k s).emit := by
  unfold schema schemaScript
  have hsimple : Acts package k (s.simpleTypes.forM (globalSimpleType r · >>= declare)) ⟨⟩
      (Script.each s.simpleTypes
        fun t => definitionScript r package scripts k t.name (.simpleType t)).emit :=
    .forM s.simpleTypes globalSimpleType_declare
  have hcomplex := Acts.forM s.complexTypes fun t =>
    globalComplexType_declare (r := r) (k := k) hself t
  have helements := Acts.forM s.elements fun e => globalElement_declare (r := r) (k := k) hself e
  have hgroups := Acts.forM s.attributeGroups fun g =>
    globalAttributeGroup_declare (r := r) (k := k) hself g
  simpa only [bind_assoc] using ((hsimple.seq hcomplex).seq helements).seq hgroups

/-- The emission of schemas from any state does their scripts. -/
theorem schemas_run (r : Resolver) (depth : Nat) (schemas : List Schema) (s : Emission) :
    (schemas.forM (schema r (expand r depth))).run s =
      (⟨⟩, (Script.each schemas (schemaScript r s.context.package
        (script r s.context.package depth) s.toStacks)).emit s) :=
  Acts.forM schemas
    (fun schema => schema_acts (expand_does r s.context.package depth) schema) s rfl rfl

end Schema

end Emission

namespace Document

open Emission

/-- The script of the schemas of a package. -/
def packageScript (d : Document) (r : Resolver) (package : String) : Script :=
  .each (d.schemasIn package)
    (schemaScript r (some package) (script r (some package) d.expansionBound) {})

/-- The emission of a package does the script of the package. -/
theorem emitPackage_eq (d : Document) (r : Resolver) (package : String) :
    d.emitPackage r package =
      (d.packageScript r package).emit { context := { package := some package } } :=
  congrArg Prod.snd (schemas_run r d.expansionBound (d.schemasIn package) _)

end Document

end SoapBindings
