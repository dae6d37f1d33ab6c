/-
# `SoapBindings.Proofs.Emission.SimpleContent` — the text of simple content

A type with simple content has a text, which comes from wherever its chain of extensions stops: at a
base that is no complex type, at a restriction, or at a base that is being expanded already.  On the
way every type may add texts of its own, by being mixed or by a text that stands in for a base, but
a record keeps the first text only.  So what is to be shown is that there is one, and that is an
induction on the chain; it holds of circles too, since it says nothing about the stack.

Which text comes first takes more.  If no type of the chain has the name of one above it, the record
of the last type is a prefix of the record at hand, and the last type takes its text from the base.
-/
import SoapBindings.Proofs.Emission.Contents
import SoapBindings.Proofs.Emission.Inline

namespace SoapBindings

open Xsd Emission

namespace Emission

section Texts

variable {r : Resolver} {package : Option String} {k : Stacks}

/-! ## Texts have an action of their own -/

theorem textsApart_piecewise : Piecewise fun p _ => p.TextsApart :=
  ⟨trivial, .append, ⟨rfl, trivial⟩, trivial⟩

theorem textScript_textsApart (parent : String) (base : Option String) :
    (textScript r package parent base).TextsApart := by
  cases base with
  | none => trivial
  | some base =>
      obtain htext | ⟨htext, -⟩ := textScript_some r package parent base <;> rw [htext] <;> trivial

theorem elementScript_textsApart (scripts : Scripting) (parent : String) (e : Element) :
    (elementScript r package scripts k parent e).TextsApart := by
  obtain ⟨form, hform, hscript⟩ := elementScript_form r package k parent e
  rw [hscript]
  cases hform with
  | missing => trivial
  | field _ | complexType _ _ _ _ | simpleType _ _ _ _ _ =>
      exact ⟨elementContent_isText .., trivial⟩

theorem attributeScript_textsApart (parent : String) (a : Attribute) :
    (attributeScript r package parent a).TextsApart := by
  have hform := attributeScript_form r package parent a
  generalize attributeScript r package parent a = p at hform ⊢
  cases hform with
  | missing => trivial
  | field _ | simpleType _ _ _ => exact ⟨rfl, trivial⟩

theorem script_textsApart (r : Resolver) (package : Option String) (depth : Nat) (k : Stacks)
    (task : Task) : (script r package depth k task).TextsApart := by
  induction depth generalizing k task with
  | zero => trivial
  | succ depth ih =>
      let scripts := script r package depth
      cases task with
      | content parent t =>
          exact textsApart_piecewise.content scripts scripts
            ⟨fun _ _ => ih _ _, fun _ _ => ih _ _, fun _ _ => ih _ _⟩ (fun _ _ _ _ _ _ _ => ih _ _)
            fun δ _ _ => textScript_textsApart parent δ.base
      | element parent e => exact elementScript_textsApart _ parent e
      | group parent reference =>
          exact textsApart_piecewise.group scripts scripts fun _ _ _ =>
            ⟨fun _ _ => ih _ _, fun _ _ => ih _ _⟩
      | attributes parent attributes groups =>
          exact textsApart_piecewise.attributes scripts scripts
            (fun a _ => attributeScript_textsApart parent a) fun _ _ _ _ _ => ih _ _

/-! ## There is a text -/

/-- The text for a base is there whatever the base is. -/
theorem textScript_text (parent : String) (base : Option String) :
    ∃ type, .text type ∈ (textScript r package parent base).contents := by
  cases base with
  | none => exact ⟨_, List.mem_cons_self⟩
  | some base =>
      obtain htext | ⟨htext, -⟩ := textScript_some r package parent base <;> rw [htext] <;>
        exact ⟨_, List.mem_cons_self⟩

end Texts

end Emission

/-- The type has simple content and nothing else, and so have all types in the chain of bases. -/
def Resolver.OnlySimple (r : Resolver) (x : String × ComplexType) : Prop :=
  ∀ y, Relation.ReflTransGen r.Extends x y → y.2.complexContent = none ∧ y.2.simpleContent.isSome

namespace Resolver

variable {r : Resolver} {x y : String × ComplexType}

theorem OnlySimple.base (h : r.OnlySimple x) (hbase : r.Extends x y) : r.OnlySimple y :=
  fun z hz => h z (.head hbase hz)

/-- Simple content takes up its base before anything else. -/
theorem OnlySimple.extendsFirst (h : r.OnlySimple x)
    (hchain : Relation.ReflTransGen r.Extends x y) :
    Relation.ReflTransGen r.ExtendsFirst x y := by
  induction hchain with
  | refl => exact .refl
  | @tail y z hy hz ih =>
      obtain ⟨hcomplex, -⟩ := h y hy
      obtain ⟨δ, hδ, hkind, hbase⟩ := hz
      have hsimple : y.2.derivations = y.2.simpleContent.toList := by
        simp [ComplexType.derivations, hcomplex]
      rw [hsimple] at hδ
      exact ih.tail ⟨δ, by rw [hsimple, Option.mem_toList.mp hδ]; rfl, hkind, hbase⟩

end Resolver

namespace Emission

variable {r : Resolver} {package : Option String}

/-- The text for the base of simple content comes before the rest of the content. -/
theorem contentScript_simple {scripts : Scripting} {k : Stacks} {parent : String} {t : ComplexType}
    {δ : Derivation} (hcomplex : t.complexContent = none) (hδ : t.simpleContent = some δ) :
    ∃ rest, contentScript r package scripts k parent t =
      (match δ.base.bind r.baseType? with
        | some (name, type) =>
          if δ.kind = .extension then
            (inlineScript scripts k name type).getD (.text plainText .done)
          else .text plainText .done
        | none => textScript r package parent δ.base) ++ rest := by
  unfold contentScript
  rw [hcomplex, hδ]
  simp only [Script.ofOption, Script.done_append, simpleContentScript, Script.append_assoc]
  exact ⟨_, rfl⟩

/-- Simple content brings a text, from the end of the chain or from where it is cut. -/
theorem OnlySimple.text {depth : Nat} {k : Stacks} {parent name : String} {t : ComplexType}
    (h : r.OnlySimple (name, t)) (hwhole : (script r package depth k (.content parent t)).whole) :
    ∃ type, .text type ∈ (script r package depth k (.content parent t)).contents := by
  induction depth generalizing k parent name t with
  | zero => exact absurd hwhole id
  | succ depth ih =>
      obtain ⟨hcomplex, hsimple⟩ := h (name, t) .refl
      obtain ⟨δ, hδ⟩ := Option.isSome_iff_exists.mp hsimple
      obtain ⟨rest, hrest⟩ := @contentScript_simple r package (script r package depth) k parent t δ
        hcomplex hδ
      rw [script, stepScript, hrest, Script.contents_append]
      have hleft {p : Script} (hp : ∃ type, .text type ∈ p.contents) :
          ∃ type, .text type ∈ p.contents ++ rest.contents :=
        hp.imp fun _ htext => List.mem_append_left _ htext
      refine hleft ?_
      split
      · next declared b hbase =>
          split
          · next hkind =>
              unfold inlineScript
              dsimp only
              split
              · exact ⟨_, List.mem_cons_self⟩
              · next hopen =>
                  have hextends : r.Extends (name, t) (declared, b) :=
                    ⟨δ, List.mem_append_right _ (Option.mem_toList.mpr hδ), hkind, hbase⟩
                  have hsub : Subtask r k (.content parent t) _ _ :=
                    .base (List.mem_append_right _ (Option.mem_toList.mpr hδ)) hkind hbase
                      (by simpa using hopen)
                  exact ih (h.base hextends) (hsub.contains.whole hwhole)
          · exact ⟨_, List.mem_cons_self⟩
      · exact textScript_text parent δ.base

end Emission

namespace Document

variable {d : Document} {package : String}

/-! ## The text of a record -/

/-- A record keeps one of the texts that its script has. -/
theorem recordFields_texts (d : Document) (package name : String) (t : ComplexType) :
    (d.recordFields package name t).contents.filter (·.isText) =
      ((script (.ofDocument d) (some package) d.expansionBound (Stacks.inRecord {} name)
        (.content name t)).contents.filter (·.isText)).take 1 :=
  Script.fields_texts (script_textsApart ..) (Nat.zero_le 1)

theorem recordFields_text {x : String × ComplexType} (h : (Resolver.ofDocument d).OnlySimple x)
    (hx : ∃ home, x.2.places home ⊆ d.places) :
    ∃ type, (d.recordFields package (Naming.typeName x.1) x.2).contents.filter (·.isText) =
      [.text type] := by
  have hwhole := standsIn_whole package (Stacks.inRecord {} (Naming.typeName x.1))
    (show (Task.content (Naming.typeName x.1) x.2).StandsIn d from hx)
  obtain ⟨type, htext⟩ := OnlySimple.text h hwhole
  have hmem := List.mem_filter.mpr ⟨htext, (rfl : Code.Content.isText (.text type) = true)⟩
  rw [recordFields_texts]
  obtain ⟨first, others, hfirst⟩ := List.exists_cons_of_ne_nil (List.ne_nil_of_mem hmem)
  have htext := (List.mem_filter.mp (hfirst ▸ List.mem_cons_self : first ∈ _)).2
  cases first with
  | text type => exact ⟨type, by rw [hfirst]; rfl⟩
  | elements | element | attr | wildcard => cases htext

/-- The last type in a chain has a text of the type of its base. -/
theorem recordFields_lastText {y : String × ComplexType} {δ : Derivation} {base : String}
    (hcomplex : y.2.complexContent = none) (hδ : y.2.simpleContent = some δ)
    (hbase : δ.base = some base)
    (hrecord : ((Resolver.ofDocument d).resolveType (some package) base).isRecord = false)
    (hown : ∀ kind, (Resolver.ofDocument d).resolveType (some package) base ≠
      .own (Naming.typeName y.1) kind) :
    (d.recordFields package (Naming.typeName y.1) y.2).contents.filter (·.isText) =
      [.text ((Resolver.ofDocument d).resolveType (some package) base)] := by
  have hnone : δ.base.bind (Resolver.ofDocument d).baseType? = none := by
    rw [hbase, Option.bind_some, Option.eq_none_iff_forall_ne_some]
    intro found hfound
    rw [(Resolver.baseType?_resolveType (some package) hfound).1] at hrecord
    cases hrecord
  have htext := (textScript_some (.ofDocument d) (some package) (Naming.typeName y.1)
    base).resolve_right
    fun h => h.2.elim (fun ⟨kind, hkind⟩ => hown kind hkind) (by simp [hrecord])
  obtain ⟨depth, hdepth⟩ := expansionBound_succ d
  obtain ⟨rest, hrest⟩ := @contentScript_simple (.ofDocument d) (some package)
    (script (.ofDocument d) (some package) depth) (Stacks.inRecord {} (Naming.typeName y.1))
    (Naming.typeName y.1) y.2 δ hcomplex hδ
  rw [recordFields_texts, hdepth, script, stepScript, hrest, hnone]
  dsimp only
  rw [hbase, htext]
  rfl

/-- **Simple content has one text.**  A complex type with simple content, in a chain of bases with
simple content, becomes a record with exactly one field for text, also where the chain goes round in
circles.  If no type in the chain has the name of one above it, and the last one has for its base a
type that is no record and is not the type itself, then the text has that type. -/
theorem simpleContent_text {d : Document} {package : String} {schema : Schema} {t : ComplexType}
    {name : String} (hschema : schema ∈ d.schemasIn package) (ht : t ∈ schema.complexTypes)
    (hname : t.name = some name) (hsimple : (Resolver.ofDocument d).OnlySimple (name, t))
    {s : Emission} (hidle : s.Idle package)
    (hfree : ¬s.context.isEmitted (Naming.typeName name)) :
    let r := Resolver.ofDocument d
    ∃ fields : Fields,
      ((globalComplexType (expand r d.expansionBound) t).run s).1 =
        some (record (Naming.typeName name) name t.documentation fields) ∧
      (fields.fields.filter (·.content.isText)).length = 1 ∧
      ∀ y δ base, Relation.ReflTransGen r.Extends (name, t) y → r.DistinctNames (name, t) →
        y.2.simpleContent = some δ → δ.base = some base →
        (r.resolveType (some package) base).isRecord = false →
        (∀ kind, r.resolveType (some package) base ≠ .own (Naming.typeName y.1) kind) →
        ∀ f ∈ fields.fields, f.content.isText →
          f.content.type = r.resolveType (some package) base := by
  intro r
  have hplaces : ∃ home, t.places home ⊆ d.places :=
    ⟨_, places_complexType (d.schemasIn_subset package hschema) ht hname⟩
  obtain ⟨type, htype⟩ := @recordFields_text d package _ hsimple hplaces
  refine ⟨_, globalComplexType_eq hidle hname hfree, ?_, ?_⟩
  · have hlength := congrArg List.length htype
    rwa [Fields.contents, List.filter_map, List.length_map] at hlength
  · intro y δ base hchain hdistinct hδ hbase hrecord hown f hf htext
    have hlast := recordFields_lastText (hsimple y hchain).1 hδ hbase hrecord hown
    have hfront : (d.recordFields package (Naming.typeName y.1) y.2).contents <+:
        (d.recordFields package (Naming.typeName name) t).contents := by
      obtain rfl | hfirst :=
        Relation.reflTransGen_iff_eq_or_transGen.mp (hsimple.extendsFirst hchain)
      · exact List.prefix_rfl
      · have hfields := recordFields_prefix package hfirst hplaces hdistinct
        exact hfields.map _
    have hsame := hfront.filter (·.isText)
    rw [hlast, htype] at hsame
    have hfound : f.content ∈ [Code.Content.text type] :=
      htype ▸ List.mem_filter.mpr ⟨List.mem_map_of_mem hf, htext⟩
    rw [List.mem_singleton.mp hfound, ← (List.cons_prefix_cons.mp hsame).1]
    rfl

def amountType : ComplexType where
  name := some "Amount"
  simpleContent := some { kind := .extension, base := some "decimal" }

/-- A type that would have a second text, from being mixed. -/
def priceType : ComplexType where
  name := some "Price"
  mixed := true
  simpleContent := some { kind := .extension, base := some "t:amount" }

def priced : Document where
  kind := .xsd
  location := none
  rootPackage := basePackage
  definitions := {
    schemas := [{ identifier := basePackage, complexTypes := [priceType, amountType] }] }
  registry := {}

theorem priced_extends {b : String × ComplexType}
    (h : (Resolver.ofDocument priced).Extends ("Price", priceType) b) :
    b = ("Amount", amountType) := by
  obtain ⟨δ, hδ, -, hb⟩ := h
  cases List.mem_singleton.mp hδ
  exact (Option.some.inj hb).symm

theorem amount_last (b : String × ComplexType) :
    ¬(Resolver.ofDocument priced).Extends ("Amount", amountType) b := by
  rintro ⟨δ, hδ, -, hb⟩
  cases List.mem_singleton.mp hδ
  cases hb

theorem priced_chain {y : String × ComplexType}
    (h : Relation.ReflTransGen (Resolver.ofDocument priced).Extends ("Price", priceType) y) :
    y = ("Price", priceType) ∨ y = ("Amount", amountType) := by
  obtain rfl | ⟨b, hb, h⟩ := h.cases_head
  · exact .inl rfl
  · cases priced_extends hb
    obtain rfl | ⟨b, hb, -⟩ := h.cases_head
    · exact .inr rfl
    · exact absurd hb (amount_last b)

theorem simpleContent_text_priced :
    let start : Emission := { context := { package := some basePackage } }
    ∃ fields : Fields,
      ((globalComplexType (expand (.ofDocument priced) priced.expansionBound) priceType).run
          start).1 =
        some (record (Naming.typeName "Price") "Price" none fields) ∧
      (fields.fields.filter (·.content.isText)).length = 1 ∧
      ∀ f ∈ fields.fields, f.content.isText →
        f.content.type = (Resolver.ofDocument priced).resolveType (some basePackage) "decimal" := by
  intro start
  have hsimple : (Resolver.ofDocument priced).OnlySimple ("Price", priceType) := by
    intro y hy
    obtain rfl | rfl := priced_chain hy <;> exact ⟨rfl, rfl⟩
  have hdistinct : (Resolver.ofDocument priced).DistinctNames ("Price", priceType) := by
    intro y b hy hb
    obtain ⟨c, hc, hb⟩ := Relation.TransGen.head'_iff.mp hb
    obtain rfl | rfl := priced_chain hy
    · cases priced_extends hc
      obtain rfl | ⟨further, hfurther, -⟩ := hb.cases_head
      · decide +kernel
      · exact absurd hfurther (amount_last further)
    · exact absurd hc (amount_last c)
  have hchain : Relation.ReflTransGen (Resolver.ofDocument priced).Extends ("Price", priceType)
      ("Amount", amountType) :=
    .single ⟨_, List.mem_cons_self, rfl, rfl⟩
  obtain ⟨fields, hrun, hone, hlast⟩ :=
    simpleContent_text (d := priced) (t := priceType) (s := start)
    List.mem_cons_self List.mem_cons_self rfl hsimple (idle_start basePackage) nofun
  exact ⟨fields, hrun, hone,
    hlast _ _ "decimal" hchain hdistinct rfl rfl rfl fun kind h => by cases h⟩

end Document

end SoapBindings
