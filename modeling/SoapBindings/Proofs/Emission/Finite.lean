/-
# `SoapBindings.Proofs.Emission.Finite` — types that hold themselves

A value of a synonym is a value of its target, and a value of a record holds those of its fields,
except where they are in a list or behind a pointer.  A type that holds itself in the end has no
finite values.

A field holds a record behind a pointer so that this does not happen.  But it is the definition
found by its name that tells whether a field refers to a record, and not the declaration that its
type leads to.  So a record can hold itself all the same: through a synonym of a record, or through
a name that a simple type and a record both ask for.  Beside synonyms of each other there is no
other way (`types_finite_iff`).
-/
import Mathlib.Logic.Relation
import SoapBindings.Proofs.Emission.Origins

namespace SoapBindings

open Xsd

/-- Where a type is declared that is referred to in a package: the package and the name. -/
def TypeRef.place? (package : String) : TypeRef → Option (String × String)
  | builtin _ => none
  | own name _ => some (package, name)
  | foreign other name _ => some (other, name)

/-- The types whose values are part of every value of the declared type that has them. -/
def Code.Declaration.held : Code.Declaration → List TypeRef
  | synonym a => [a.target]
  | record r => (r.fields.filter (·.content.byValue)).map (·.content.type)

namespace Document

open Emission Resolver

section Graph

variable (d : Document)

/-- The generated code of the document declares a type at a place. -/
def Declared (x : String × String) (declaration : Code.Declaration) : Prop :=
  x.1 ∈ d.packages ∧ declaration ∈ d.declarations x.1 ∧ declaration.name = x.2

/-- The type at one place holds values of the type at the other one. -/
def Holds (x y : String × String) : Prop :=
  ∃ declaration, d.Declared x declaration ∧ ∃ t ∈ declaration.held, t.place? x.1 = some y

/-- No type holds itself in the end. -/
def TypesFinite : Prop := ∀ x, ¬ Relation.TransGen d.Holds x x

/-- The type at one place is a synonym for the type at the other one. -/
def Renames (x y : String × String) : Prop :=
  ∃ a, d.Declared x (.synonym a) ∧ a.target.place? x.1 = some y

/-- A record is held as a simple type would be: by a synonym for it, or under a name that a simple
type asked for. -/
def Mistakes (x y : String × String) : Prop :=
  d.Holds x y ∧ (∃ r, d.Declared y (.record r)) ∧
    (d.Renames x y ∨ ∃ a, d.Asks y.1 y.2 (.synonym a))

end Graph

end Document

/-! ## What fields hold -/

namespace Emission

/-- What the fields of the record at hand hold. -/
def Script.contents : Script → List Code.Content
  | done => []
  | skip rest | refer _ rest | synonym _ rest | record _ _ _ _ rest | cut rest => rest.contents
  | field _ _ content rest => content :: rest.contents
  | text type rest => .text type :: rest.contents

def Node.contents : Node → List Code.Content
  | synonym _ => []
  | record _ _ _ inner => inner.contents

theorem Script.contents_append (p q : Script) : (p ++ q).contents = p.contents ++ q.contents := by
  induction p with
  | done => rfl
  | _ => simp_all [contents]

/-- A field holds what the script says, or was there before. -/
theorem Script.mem_contents {p : Script} {fs : Fields} {f : Code.Field}
    (h : f ∈ (p.fields fs).fields) : f ∈ fs.fields ∨ f.content ∈ p.contents := by
  induction p generalizing fs with
  | done => exact .inl h
  | field name documentation content rest ih =>
      rcases ih h with h | h
      · rcases List.mem_append.mp h with h | h
        · exact .inl h
        · rw [List.mem_singleton.mp h]
          exact .inr List.mem_cons_self
      · exact .inr (List.mem_cons_of_mem _ h)
  | text type rest ih =>
      rcases ih h with h | h
      · unfold Fields.addText at h
        split at h
        · exact .inl h
        · rcases List.mem_append.mp h with h | h
          · exact .inl h
          · rw [List.mem_singleton.mp h]
            exact .inr List.mem_cons_self
      · exact .inr (List.mem_cons_of_mem _ h)
  | skip rest ih | refer _ rest ih | synonym _ rest ih | record _ _ _ _ rest _ ih | cut rest ih =>
      exact ih h

end Emission

namespace Document

open Emission Resolver

variable {d : Document} {package : String}

/-! ## What every field holds -/

/-- Whatever the records in a script hold has a property. -/
structure AllHeld (Q : Code.Content → Prop) (p : Script) : Prop where
  contents : ∀ content ∈ p.contents, Q content
  nodes : ∀ node ∈ p.nodes, ∀ content ∈ node.contents, Q content

/-- A property that contents have wherever a field comes from. -/
structure Everywhere (d : Document) (package : String) (Q : Code.Content → Prop) : Prop where
  wildcard : Q .wildcard
  plain : Q (.text plainText)
  /-- The text of a type that restricts another one. -/
  restricted : ∀ base, ((ofDocument d).resolveType (some package) base).isRecord = false →
    Q (.text ((ofDocument d).resolveType (some package) base))
  /-- A type that is known by a name. -/
  named : ∀ content, Named (ofDocument d) (some package) content.type → content.isText = false →
    Q content
  /-- An anonymous type. -/
  refers : ∀ content inner found, content.type = .own inner (some (Draft.kind found)) →
    content.isText = false → d.Asks package inner found → Q content
  /-- The text of a record that is nothing but text. -/
  text : ∀ name documentation t, d.Asks package name (.plain documentation (some t)) → Q (.text t)

namespace AllHeld

variable {Q : Code.Content → Prop}

theorem append {p q : Script} (hp : AllHeld Q p) (hq : AllHeld Q q) : AllHeld Q (p ++ q) := by
  constructor
  · intro content hcontent
    rw [Script.contents_append] at hcontent
    exact (List.mem_append.mp hcontent).elim (hp.contents content) (hq.contents content)
  · intro node hnode
    rw [Script.nodes_append] at hnode
    exact (List.mem_append.mp hnode).elim (hp.nodes node) (hq.nodes node)

theorem field {name : String} {documentation : Option String} {content : Code.Content}
    (h : Q content) : AllHeld Q (.field name documentation content .done) := by
  refine ⟨fun other hother => ?_, nofun⟩
  rw [List.mem_singleton.mp hother]
  exact h

theorem text {t : TypeRef} (h : Q (.text t)) : AllHeld Q (.text t .done) := by
  refine ⟨fun other hother => ?_, nofun⟩
  rw [List.mem_singleton.mp hother]
  exact h

theorem record {name xmlName : String} {documentation : Option String} {inner : Script}
    (h : AllHeld Q inner) : AllHeld Q (.record name xmlName documentation inner .done) := by
  refine ⟨nofun, fun node hnode => ?_⟩
  rcases List.mem_cons.mp hnode with rfl | hnode
  · exact h.contents
  · rcases List.mem_append.mp hnode with hnode | hnode
    · exact h.nodes node hnode
    · cases hnode

end AllHeld

namespace Everywhere

variable {Q : Code.Content → Prop} (h : Everywhere d package Q)

include h

/-- The text of simple content has a type that is no record. -/
theorem textScript (parent : String) (base : Option String) :
    AllHeld Q (Emission.textScript (.ofDocument d) (some package) parent base) := by
  have hrefer {t : TypeRef} : AllHeld Q (.refer t (.text plainText .done)) :=
    ⟨(AllHeld.text h.plain).contents, nofun⟩
  cases base with
  | none => exact .text h.plain
  | some base =>
      cases hrecord : ((ofDocument d).resolveType (some package) base).isRecord with
      | true =>
          unfold Emission.textScript
          simp only [hrecord, Bool.or_true, if_true]
          exact hrefer
      | false =>
          rcases textScript_some (ofDocument d) (some package) parent base with htext | ⟨htext, -⟩
          · exact htext ▸ .text (h.restricted base hrecord)
          · exact htext ▸ hrefer

theorem inherited : Inherited d package (AllHeld Q) where
  piecewise := ⟨⟨nofun, nofun⟩, .append, .field h.wildcard, .text h.plain⟩
  skip := ⟨nofun, nofun⟩
  cut := ⟨nofun, nofun⟩
  text := h.textScript
  named hnamed hcontent := .field (h.named _ hnamed hcontent)
  refers htype hcontent hasks := .field (h.refers _ _ _ htype hcontent hasks)
  synonym _ := ⟨nofun, fun node hnode => by
    rw [List.mem_singleton.mp hnode]
    exact nofun⟩
  plain {name xmlName documentation text} hasks := by
    cases text with
    | none => exact .record ⟨nofun, nofun⟩
    | some t => exact .record (.text (h.text _ _ t hasks))
  record _ _ hinner := .record hinner

/-- All fields that are declared have the property. -/
theorem field {r : Code.Record} (hr : .record r ∈ d.declarations package) {f : Code.Field}
    (hf : f ∈ r.fields) : Q f.content := by
  obtain ⟨node, hnode, hdeclaration, -⟩ := d.emitPackage_fromNodes package _ hr
  cases node with
  | synonym a => cases hdeclaration
  | record name xmlName documentation inner =>
      cases hdeclaration
      have hall := h.inherited.packageScript.nodes _ hnode
      exact hall _ ((Script.mem_contents hf).resolve_left List.not_mem_nil)

end Everywhere

/-! ## What is held by value -/

/-- The type is a scalar, or a simple type asked for its name. -/
structure Simple (d : Document) (package : String) (t : TypeRef) : Prop where
  not_record : t.isRecord = false
  asked : ∀ y, t.place? package = some y → ∃ a, d.Asks y.1 y.2 (.synonym a)

theorem plainText_simple : Simple d package plainText := ⟨rfl, nofun⟩

/-- A resolved type that is no record is a simple type of the document. -/
theorem leads_simple {t : TypeRef} (h : Leads d (some package) t) (ht : t.isRecord = false) :
    Simple d package t := by
  refine ⟨ht, fun y hy => ?_⟩
  cases h with
  | builtin scalar => cases hy
  | unknown bare => cases ht
  | @symbol s hs _ =>
      have hplace : (reference (some package) s).place? package =
          some (s.package, Naming.typeName s.name) := by
        unfold reference
        dsimp only
        split
        · next hhere => rw [Option.some.inj hhere]; rfl
        · rfl
      have hkind : s.definition.kind = .simpleType :=
        (TypeRef.isRecord_eq_false (reference_kind? _ s)).mp ht
      obtain rfl := Option.some.inj (hplace.symm.trans hy)
      obtain ⟨schema, hschema, hpackage, hdeclares⟩ := declares_of_mem hs
      have hmem : schema ∈ d.schemasIn s.package :=
        List.mem_filter.mpr ⟨hschema, by simp [hpackage]⟩
      cases hdefinition : s.definition with
      | simpleType t =>
          rw [hdefinition] at hdeclares
          exact ⟨_, .definition hmem hdeclares nofun⟩
      | complexType t | element e | attributeGroup g => simp [hdefinition, Definition.kind] at hkind

/-- What a content holds by value is simple. -/
def SimplyHeld (d : Document) (package : String) (content : Code.Content) : Prop :=
  content.byValue = true → Simple d package content.type

/-- Only a text is held by value whatever its type is. -/
theorem not_record_of_byValue {content : Code.Content} (h : content.byValue = true)
    (hcontent : content.isText = false) : content.type.isRecord = false := by
  cases content with
  | elements name type => cases h
  | element name type | attr name type => exact (Bool.not_eq_true' _).mp h
  | text type => cases hcontent
  | wildcard => rfl

/-- The text of a record that is nothing but text has a simple type. -/
theorem Asks.plain_simple {name : String} {documentation : Option String} {t : TypeRef}
    (h : d.Asks package name (.plain documentation (some t))) : Simple d package t := by
  generalize hfound : Draft.plain documentation (some t) = found at h
  cases h with
  | @definition schema xmlName definition hschema hdeclares hdraft =>
      cases definition with
      | simpleType _ | complexType _ | attributeGroup _ => cases hfound
      | element e =>
          simp only [draft, elementDraft] at hfound
          split at hfound
          · next type _ =>
              unfold typedDraft at hfound
              dsimp only at hfound
              split at hfound
              · cases hfound
              · split at hfound
                · next hrecord =>
                    cases hfound
                    exact leads_simple (resolve_leads type) ((Bool.not_eq_true' _).mp hrecord)
                · split at hfound
                  · split at hfound <;> cases hfound
                  · cases hfound
          · cases hfound
          · cases hfound
          · cases hfound
  | anonymous _ _ hanonymous =>
      subst hfound
      cases hanonymous

theorem simplyHeld_everywhere (d : Document) (package : String) :
    Everywhere d package (SimplyHeld d package) where
  wildcard _ := plainText_simple
  plain _ := plainText_simple
  restricted base hrecord _ := leads_simple (resolveType_leads base) hrecord
  named content hnamed hcontent hvalue :=
    leads_simple hnamed.leads (not_record_of_byValue hvalue hcontent)
  refers content inner found htype hcontent hasks hvalue := by
    have hrecord := not_record_of_byValue hvalue hcontent
    rw [htype] at hrecord ⊢
    cases found with
    | skip | plain _ _ | record _ _ _ => cases hrecord
    | synonym a =>
        refine ⟨hrecord, fun y hy => ?_⟩
        cases hy
        exact ⟨a, hasks⟩
  text _ _ _ hasks _ := hasks.plain_simple

/-- **What a record holds itself is simple**: scalars, and what has names that simple types asked
for. -/
theorem record_holds {r : Code.Record} (h : .record r ∈ d.declarations package) {f : Code.Field}
    (hf : f ∈ r.fields) (hvalue : f.content.byValue = true) : Simple d package f.content.type :=
  (simplyHeld_everywhere d package).field h hf hvalue

/-! ## Types that hold themselves -/

/-- An edge to a record is a mistake. -/
theorem Holds.mistakes {x y : String × String} (h : d.Holds x y)
    (hrecord : ∃ r, d.Declared y (.record r)) : d.Mistakes x y := by
  refine ⟨h, hrecord, ?_⟩
  obtain ⟨declaration, hdeclared, t, ht, hplace⟩ := h
  cases declaration with
  | synonym a =>
      rw [List.mem_singleton.mp ht] at hplace
      exact .inl ⟨a, hdeclared, hplace⟩
  | record r =>
      obtain ⟨f, hf, rfl⟩ := List.mem_map.mp ht
      obtain ⟨hf, hvalue⟩ := List.mem_filter.mp hf
      exact .inr ((record_holds hdeclared.2.1 hf hvalue).asked y hplace)

theorem Renames.holds {x y : String × String} (h : d.Renames x y) : d.Holds x y := by
  obtain ⟨a, hdeclared, hplace⟩ := h
  exact ⟨_, hdeclared, a.target, List.mem_cons_self, hplace⟩

/-- What holds something and is no record is a synonym for it. -/
theorem Holds.renames {x y : String × String} (h : d.Holds x y)
    (hrecord : ¬∃ r, d.Declared x (.record r)) : d.Renames x y := by
  obtain ⟨declaration, hdeclared, t, ht, hplace⟩ := h
  cases declaration with
  | synonym a =>
      rw [List.mem_singleton.mp ht] at hplace
      exact ⟨a, hdeclared, hplace⟩
  | record r => exact absurd ⟨r, hdeclared⟩ hrecord

/-- **Types are finite**, except where one is reached from itself along synonyms alone, or by way of
a record that is held as a simple type would be.  A record holds no other record itself. -/
theorem types_finite_iff (d : Document) :
    (∀ x r f, d.Declared x (.record r) → f ∈ r.fields → f.content.byValue = true →
      f.content.type.isRecord = false ∧
        ∀ y, f.content.type.place? x.1 = some y → ∃ a, d.Asks y.1 y.2 (.synonym a)) ∧
    (d.TypesFinite ↔ (∀ x, ¬ Relation.TransGen d.Renames x x) ∧
      ∀ x y, d.Mistakes x y → ¬ Relation.ReflTransGen d.Holds y x) := by
  refine ⟨fun x r f hdeclared hf hvalue => ?_,
    fun hfinite => ⟨fun x hx => ?_, fun x y h hback => ?_⟩,
    ?_⟩
  · have hsimple := record_holds hdeclared.2.1 hf hvalue
    exact ⟨hsimple.not_record, hsimple.asked⟩
  · exact hfinite x (hx.lift id fun _ _ => Renames.holds)
  · exact hfinite x (.head' h.1 hback)
  · rintro ⟨hchain, hmistake⟩ x hx
    -- a record on the way from `x` to itself would be held by mistake
    have hsynonym : ∀ y, Relation.ReflTransGen d.Holds x y → Relation.ReflTransGen d.Holds y x →
        ¬∃ r, d.Declared y (.record r) := by
      intro y hto hback hrecord
      have hcircle : Relation.TransGen d.Holds y y := .trans_right hback (hx.trans_left hto)
      obtain ⟨w, hw, hedge⟩ := Relation.TransGen.tail'_iff.mp hcircle
      exact hmistake w y (hedge.mistakes hrecord) hw
    have hwalk : ∀ y, Relation.TransGen d.Holds x y → Relation.ReflTransGen d.Holds y x →
        Relation.TransGen d.Renames x y := by
      intro y hto
      induction hto with
      | single hedge =>
          exact fun hback => .single (hedge.renames (hsynonym _ .refl hx.to_reflTransGen))
      | tail hto hedge ih =>
          intro hback
          have hback' := Relation.ReflTransGen.head hedge hback
          exact (ih hback').tail (hedge.renames (hsynonym _ hto.to_reflTransGen hback'))
    exact hchain x (hwalk x hx .refl)

/-- A simple type restricts one named as a complex type is that has a value of the former.  The two
of one name stand in different namespaces. -/
def circularTypes : Document where
  kind := .xsd
  location := none
  rootPackage := "orders"
  definitions := {
    schemas := [{
      identifier := "orders"
      simpleTypes := [{ name := some "Code", restriction := some { base := some "b:Order" } }]
      complexTypes := [
        { name := some "Order", attributes := [{ name := some "code", type := some "Code" }] }] }] }
  registry := {
    schemas := [{
      identifier := "base"
      simpleTypes := [{ name := some "Order", restriction := some { base := some "string" } }] }] }

/-- A record can hold itself through a synonym. -/
theorem types_infinite :
    circularTypes.Holds ("orders", "Order") ("orders", "Code") ∧
      circularTypes.Renames ("orders", "Code") ("orders", "Order") ∧
      ¬ circularTypes.TypesFinite := by
  have hpackage : "orders" ∈ circularTypes.packages := by decide
  have horder : ∃ declaration ∈ circularTypes.declarations "orders", declaration.name = "Order" ∧
      ∃ t ∈ declaration.held, t.place? "orders" = some ("orders", "Code") := by
    decide +kernel
  have hcode : ∃ declaration ∈ circularTypes.declarations "orders", declaration.name = "Code" ∧
      declaration.fields?.isNone ∧
      ∃ t ∈ declaration.held, t.place? "orders" = some ("orders", "Order") := by
    decide +kernel
  have hholds : circularTypes.Holds ("orders", "Order") ("orders", "Code") := by
    obtain ⟨declaration, hdeclaration, hname, hheld⟩ := horder
    exact ⟨declaration, ⟨hpackage, hdeclaration, hname⟩, hheld⟩
  have hrenames : circularTypes.Renames ("orders", "Code") ("orders", "Order") := by
    obtain ⟨declaration, hdeclaration, hname, hsynonym, t, ht, hplace⟩ := hcode
    cases declaration with
    | record r => cases hsynonym
    | synonym a =>
        rw [List.mem_singleton.mp ht] at hplace
        exact ⟨a, ⟨hpackage, hdeclaration, hname⟩, hplace⟩
  exact ⟨hholds, hrenames, fun hfinite => hfinite _ (.tail (.single hholds) hrenames.holds)⟩

end Document

end SoapBindings
