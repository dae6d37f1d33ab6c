/-
# `SoapBindings.Proofs.Emission.Members` — members of records and clients have names of their own

Whatever a record takes over from bases, groups and attribute groups is added to the one list of its
fields, and every field gets a name that the others before it do not have.  So the names differ, and
nothing has to be known of where a field comes from.  Of texts the list keeps one.

The methods of a client are named in one scope in which the name of the constructor is taken.
-/
import SoapBindings.Proofs.Emission.Requests
import SoapBindings.Proofs.Emission.SimpleContent
import SoapBindings.Proofs.Naming.Scope

namespace SoapBindings

open Xsd

namespace Emission

/-! ## Fields -/

/-- What the fields so far are called. -/
def Fields.idents (fs : Fields) : List String := fs.fields.map (·.ident)

theorem Fields.add_idents (fs : Fields) (name : String) (documentation : Option String)
    (content : Code.Content) : (fs.add name documentation content).idents =
      fs.idents ++ [Naming.unique fs.idents (Naming.fieldName name)] := List.map_append

/-- A further field has a name of its own. -/
theorem Fields.add_nodup {fs : Fields} (h : fs.idents.Nodup) (name : String)
    (documentation : Option String) (content : Code.Content) :
    (fs.add name documentation content).idents.Nodup := by
  rw [add_idents]
  refine h.append (List.nodup_singleton _) fun ident hold hnew => ?_
  rw [List.mem_singleton.mp hnew] at hold
  exact Naming.unique_fresh _ _ hold

theorem Fields.addText_nodup {fs : Fields} (h : fs.idents.Nodup) (type : TypeRef) :
    (fs.addText type).idents.Nodup := by
  unfold Fields.addText
  split
  · exact h
  · exact add_nodup h ..

/-- However much is added, the fields have names of their own. -/
theorem Script.fields_nodup (p : Script) {fs : Fields} (h : fs.idents.Nodup) :
    (p.fields fs).idents.Nodup := by
  induction p generalizing fs with
  | done => exact h
  | skip rest ih | refer _ rest ih | synonym _ rest ih | record _ _ _ _ rest _ ih | cut rest ih =>
      exact ih h
  | field name documentation content rest ih => exact ih (Fields.add_nodup h ..)
  | text type rest ih => exact ih (Fields.addText_nodup h type)

/-! ## Methods -/

/-- The methods get their names in a scope where the constructor has its own. -/
theorem methodNames_eq (operations : List Wsdl.Operation) :
    methodNames operations =
      Naming.uniqueNames ["new"] (operations.map fun o => Naming.fieldName o.name) := by
  rw [methodNames, Naming.foldl_unique]
  rfl

end Emission

namespace Wsdl.Definitions

variable (d : Definitions) (r : Resolver) (p : PortType)

theorem client_idents :
    (d.client r p).methods.map (·.ident) = Emission.methodNames p.operations := by
  have hidents : (d.client r p).methods.map (·.ident) =
      ((Emission.methodNames p.operations).zip p.operations).map (·.1) := List.map_map
  rw [hidents]
  exact List.map_fst_zip (Emission.methodNames_length p.operations).le

/-- The method is that of the operation, under a form of the operation's name. -/
def Carries (o : Operation) (m : Code.Method) : Prop :=
  m = d.method r p.name m.ident o ∧ Naming.IsFormOf (Naming.fieldName o.name) m.ident

/-- Every operation has one method, in order. -/
theorem client_carries : List.Forall₂ (d.Carries r p) p.operations (d.client r p).methods := by
  have hforms := Naming.uniqueNames_forms ["new"]
    (p.operations.map fun o => Naming.fieldName o.name)
  rw [← Emission.methodNames_eq, List.forall₂_map_left_iff] at hforms
  refine List.forall₂_map_right_iff.mpr ?_
  -- The names and the operations are gone through side by side.
  have hlength := Emission.methodNames_length p.operations
  generalize Emission.methodNames p.operations = names at hforms hlength ⊢
  generalize p.operations = operations at hforms hlength ⊢
  induction hforms with
  | nil => exact .nil
  | cons hform _ ih => exact .cons ⟨rfl, hform⟩ (ih (by simpa using hlength))

end Wsdl.Definitions

namespace Document

open Emission

variable {d : Document} {package : String}

/-- The fields of a record have names of their own, and one of them at most is a text. -/
theorem record_members {record : Code.Record} (h : .record record ∈ d.declarations package) :
    (record.fields.map (·.ident)).Nodup ∧
      (record.fields.filter (·.content.isText)).length ≤ 1 := by
  obtain ⟨found, -, hfields⟩ := declaration_asked h
  have hmembers : ∀ fs : Fields, fs.idents.Nodup →
      (fs.contents.filter (·.isText)).length ≤ 1 → some fs.fields = some record.fields →
      (record.fields.map (·.ident)).Nodup ∧
        (record.fields.filter (·.content.isText)).length ≤ 1 := by
    rintro fs hnodup htexts heq
    rw [← Option.some.inj heq]
    exact ⟨hnodup, by simpa [Fields.contents, List.filter_map, Function.comp_def] using htexts⟩
  cases found with
  | skip | synonym a => cases hfields
  | plain documentation text =>
      refine hmembers ((text.map (Fields.addText {})).getD {}) ?_ ?_ hfields
      · cases text with
        | none => exact List.nodup_nil
        | some type =>
            have hnone : ({} : Fields).idents.Nodup := List.nodup_nil
            exact Fields.addText_nodup hnone type
      · cases text with
        | none => exact Nat.zero_le 1
        | some type => exact Nat.le_refl 1
  | record documentation k task =>
      refine hmembers (d.expansion package k task) ?_ ?_ hfields
      · rw [expansion_eq]
        exact Script.fields_nodup _ List.nodup_nil
      · have hnone : (({} : Fields).contents.filter (·.isText)).length ≤ 1 := Nat.zero_le 1
        rw [expansion_eq, Script.fields_texts (script_textsApart ..) hnone]
        exact List.length_take_le 1 _

/-- **Unique names are unique.**  The search for a name that is free ends with the first one of the
name itself and its numbered forms.  Names that are handed out one after another are such forms,
they differ, and none was taken before.  Hence the fields of every record have names of their own,
and at most one of them holds its text; and every operation of a port type has one method in its
client, in order, under a name of its own that is not the constructor's. -/
theorem members_unique :
    (∀ (used : List String) (base : String), ∃ n ≤ used.length,
      Naming.unique used base = Naming.attempt base n ∧ Naming.attempt base n ∉ used ∧
        ∀ i < n, Naming.attempt base i ∈ used) ∧
    (∀ taken bases : List String,
      List.Forall₂ Naming.IsFormOf bases (Naming.uniqueNames taken bases) ∧
        (Naming.uniqueNames taken bases).Nodup ∧
        ∀ name ∈ Naming.uniqueNames taken bases, name ∉ taken) ∧
    (∀ (d : Document) (package : String) (record : Code.Record),
      .record record ∈ d.declarations package →
        (record.fields.map (·.ident)).Nodup ∧
          (record.fields.filter (·.content.isText)).length ≤ 1) ∧
    ∀ (d : Document) (operations : String) (m : Code.SourceModule),
      d.operationsModule (.ofDocument d) operations = some m →
        ∃ clients, m.body = .clients clients ∧
          List.Forall₂ (fun (p : Wsdl.PortType) (c : Code.Client) =>
            (c.methods.map (·.ident)).Nodup ∧ "new" ∉ c.methods.map (·.ident) ∧
              List.Forall₂ (d.definitions.Carries (.ofDocument d) p) p.operations c.methods)
            d.definitions.portTypes clients := by
  refine ⟨Naming.unique_attempt, fun taken bases =>
    ⟨Naming.uniqueNames_forms taken bases, Naming.uniqueNames_nodup taken bases⟩,
    fun d package record h => record_members h, fun d operations m h => ?_⟩
  refine ⟨_, (operationsModule_some h).1, List.forall₂_map_right_iff.mpr ?_⟩
  refine List.forall₂_same.mpr fun p _ => ?_
  obtain ⟨hnodup, hfree⟩ := Naming.uniqueNames_nodup ["new"]
    (p.operations.map fun o => Naming.fieldName o.name)
  rw [Wsdl.Definitions.client_idents, methodNames_eq]
  exact ⟨hnodup, fun hmem => hfree _ hmem List.mem_cons_self,
    Wsdl.Definitions.client_carries ..⟩

/-- A mixed type with two elements and an attribute whose names come to the same. -/
def rowType : ComplexType where
  name := some "Row"
  mixed := true
  sequence := [
    { name := some "a", type := some "string" },
    { name := some "A", type := some "int" }]
  attributes := [{ name := some "a", type := some "int" }]

/-- A service with that type.  One of its operations is named as the constructor is, and the others
are named as each other. -/
def crowded : Document where
  kind := .wsdl
  location := none
  rootPackage := basePackage
  definitions := {
    schemas := [{ identifier := basePackage, complexTypes := [rowType] }]
    portTypes := [{
      name := "Rows"
      operations := [{ name := "New" }, { name := "put" }, { name := "Put" }] }] }
  registry := {}

theorem members_unique_crowded :
    (∃ record : Code.Record, .record record ∈ crowded.declarations basePackage ∧
      record.fields.map (·.ident) = ["a", "a2", "a3", "value"] ∧
      (record.fields.map (·.ident)).Nodup) ∧
    ∃ m client, crowded.operationsModule (.ofDocument crowded) "operations" = some m ∧
      m.body = .clients [client] ∧ client.methods.map (·.ident) = ["new2", "put", "put2"] ∧
      (client.methods.map (·.ident)).Nodup := by
  have hdeclaration : ∃ declaration ∈ crowded.declarations basePackage,
      declaration.fields?.map (·.map (·.ident)) = some ["a", "a2", "a3", "value"] := by
    decide +kernel
  obtain ⟨-, -, hrecord, hclients⟩ := members_unique
  refine ⟨?_, ?_⟩
  · obtain ⟨declaration, hmem, hidents⟩ := hdeclaration
    cases declaration with
    | synonym a => cases hidents
    | record record =>
        exact ⟨record, hmem, Option.some.inj hidents, (hrecord _ _ _ hmem).1⟩
  · obtain ⟨clients, hbody, hmethods⟩ := hclients crowded "operations" _ rfl
    obtain ⟨client, others, hmembers, hothers, rfl⟩ := List.forall₂_cons_left_iff.mp hmethods
    obtain rfl := List.forall₂_nil_left_iff.mp hothers
    refine ⟨_, client, rfl, hbody, ?_, hmembers.1⟩
    have hclient := (List.cons_eq_cons.mp (Code.Body.clients.inj hbody)).1
    rw [← hclient]
    decide +kernel

end Document

end SoapBindings
