/-
# `SoapBindings.Proofs.WellNamed` — when generated code can be written

Code can be written if its names are identifiers.  Where the letters of all names in a document can
stand in identifiers, this only depends on constants: a constant is named after its type, and where
that begins with a digit nothing is put before it, as types, fields, methods and modules have it.
The clients have no constants, so it is never they who cannot be written.
-/
import SoapBindings.Proofs.Emission.Depth
import SoapBindings.Proofs.Emission.Spelled
import SoapBindings.Proofs.Generation

namespace SoapBindings

open Xsd Wsdl

/-! ## Clients -/

namespace Emission

theorem methodNames_isIdentifier {operations : List Operation}
    (h : ∀ o ∈ operations, Naming.isSpellable o.name) :
    ∀ ident ∈ methodNames operations, Naming.isIdentifier ident := by
  have hstart : ∀ ident ∈ ["new"], Naming.isIdentifier ident := by decide
  have hall := List.foldlRecOn (motive := fun used : List String =>
    ∀ ident ∈ used, Naming.isIdentifier ident) operations
    (fun used o => used ++ [Naming.unique used (Naming.fieldName o.name)]) hstart
    fun used hused o ho => by
      refine List.forall_mem_append.mpr ⟨hused, List.forall_mem_singleton.mpr ?_⟩
      exact (Naming.isIdentifier_unique ..).trans (Naming.isIdentifier_fieldName (h o ho))
  exact fun ident hident => hall ident (List.mem_of_mem_tail hident)

section Clients

variable {d : Document} (hd : AllSpellable d.names)

include hd

theorem request_spelled {part : Wsdl.Part} (hpart : AllSpellable part.names)
    (targetNamespace : String) : (part.request (.ofDocument d) targetNamespace).type.Spelled := by
  have hnames := allSpellable_map.mp hpart
  unfold Wsdl.Part.request
  cases helement : part.element with
  | some element =>
      exact Resolver.resolveElement_spelled hd (hnames element (by simp [helement]))
  | none =>
      cases htype : part.type with
      | some type => exact Resolver.resolveType_spelled hd (hnames type (by simp [htype]))
      | none => trivial

/-- The part that stands for a message is one of the document. -/
theorem spellable_firstPart {message : String} {part : Wsdl.Part}
    (hpart : d.definitions.firstPart? message = some part) : AllSpellable part.names := by
  obtain ⟨found, hfound, hhead⟩ := Option.bind_eq_some_iff.mp hpart
  simp only [Document.names, allSpellable_cons, allSpellable_append, allSpellable_flatMap] at hd
  exact hd.2.2 found (List.mem_of_find?_eq_some hfound) part (List.mem_of_mem_head? hhead)

/-- Requests and answers are spelled. -/
theorem method_spelled (portType ident : String) (o : Operation) :
    ∀ t ∈ (d.definitions.method (.ofDocument d) portType ident o).types, t.Spelled := by
  have hrequest {message : Option String} {request : Code.Request}
      (h : d.definitions.request? (.ofDocument d) message = some request) :
      request.type.Spelled := by
    obtain ⟨part, hpart, rfl⟩ := Option.map_eq_some_iff.mp h
    obtain ⟨name, -, hpart⟩ := Option.bind_eq_some_iff.mp hpart
    exact request_spelled hd (spellable_firstPart hd hpart) _
  intro t ht
  obtain ht | ht := List.mem_append.mp ht
  · obtain ⟨request, hinput, rfl⟩ := List.mem_map.mp ht
    exact hrequest (Option.mem_toList.mp hinput)
  · obtain ⟨request, houtput, rfl⟩ := Option.map_eq_some_iff.mp (Option.mem_toList.mp ht)
    exact hrequest houtput

theorem client_spelled {p : PortType} (hp : p ∈ d.definitions.portTypes) :
    (∀ name ∈ (d.definitions.client (.ofDocument d) p).identifiers, Naming.isIdentifier name) ∧
      ∀ t ∈ (d.definitions.client (.ofDocument d) p).types, t.Spelled := by
  have hnames := hd
  simp only [Document.names, allSpellable_cons, allSpellable_append, allSpellable_flatMap] at hnames
  obtain ⟨hname, hoperations⟩ := allSpellable_cons.mp (hnames.2.1.2 p hp)
  have hidents := methodNames_isIdentifier (allSpellable_map.mp hoperations)
  have htypes : ∀ t ∈ (d.definitions.client (.ofDocument d) p).types, t.Spelled := by
    intro t ht
    obtain ⟨m, hm, ht⟩ := List.mem_flatMap.mp ht
    obtain ⟨item, -, rfl⟩ := List.mem_map.mp hm
    exact method_spelled hd p.name item.1 item.2 t ht
  refine ⟨List.forall_mem_cons.mpr ⟨?_, List.forall_mem_flatMap.mpr fun m hm => ?_⟩, htypes⟩
  · exact Naming.isIdentifier_typeIdentifier (Naming.typeName_spelling hname)
  · refine List.forall_mem_cons.mpr ⟨?_, List.forall_mem_flatMap.mpr fun t ht =>
      (htypes t (List.mem_flatMap.mpr ⟨m, hm, ht⟩)).identifiers⟩
    obtain ⟨item, hitem, rfl⟩ := List.mem_map.mp hm
    exact hidents item.1 (List.of_mem_zip hitem).1

end Clients

end Emission

namespace Document

open Emission

/-! ## Modules -/

section Modules

variable {d : Document} (h : AllSpellable d.names)

include h

theorem emitPackage_spelled (package : String) :
    (d.emitPackage (.ofDocument d) package).Spelled := by
  have hscript : (d.packageScript (.ofDocument d) package).Spelled :=
    Script.Spelled.piecewise.each _ (q := fun _ => .done) fun schema hschema =>
      schemaScript_spelled h (fun k _ htask => script_spelled h (some package) _ k htask)
        (d.schemasIn_subset package hschema)
  rw [emitPackage_eq]
  exact hscript.emit ⟨nofun, nofun⟩

/-- A module of types can be written unless one has constants and a name
that begins with a digit. -/
theorem typesModule_isWellNamed (package : String) :
    (d.typesModule package (d.emitPackage (.ofDocument d) package)).isWellNamed ↔
      ∀ a, .synonym a ∈ d.declarations package → a.constants ≠ [] →
        Naming.beginsWithDigit a.name = false := by
  obtain ⟨hdeclared, himports⟩ := emitPackage_spelled h package
  have hidentifiers : (d.typesModule package (d.emitPackage (.ofDocument d) package)).identifiers =
      (d.emitPackage (.ofDocument d) package).context.imports.map Naming.moduleName ++
        (d.declarations package).flatMap (·.identifiers) := rfl
  have hheader : ((d.emitPackage (.ofDocument d) package).context.imports.map
      Naming.moduleName).all Naming.isIdentifier :=
    List.all_eq_true.mpr (List.forall_mem_map.mpr fun other hother =>
      Naming.isIdentifier_moduleName (himports other hother))
  rw [Code.SourceModule.isWellNamed, hidentifiers, List.all_append, hheader, Bool.true_and,
    List.all_flatMap, List.all_eq_true]
  constructor
  · intro hall a ha
    exact (hdeclared _ ha).identifiers.mp (hall _ ha) a rfl
  · intro hdigits declaration hmem
    refine (hdeclared _ hmem).identifiers.mpr fun a ha => ?_
    rw [ha] at hmem
    exact hdigits a hmem

/-- The module of the clients can be written. -/
theorem operationsModule_isWellNamed {operations : String} {m : Code.SourceModule}
    (hm : d.operationsModule (.ofDocument d) operations = some m) : m.isWellNamed := by
  have himports := (operationsModule_references hm).2
  obtain ⟨hbody, -, -⟩ := operationsModule_some hm
  have hclients : ∀ c ∈ d.definitions.portTypes.map (d.definitions.client (.ofDocument d)),
      (∀ name ∈ c.identifiers, Naming.isIdentifier name) ∧ ∀ t ∈ c.types, t.Spelled :=
    List.forall_mem_map.mpr fun p hp => client_spelled h hp
  unfold Code.SourceModule.isWellNamed Code.SourceModule.identifiers
  rw [hbody] at himports ⊢
  refine List.all_eq_true.mpr (List.forall_mem_append.mpr ⟨?_, ?_⟩)
  · refine List.forall_mem_map.mpr fun package hpackage => ?_
    obtain ⟨name, kind, ht⟩ := (himports package).mp hpackage
    obtain ⟨c, hc, ht⟩ := List.mem_flatMap.mp ht
    exact Naming.isIdentifier_moduleName ((hclients c hc).2 _ ht).1
  · exact List.forall_mem_flatMap.mpr fun c hc => (hclients c hc).1

end Modules

/-- Types are looked at before clients, and no expansion goes too deep. -/
theorem generate_eq (d : Document) (operations : String) :
    d.generate operations =
      if d.packages.all fun package =>
          (d.typesModule package (d.emitPackage (.ofDocument d) package)).isWellNamed then
        if (d.operationsModule (.ofDocument d) operations).toList.all (·.isWellNamed) then
          .ok {
            types := d.packages.map fun package =>
              d.typesModule package (d.emitPackage (.ofDocument d) package)
            operations := d.operationsModule (.ofDocument d) operations }
        else .error (.invalidName .operations)
      else .error (.invalidName .types) := by
  have hany : (d.packages.map fun package => (package, d.emitPackage (.ofDocument d) package)).any
      (·.2.exhausted) = false := by
    simp [emitPackage_exhausted]
  unfold generate
  simp only [hany, Bool.false_eq_true, if_false, List.map_map, List.all_map, Function.comp_def]
  cases d.packages.all fun package =>
      (d.typesModule package (d.emitPackage (.ofDocument d) package)).isWellNamed with
  | false => rfl
  | true =>
      cases (d.operationsModule (.ofDocument d) operations).toList.all (·.isWellNamed) with
      | false => rfl
      | true => rfl

/-- **Code is generated unless a type with constants begins with a digit.**  Where the letters of
all names in a document can stand in identifiers, its code can be written exactly if no package
declares a synonym that has constants and a name that begins with a digit; and if not, then it is
its types that cannot be written. -/
theorem generates_iff (d : Document) (operations : String) (h : AllSpellable d.names) :
    ((∃ g, d.generate operations = .ok g) ↔
      ∀ package ∈ d.packages, ∀ a, .synonym a ∈ d.declarations package → a.constants ≠ [] →
        Naming.beginsWithDigit a.name = false) ∧
    ∀ e, d.generate operations = .error e → e = .invalidName .types := by
  have hclients : (d.operationsModule (.ofDocument d) operations).toList.all (·.isWellNamed) :=
    List.all_eq_true.mpr fun m hm => operationsModule_isWellNamed h (Option.mem_toList.mp hm)
  have htypes : (d.packages.all fun package =>
      (d.typesModule package (d.emitPackage (.ofDocument d) package)).isWellNamed) ↔
      ∀ package ∈ d.packages, ∀ a, .synonym a ∈ d.declarations package → a.constants ≠ [] →
        Naming.beginsWithDigit a.name = false := by
    rw [List.all_eq_true]
    exact forall₂_congr fun package _ => typesModule_isWellNamed h package
  rw [generate_eq, if_pos hclients, ← htypes]
  split
  · next hall => exact ⟨iff_of_true ⟨_, rfl⟩ hall, nofun⟩
  · next hall =>
      refine ⟨iff_of_false (fun ⟨g, hg⟩ => by cases hg) hall, fun e he => ?_⟩
      cases he
      rfl

/-- A schema with a simple type that enumerates values. -/
def enumeratingSource (name : String) (values : List String) : Source :=
  .text ("<schema><simpleType name='".toList ++ name.toList ++
    "'><restriction base='string'>".toList ++
    values.flatMap (fun value => "<enumeration value='".toList ++ value.toList ++ "'/>".toList) ++
    "</restriction></simpleType></schema>".toList)

/-- The schema, loaded where nothing else is found. -/
def enumeratingLoad (name : String) (values : List String) : Except LoadError (Document × Unit) :=
  (loadSource (fun _ => throw .unreachable) 0 (enumeratingSource name values) none .xsd :
    Loader Unit Document).run ()

/-- No declaration of the document has a name that begins with a digit. -/
def BeginsWithLetters (d : Document) : Prop :=
  ∀ package ∈ d.packages, ∀ declaration ∈ d.declarations package,
    Naming.beginsWithDigit declaration.name = false

instance (d : Document) : Decidable d.BeginsWithLetters :=
  inferInstanceAs (Decidable (∀ package ∈ d.packages, _))

theorem generates_iff_sizes :
    ∃ loaded g, enumeratingLoad "size" ["1", "XL"] = .ok (loaded, ()) ∧
      AllSpellable loaded.names ∧ loaded.generate "operations" = .ok g := by
  have hanswer : (enumeratingLoad "size" ["1", "XL"]).toOption.any fun result =>
      decide ((∀ name ∈ result.1.names, name.toList.all (·.toNat < 128)) ∧
        result.1.BeginsWithLetters) := by
    decide +kernel
  cases hload : enumeratingLoad "size" ["1", "XL"] with
  | error e =>
      rw [hload] at hanswer
      cases hanswer
  | ok result =>
      rw [hload] at hanswer
      obtain ⟨hascii, hletters⟩ := of_decide_eq_true hanswer
      have hspellable : AllSpellable result.1.names := fun name hname =>
        Naming.isSpellable_of_ascii fun c hc =>
          of_decide_eq_true (List.all_eq_true.mp (hascii name hname) c hc)
      obtain ⟨g, hg⟩ := (generates_iff result.1 "operations" hspellable).1.mpr
        fun package hpackage a ha _ => hletters package hpackage (.synonym a) ha
      exact ⟨result.1, g, rfl, hspellable, hg⟩

/-- A type of one value that begins with a digit cannot be written. -/
theorem generate_digit :
    ∃ loaded, enumeratingLoad "1st" ["A"] = .ok (loaded, ()) ∧
      ∀ g, loaded.generate "operations" ≠ .ok g := by
  have hanswer : (enumeratingLoad "1st" ["A"]).toOption.any fun result =>
      !result.1.generates "operations" := by
    decide +kernel
  cases hload : enumeratingLoad "1st" ["A"] with
  | error e =>
      rw [hload] at hanswer
      cases hanswer
  | ok result =>
      rw [hload] at hanswer
      have hfails : (!result.1.generates "operations") = true := hanswer
      refine ⟨result.1, rfl, fun g hg => ?_⟩
      rw [generates, hg] at hfails
      cases hfails

end Document

end SoapBindings
