/-
# `SoapBindings.Proofs.Lookup` — groups that are found

A group is looked up by the key of a reference: its local name in small letters.  What is found is
the first group of the document that is declared under a name with this key.  Groups of elements and
attribute groups have tables of their own, so a search in one never meets a definition of another
kind.

A group has references again, and these may go round in circles.  So the tree of references is cut
where a key is met on the path that leads to it.  What is left is finite: a path only has keys that
something is found under, and no key twice.
-/
import Mathlib.Data.List.Basic
import SoapBindings.Proofs.Emission.Depth

namespace SoapBindings

open Xsd Emission

/-- The key of a reference. -/
def referenceKey (reference : String) : String := Text.lowercaseText (Naming.localName reference)

/-- The first definition that is declared under the local name of a reference, in whatever case. -/
def firstFound {α : Type} (name : α → Option String) (items : List α) (reference : String) :
    Option α :=
  items.find? fun a => (name a).any fun declared => sameKey declared (Naming.localName reference)

/-- The keys of the definitions that have a name. -/
def keysOf {α : Type} (name : α → Option String) (items : List α) : List String :=
  items.filterMap fun a => (name a).map Text.lowercaseText

section Found

variable {α β : Type} {name : α → Option String}

theorem keysOf_length (items : List α) : (keysOf name items).length ≤ items.length :=
  List.length_filterMap_le _ _

theorem firstFound_named {items : List α} {reference : String} {a : α}
    (h : firstFound name items reference = some a) :
    ∃ declared, name a = some declared ∧ Text.lowercaseText declared = referenceKey reference := by
  have ha := List.find?_some h
  obtain ⟨declared, hdeclared, hkey⟩ := (Option.any_eq_true _ _).mp ha
  exact ⟨declared, hdeclared, beq_iff_eq.mp hkey⟩

/-- What is found has the key that it is found by. -/
theorem firstFound_key {items : List α} {reference : String} {a : α}
    (h : firstFound name items reference = some a) :
    referenceKey reference ∈ keysOf name items := by
  obtain ⟨declared, hdeclared, hkey⟩ := firstFound_named h
  exact List.mem_filterMap.mpr ⟨a, List.mem_of_find?_eq_some h, by rw [hdeclared, ← hkey]; rfl⟩

/-- The key is all that matters of a reference. -/
theorem firstFound_congr (items : List α) {reference other : String}
    (h : referenceKey reference = referenceKey other) :
    firstFound name items reference = firstFound name items other := by
  unfold firstFound sameKey
  unfold referenceKey at h
  rw [h]

/-- Two references find the same definition exactly if they have the same key. -/
theorem firstFound_same {items : List α} {reference other : String} {a : α}
    (h : firstFound name items reference = some a) :
    firstFound name items other = some a ↔ referenceKey other = referenceKey reference := by
  refine ⟨fun hother => ?_, fun hkey => (firstFound_congr items hkey).trans h⟩
  obtain ⟨declared, hdeclared, hkey⟩ := firstFound_named h
  obtain ⟨declared', hdeclared', hkey'⟩ := firstFound_named hother
  rw [hdeclared] at hdeclared'
  cases hdeclared'
  exact hkey'.symm.trans hkey

/-- A search among entries that were made of definitions is a search among these. -/
theorem find?_entries {γ : Type} (entry : γ → String → α → β) (definition : β → Option α)
    (hentry : ∀ c declared a, definition (entry c declared a) = some a) (sources : List γ)
    (inside : γ → List α) (reference : String) :
    ((sources.flatMap fun c => (inside c).filterMap fun a =>
          (name a).map fun declared => (declared, entry c declared a)).find?
        fun item => sameKey item.1 (Naming.localName reference)).bind (definition ·.2) =
      firstFound name (sources.flatMap inside) reference := by
  unfold firstFound
  induction sources with
  | nil => rfl
  | cons c sources ih =>
      let isFound (a : α) : Bool :=
        (name a).any fun declared => sameKey declared (Naming.localName reference)
      have hkeys : (fun a => ((name a).map fun declared => (declared, entry c declared a)).any
          fun item => sameKey item.1 (Naming.localName reference)) = isFound := by
        funext a
        cases hname : name a <;> simp [isFound, hname]
      rw [List.flatMap_cons, List.flatMap_cons, List.find?_append, List.find?_append,
        List.find?_filterMap, hkeys]
      cases hfound : (inside c).find? isFound with
      | none => exact ih
      | some a =>
          have ha : isFound a := List.find?_some hfound
          cases hname : name a with
          | none => simp [isFound, hname] at ha
          | some declared => simp [hname, hentry]

end Found

/-! ## Trees of references -/

section Tree

variable {α : Type} (name : α → Option String) (items : List α) (inside : α → List String)

/-- What references lead to, each definition with its key and before what it refers to.  References
by a key on the path that leads to them are left out, and so are those that find nothing. -/
def foundAlong (path references : List String) : List (String × α) :=
  references.flatMap fun reference =>
    if _ : referenceKey reference ∈ path then []
    else match _ : firstFound name items reference with
      | none => []
      | some a =>
        (referenceKey reference, a) :: foundAlong (referenceKey reference :: path) (inside a)
termination_by room (keysOf name items) path
decreasing_by exact room_lt (firstFound_key ‹_›) ‹_›

variable {name items inside} {path references : List String}

theorem foundAlong_flatMap {β : Type} (f : String × α → List β) :
    (foundAlong name items inside path references).flatMap f = references.flatMap fun reference =>
      if referenceKey reference ∈ path then []
      else (firstFound name items reference).elim [] fun a => f (referenceKey reference, a) ++
        (foundAlong name items inside (referenceKey reference :: path) (inside a)).flatMap f := by
  rw [foundAlong, List.flatMap_assoc]
  refine List.flatMap_congr fun reference _ => ?_
  split
  · rfl
  · cases firstFound name items reference with
    | none => rfl
    | some a => exact List.flatMap_cons

/-- Nothing on the path is met again. -/
theorem foundAlong_outside {entry : String × α}
    (h : entry ∈ foundAlong name items inside path references) : entry.1 ∉ path := by
  induction path, references using foundAlong.induct name items inside with
  | case1 path references ih =>
      rw [foundAlong] at h
      obtain ⟨reference, -, h⟩ := List.mem_flatMap.mp h
      split at h
      · cases h
      · next hopen =>
          split at h
          · cases h
          · next a hfound =>
              obtain rfl | h := List.mem_cons.mp h
              · exact hopen
              · exact fun hmem => ih reference hopen a hfound h (List.mem_cons_of_mem _ hmem)

end Tree

/-! ## The groups of a document -/

namespace Document

/-- The attribute groups of a document, schema by schema. -/
def attributeGroups (d : Document) : List AttributeGroup := d.schemas.flatMap (·.attributeGroups)

/-- The groups of elements of a document, schema by schema. -/
def groups (d : Document) : List Group := d.schemas.flatMap (·.groups)

end Document

namespace SymbolTable

theorem named_eq_nil {α : Type} {kinds : SymbolKind → Bool} {items : List α}
    {symbol : α → Option Symbol}
    (h : ∀ item ∈ items, ∀ s, symbol item = some s → kinds s.definition.kind = false) :
    named kinds (items.filterMap symbol) = [] := by
  simp only [named, List.map_eq_nil_iff, List.filter_eq_nil_iff, List.mem_filterMap]
  rintro s ⟨item, hitem, hs⟩
  simp [h item hitem s hs]

/-- The attribute groups among the definitions of a schema. -/
theorem named_attributeGroups (schema : Schema) :
    named (· = .attributeGroup) schema.symbols =
      schema.attributeGroups.filterMap fun g => g.name.map fun name =>
        (name, ⟨name, schema.identifier, schema.targetNamespace, .attributeGroup g⟩) := by
  unfold Schema.symbols
  simp only [named_append]
  rw [named_eq_nil, named_eq_nil, named_eq_nil]
  · simp only [named, List.nil_append, List.filter_filterMap, List.map_filterMap]
    congr 1
    funext g
    cases g.name <;> rfl
  all_goals
    intro item _ s hs
    obtain ⟨name, -, rfl⟩ := Option.map_eq_some_iff.mp hs
    rfl

theorem named_flatMap {α : Type} (kinds : SymbolKind → Bool) (items : List α)
    (symbols : α → List Symbol) :
    named kinds (items.flatMap symbols) = items.flatMap fun item => named kinds (symbols item) := by
  induction items with
  | nil => rfl
  | cons item items ih => rw [List.flatMap_cons, named_append, ih, List.flatMap_cons]

end SymbolTable

/-- The attribute group that a symbol stands for. -/
def Symbol.attributeGroup? (s : Symbol) : Option AttributeGroup :=
  match s.definition with
  | .attributeGroup g => some g
  | _ => none

namespace Resolver

/-- Among attribute groups the first one with the key is found. -/
theorem attributeGroup?_first (d : Document) (reference : String) :
    (ofDocument d).attributeGroup? reference =
      firstFound AttributeGroup.name d.attributeGroups reference := by
  have hlists : (ofDocument d).symbols.attributeGroups.find? (Naming.localName reference) = _ :=
    (SymbolTable.ofDocument_lists d).attributeGroups (Naming.localName reference)
  have hbind : (ofDocument d).attributeGroup? reference =
      ((ofDocument d).symbols.attributeGroups.find? (Naming.localName reference)).bind
        Symbol.attributeGroup? := by
    unfold attributeGroup?
    cases (ofDocument d).symbols.attributeGroups.find? (Naming.localName reference) <;> rfl
  rw [hbind, hlists, Document.symbols, SymbolTable.named_flatMap]
  simp only [SymbolTable.named_attributeGroups, Option.bind_map]
  exact find?_entries (fun schema declared g =>
      ⟨declared, Schema.identifier schema, schema.targetNamespace, .attributeGroup g⟩)
    Symbol.attributeGroup? (fun _ _ _ => rfl) d.schemas (·.attributeGroups) reference

/-- Among groups of elements the first one with the key is found. -/
theorem group?_first (d : Document) (reference : String) :
    (ofDocument d).group? reference = firstFound Group.name d.groups reference := by
  have hlists : (ofDocument d).symbols.groups.find? (Naming.localName reference) = _ :=
    SymbolTable.ofDocument_groups d (Naming.localName reference)
  have hentries : _ = firstFound Group.name d.groups reference :=
    find?_entries (fun schema _ g => (Schema.identifier schema, g)) (fun entry => some entry.2)
      (fun _ _ _ => rfl) d.schemas (·.groups) reference
  unfold group?
  rw [hlists, Option.map_map]
  exact (Option.map_eq_bind ..).trans hentries

end Resolver

/-- Every attribute group weighs something. -/
theorem Document.attributeGroups_length (d : Document) : d.attributeGroups.length ≤ d.weight := by
  unfold attributeGroups weight
  rw [length_flatMap]
  refine total_le_total fun schema _ => ?_
  have hgroups : schema.attributeGroups.length ≤ total (schema.attributeGroups.map (·.weight)) := by
    induction schema.attributeGroups with
    | nil => exact Nat.le_refl 0
    | cons g groups ih =>
        simp only [List.length_cons, List.map_cons, total, List.foldr_cons,
          AttributeGroup.weight] at ih ⊢
        omega
  rw [Schema.weight]
  omega

end SoapBindings
