/-
# `SoapBindings.Proofs.Modules` — when modules have names of their own

Every package has one module, and packages differ.  The modules do so as well as far as their
packages differ in words: a module is named by the words of its package in small letters, so
`OrderTypes` and `order_types` become modules of one name, which is also that of their files.  The
clients are a module like any other here, as their package is named by the caller.
-/
import SoapBindings.Command.Run
import SoapBindings.Proofs.Document.Closure
import SoapBindings.Proofs.Generation
import SoapBindings.Proofs.Naming.Words

namespace SoapBindings

open Xsd

/-! ## Packages -/

theorem Registry.insert_nodup {r : Registry} (h : r.identifiers.Nodup) (s : Schema) :
    (r.insert s).identifiers.Nodup := by
  by_cases hknown : s.identifier ∈ r.identifiers
  · rwa [Registry.insert, if_pos (Registry.contains_iff.mpr hknown)]
  · rw [Registry.identifiers, Registry.insert_schemas hknown, List.map_append]
    refine List.Nodup.append h (List.nodup_singleton _) fun identifier hold hadded => ?_
    obtain rfl : identifier = s.identifier := List.mem_singleton.mp hadded
    exact hknown hold

theorem Registry.foldl_insert_nodup {r : Registry} (h : r.identifiers.Nodup)
    (schemas : List Schema) : (schemas.foldl Registry.insert r).identifiers.Nodup := by
  induction schemas generalizing r with
  | nil => exact h
  | cons s schemas ih => exact ih (insert_nodup h s)

namespace Document

variable {σ : Type} {fetch : Url → Loader σ Source}

/-- What was discovered is in one schema to a package. -/
abbrev Discovery.Distinct (found : Discovery) : Prop := found.registry.identifiers.Nodup

theorem followReference_distinct {maxDepth : Nat}
    {deeper : Option (List String → Option Url → String → Discovery → Loader σ Discovery)}
    (hdeeper : ∀ f, deeper = some f → ∀ locations base referrer found, found.Distinct →
      Gives (f locations base referrer found) Discovery.Distinct)
    {base : Option Url} {referrer : String} {found : Discovery} (h : found.Distinct)
    (location : String) :
    Gives (followReference fetch maxDepth deeper base referrer found location)
      Discovery.Distinct := by
  unfold followReference
  dsimp only
  split
  · exact .pure h
  · cases deeper with
    | none => exact .throw
    | some f =>
        refine (Gives.any _).bind fun url _ => (Gives.any _).bind fun schema _ => ?_
        exact hdeeper f rfl _ _ _ _ (Registry.insert_nodup h schema)

theorem followReferences_distinct {maxDepth levels : Nat} {locations : List String}
    {base : Option Url} {referrer : String} {found : Discovery} (h : found.Distinct) :
    Gives (followReferences fetch maxDepth levels locations base referrer found)
      Discovery.Distinct := by
  induction levels generalizing locations base referrer found with
  | zero =>
      unfold followReferences
      refine Gives.foldlM (fun found location hfound => ?_) h
      exact followReference_distinct (fun f hf => by cases hf) hfound location
  | succ levels ih =>
      unfold followReferences
      refine Gives.foldlM (fun found location hfound => ?_) h
      exact followReference_distinct (fun f hf _ _ _ _ hd => by cases hf; exact ih hd) hfound
        location

/-- A registry that was loaded has one schema to a package. -/
theorem loadSource_distinct (maxDepth : Nat) (source : Source) (base : Option Url)
    (kind : DocumentKind) :
    Gives (loadSource fetch maxDepth source base kind) fun d => d.registry.identifiers.Nodup := by
  unfold loadSource
  refine (Gives.any _).bind fun root _ => (Gives.any _).bind fun merged _ => ?_
  refine Gives.bind (P := Discovery.Distinct) ?_ fun found hfound => .pure hfound
  exact Gives.foldlM (fun _ _ hfound => followReferences_distinct hfound) List.nodup_nil

theorem packages_nodup {d : Document} (h : d.registry.identifiers.Nodup) : d.packages.Nodup :=
  List.nodup_cons.mpr ⟨by simp, h.filter _⟩

end Document

/-! ## Files -/

/-- Files in a folder have one path only if they have one name. -/
theorem Command.join_injective (folder : String) : Function.Injective (Command.join folder) := by
  intro a b h
  unfold Command.join at h
  split at h
  · exact (String.append_right_inj _).mp h
  · exact (String.append_right_inj _).mp h

namespace Document

/-! ## Modules -/

/-- The packages of the modules of a document, the clients last if there are any. -/
def modulePackages (d : Document) (operations : String) : List String :=
  d.packages ++ if d.kind = .xsd ∨ d.definitions.portTypes = [] then [] else [operations]

section Modules

variable {d : Document} {operations : String} {g : Generated}

theorem operations_package :
    (d.operationsModule (.ofDocument d) operations).toList.map (·.package) =
      if d.kind = .xsd ∨ d.definitions.portTypes = [] then [] else [operations] := by
  unfold operationsModule
  by_cases h : d.kind = .xsd ∨ d.definitions.portTypes = []
  · simp [h]
  · rw [if_neg h, if_neg (by simpa using h)]
    rfl

theorem modules_packages (h : d.generate operations = .ok g) :
    g.modules.map (·.package) = d.modulePackages operations := by
  rw [Generated.modules, List.map_append, types_packages h, (generate_ok h).2, operations_package]
  rfl

end Modules

/-- Of two names for everything in a list, one tells as many things apart as the other. -/
theorem nodup_map_iff {α β γ : Type} {f : α → β} {g : α → γ} (h : ∀ a b, f a = f b ↔ g a = g b)
    (items : List α) : (items.map f).Nodup ↔ (items.map g).Nodup := by
  simp only [List.Nodup, List.pairwise_map, ne_eq, h]

/-- **Modules are distinct exactly as far as their packages differ in words.**  However a document
was loaded and whatever schemas were added to it, if code is generated then its modules are those of
its packages, which differ, and that of the clients if there are any.  They have names of their own,
and in any folder files of their own, if and only if no two of these packages have the same words;
it is enough for that if no two have the same letters, be they small or capital. -/
theorem modules_distinct {σ : Type} (fetch : Url → Loader σ Source) (maxDepth : Nat)
    (source : Source) (base : Option Url) (kind : DocumentKind) (extra : List Schema)
    (operations : String) {world world' : σ} {loaded : Document} {g : Generated}
    (hload : (loadSource fetch maxDepth source base kind).run world = .ok (loaded, world'))
    (hgenerate : (loaded.withSchemas extra).generate operations = .ok g) :
    let d := loaded.withSchemas extra
    (d.packages.Nodup ∧ g.modules.map (·.package) = d.modulePackages operations) ∧
    ((g.modules.map (·.ident)).Nodup ↔
      ((d.modulePackages operations).map Naming.moduleWords).Nodup) ∧
    (∀ folder, (g.modules.map fun m => Command.join folder (m.ident ++ ".rs")).Nodup ↔
      (g.modules.map (·.ident)).Nodup) ∧
    (((d.modulePackages operations).map Naming.moduleLetters).Nodup →
      (g.modules.map (·.ident)).Nodup) := by
  have hpackages := modules_packages hgenerate
  have hregistry : (loaded.withSchemas extra).registry.identifiers.Nodup :=
    Registry.foldl_insert_nodup (loadSource_distinct maxDepth source base kind world loaded world'
      hload) extra
  have hwords : (g.modules.map (·.ident)).Nodup ↔
      (((loaded.withSchemas extra).modulePackages operations).map Naming.moduleWords).Nodup := by
    rw [← hpackages, List.map_map]
    exact nodup_map_iff (fun a b => Naming.moduleName_eq_iff) g.modules
  refine ⟨⟨packages_nodup hregistry, hpackages⟩, hwords, fun folder => ?_, fun hletters => ?_⟩
  · refine nodup_map_iff (fun a b => ?_) g.modules
    rw [(Command.join_injective folder).eq_iff, String.append_left_inj]
  · refine hwords.mpr (List.Nodup.of_map Naming.letters ?_)
    rw [List.map_map]
    exact List.map_congr_left (fun package _ => Naming.letters_moduleWords package) ▸ hletters

/-- A site with a schema of some name. -/
def siteWith (name : String) : Url → Loader Unit Source := fun url =>
  if url = pageUrl [name] then pure loneSource else throw .unreachable

/-- A schema that includes another one of the site. -/
def includingLoad (root included : String) : Except LoadError (Document × Unit) :=
  (loadSource (siteWith included) 1 (includingSource [included]) (some (pageUrl [root]))
    .xsd).run ()

/-- The modules of a document that is loaded and generated, by package and name. -/
def modulesOf (load : Except LoadError (Document × Unit)) : Option (List (String × String)) :=
  load.toOption.bind fun result =>
    (result.1.generate "operations").toOption.map fun g =>
      g.modules.map fun m => (m.package, m.ident)

theorem eq_ok_of_toOption {ε α : Type} {x : Except ε α} {a : α} (h : x.toOption = some a) :
    x = .ok a := by
  cases x with
  | error e => cases h
  | ok b => exact congrArg Except.ok (Option.some.inj h)

theorem exists_of_modulesOf {load : Except LoadError (Document × Unit)}
    {modules : List (String × String)} (h : modulesOf load = some modules) :
    ∃ d g, load = .ok (d, ()) ∧ d.generate "operations" = .ok g ∧
      g.modules.map (fun m => (m.package, m.ident)) = modules := by
  obtain ⟨result, hload, h⟩ := Option.bind_eq_some_iff.mp h
  obtain ⟨g, hg, h⟩ := Option.map_eq_some_iff.mp h
  exact ⟨result.1, g, eq_ok_of_toOption hload, eq_ok_of_toOption hg, h⟩

theorem modules_distinct_pair :
    ∃ loaded g, includingLoad "Orders.xsd" "OrderTypes.xsd" = .ok (loaded, ()) ∧
      (loaded.withSchemas []).generate "operations" = .ok g ∧
      loaded.modulePackages "operations" = ["Orders", "OrderTypes"] ∧
      (g.modules.map (·.ident)).Nodup := by
  have hmodules : modulesOf (includingLoad "Orders.xsd" "OrderTypes.xsd") =
      some [("Orders", "orders"), ("OrderTypes", "order_types")] := by
    decide +kernel
  obtain ⟨d, g, hload, hg, hmodules⟩ := exists_of_modulesOf hmodules
  have hpackages : g.modules.map (·.package) = ["Orders", "OrderTypes"] := by
    simpa [Function.comp_def] using congrArg (List.map Prod.fst) hmodules
  obtain ⟨⟨-, hall⟩, hiff, -⟩ := modules_distinct _ _ _ _ _ [] _ hload hg
  have hall : d.modulePackages "operations" = ["Orders", "OrderTypes"] := hall.symm.trans hpackages
  refine ⟨d, g, hload, hg, hall, hiff.mpr ?_⟩
  show ((d.modulePackages "operations").map Naming.moduleWords).Nodup
  rw [hall]
  decide

/-- Packages that only differ in case and underscores meet in one module. -/
theorem modules_meet :
    ∃ loaded g, includingLoad "OrderTypes.xsd" "order_types.xsd" = .ok (loaded, ()) ∧
      loaded.generate "operations" = .ok g ∧
      g.modules.map (·.package) = ["OrderTypes", "order_types"] ∧
      ¬ (g.modules.map (·.ident)).Nodup := by
  have hmodules : modulesOf (includingLoad "OrderTypes.xsd" "order_types.xsd") =
      some [("OrderTypes", "order_types"), ("order_types", "order_types")] := by
    decide +kernel
  obtain ⟨d, g, hload, hg, hmodules⟩ := exists_of_modulesOf hmodules
  have hpackages : g.modules.map (·.package) = ["OrderTypes", "order_types"] := by
    simpa [Function.comp_def] using congrArg (List.map Prod.fst) hmodules
  have hidents : g.modules.map (·.ident) = ["order_types", "order_types"] := by
    simpa [Function.comp_def] using congrArg (List.map Prod.snd) hmodules
  refine ⟨d, g, hload, hg, hpackages, ?_⟩
  rw [hidents]
  decide

end Document

end SoapBindings
