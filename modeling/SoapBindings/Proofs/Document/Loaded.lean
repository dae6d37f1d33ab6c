/-
# `SoapBindings.Proofs.Document.Loaded` — what holds of every loaded document

A document is loaded in a world of its own: fetching may look at it and change it, and may fail.
`Gives` says what holds of a result where there is one, for any world.

The schemas that a document declares itself all go into its root package.  This takes the two kinds
of documents together: a service description merges others, whose schemas go into the base package,
but that is its own package too, and a schema has no other document to merge.
-/
import SoapBindings.Document.Loading

namespace SoapBindings

/-- Loading in a world of states. -/
abbrev Loader (σ : Type) := StateT σ (Except LoadError)

/-- Whatever the world is like, a result has the property. -/
def Gives {σ α : Type} (x : Loader σ α) (P : α → Prop) : Prop :=
  ∀ world a world', x.run world = .ok (a, world') → P a

section Gives

variable {σ α β : Type}

theorem Gives.pure {a : α} {P : α → Prop} (h : P a) : Gives (Pure.pure a : Loader σ α) P := by
  intro world b world' hrun
  cases hrun
  exact h

theorem Gives.throw {e : LoadError} {P : α → Prop} :
    Gives (throwThe LoadError e : Loader σ α) P := by
  intro world a world' hrun
  cases hrun

theorem Gives.bind {x : Loader σ α} {f : α → Loader σ β} {P : α → Prop} {Q : β → Prop}
    (hx : Gives x P) (hf : ∀ a, P a → Gives (f a) Q) : Gives (x >>= f) Q := by
  intro world b world' hrun
  rw [StateT.run_bind] at hrun
  cases hfirst : x.run world with
  | error e =>
      rw [hfirst] at hrun
      cases hrun
  | ok result =>
      rw [hfirst] at hrun
      exact hf result.1 (hx world result.1 result.2 hfirst) _ b world' hrun

theorem Gives.mono {x : Loader σ α} {P Q : α → Prop} (h : Gives x P) (hPQ : ∀ a, P a → Q a) :
    Gives x Q :=
  fun world a world' hrun => hPQ a (h world a world' hrun)

theorem Gives.any (x : Loader σ α) : Gives x fun _ => True := fun _ _ _ _ => trivial

theorem Gives.settle {x : Except LoadError α} {P : α → Prop} (h : ∀ a, x = .ok a → P a) :
    Gives (Document.settle x : Loader σ α) P := by
  cases x with
  | ok a => exact .pure (h a rfl)
  | error e => exact .throw

/-- What every step of a loop keeps holds afterwards. -/
theorem Gives.foldlM {f : β → α → Loader σ β} {items : List α} {P : β → Prop}
    (hstep : ∀ b a, P b → Gives (f b a) P) {b : β} (h : P b) : Gives (items.foldlM f b) P := by
  induction items generalizing b with
  | nil => exact .pure h
  | cons item items ih =>
      rw [List.foldlM_cons]
      exact (hstep b item h).bind fun b hb => ih hb

end Gives

namespace Document

open Wsdl Xsd

variable {σ : Type} {fetch : Url → Loader σ Source}

/-! ## Merged service descriptions -/

/-- All schemas go into a package. -/
def AllIn (package : String) (d : Definitions) : Prop := ∀ s ∈ d.schemas, s.identifier = package

theorem AllIn.merge {package : String} {d imported : Definitions} (h : AllIn package d)
    (himported : AllIn package imported) : AllIn package (d.merge imported) := by
  intro s hs
  obtain hs | hs := List.mem_append.mp hs
  · exact h s hs
  · exact himported s hs

theorem fetchDefinitions_gives (url : Url) :
    Gives (fetchDefinitions fetch url) (AllIn basePackage) := by
  unfold fetchDefinitions
  refine (Gives.any _).bind fun source _ => (Gives.any _).bind fun parsed _ => ?_
  cases parsed with
  | definitions d =>
      refine .pure fun s hs => ?_
      obtain ⟨s, -, rfl⟩ := List.mem_map.mp hs
      rfl
  | schema s => exact .throw

theorem followImport_gives {maxDepth : Nat}
    {deeper : Option (Definitions → Option Url → List Url → Loader σ (Definitions × List Url))}
    (hdeeper : ∀ f, deeper = some f → ∀ d base seen, AllIn basePackage d →
      Gives (f d base seen) fun result => AllIn basePackage result.1)
    {base : Option Url} {merged : Definitions × List Url} (h : AllIn basePackage merged.1)
    (found : Wsdl.Import) :
    Gives (followImport fetch maxDepth deeper base merged found)
      fun result => AllIn basePackage result.1 := by
  unfold followImport
  refine (Gives.any _).bind fun url _ => ?_
  split
  · exact .pure h
  · cases deeper with
    | none => exact .throw
    | some f =>
        refine (fetchDefinitions_gives url).bind fun d hd => ?_
        exact (hdeeper f rfl d _ _ hd).bind fun result hresult => .pure (h.merge hresult)

/-- Merging brings in schemas of the base package only. -/
theorem mergeImports_gives {maxDepth levels : Nat} {d : Definitions} {base : Option Url}
    {seen : List Url} (h : AllIn basePackage d) :
    Gives (mergeImports fetch maxDepth levels d base seen)
      fun result => AllIn basePackage result.1 := by
  induction levels generalizing d base seen with
  | zero =>
      unfold mergeImports
      refine Gives.foldlM (fun merged found hmerged => ?_) h
      exact followImport_gives (fun f hf => by cases hf) hmerged found
  | succ levels ih =>
      unfold mergeImports
      refine Gives.foldlM (fun merged found hmerged => ?_) h
      exact followImport_gives (fun f hf d base seen hd => by cases hf; exact ih hd) hmerged found

/-- A document without imports is merged with nothing. -/
theorem mergeImports_alone {maxDepth levels : Nat} {d : Definitions} {base : Option Url}
    {seen : List Url} (h : d.imports = []) :
    mergeImports fetch maxDepth levels d base seen = pure ({ d with imports := [] }, seen) := by
  cases levels <;> simp [mergeImports, h]

/-! ## Loaded documents -/

theorem rootDefinitions_allIn {kind : DocumentKind} {base : Option Url} {parsed : Parsed}
    {package : String} {d : Definitions}
    (h : rootDefinitions kind base parsed = .ok (package, d)) :
    AllIn package d ∧ (d.imports = [] ∨ package = basePackage) := by
  unfold rootDefinitions at h
  cases kind <;> cases parsed <;> cases h
  · refine ⟨fun s hs => ?_, .inr rfl⟩
    obtain ⟨s, -, rfl⟩ := List.mem_map.mp hs
    rfl
  · refine ⟨fun s hs => ?_, .inl rfl⟩
    obtain ⟨s, -, rfl⟩ := List.mem_map.mp hs
    rfl

/-- The schemas of a loaded document itself go into its root package. -/
theorem loadSource_gives (maxDepth : Nat) (source : Source) (base : Option Url)
    (kind : DocumentKind) :
    Gives (loadSource fetch maxDepth source base kind)
      fun d => AllIn d.rootPackage d.definitions := by
  unfold loadSource
  refine Gives.bind (P := fun root : String × Definitions =>
    AllIn root.1 root.2 ∧ (root.2.imports = [] ∨ root.1 = basePackage)) ?_ fun root hroot => ?_
  · refine Gives.settle fun root h => ?_
    cases hparse : parse source with
    | error e => simp [hparse, bind, Except.bind] at h
    | ok parsed =>
        simp only [hparse, bind, Except.bind] at h
        exact rootDefinitions_allIn h
  · obtain ⟨hall, himports⟩ := hroot
    refine Gives.bind (P := fun merged : Definitions × List Url => AllIn root.1 merged.1) ?_
      fun merged hmerged => (Gives.any _).bind fun found _ => .pure hmerged
    obtain himports | hbase := himports
    · rw [mergeImports_alone himports]
      exact .pure hall
    · rw [hbase] at hall ⊢
      exact mergeImports_gives hall

/-! ## Packages -/

/-- A document with further schemas in its registry. -/
def withSchemas (d : Document) (extra : List Schema) : Document :=
  { d with registry := extra.foldl Registry.insert d.registry }

/-- Where all own schemas go into the root package, every schema goes into some package that is
generated. -/
theorem identifier_mem_packages {d : Document} (h : AllIn d.rootPackage d.definitions) {s : Schema}
    (hs : s ∈ d.schemas) : s.identifier ∈ d.packages := by
  obtain hs | hs := List.mem_append.mp hs
  · exact h s hs ▸ List.mem_cons_self
  · by_cases hroot : s.identifier = d.rootPackage
    · exact hroot ▸ List.mem_cons_self
    · refine List.mem_cons_of_mem _ (List.mem_filter.mpr ⟨List.mem_map_of_mem hs, ?_⟩)
      simpa using hroot

end Document

end SoapBindings
