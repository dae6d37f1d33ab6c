/-
# `SoapBindings.Proofs.Document.Links` — the two walks of a loader

The loader walks through imported service descriptions, which it knows by their URLs and merges, and
then through schemas, which it knows by the package that each goes into and registers.  Both are
instances of `Walk`, and loading a document is one after the other (`loadSource_eq`).
-/
import SoapBindings.Proofs.Document.Walk

namespace SoapBindings.Document

open Wsdl Xsd

/-- The links in a service description that was found at `base`. -/
def importLinks (base : Option Url) (d : Definitions) : List Link :=
  d.imports.map fun i =>
    { location := i.location, base, referrer := (base.map Url.toText).getD "" }

/-- The links in a schema: its imports that have a location, and then its includes.  One without a
place of its own goes by its package. -/
def schemaLinks (package : String) (s : Schema) : List Link :=
  (s.imports.filterMap (·.schemaLocation) ++ s.includes).map fun location =>
    { location, base := s.location, referrer := (s.location.map Url.toText).getD package }

theorem mem_schemaLinks (package : String) {s : Schema} {location : String}
    (h : (∃ i ∈ s.imports, i.schemaLocation = some location) ∨ location ∈ s.includes) :
    ∃ link ∈ schemaLinks package s, link.location = location :=
  ⟨_, List.mem_map_of_mem (List.mem_append.mpr (h.imp_left List.mem_filterMap.mpr)), rfl⟩

/-- The walk through imported service descriptions. -/
def importWalk (web : Web) : Walk Url Definitions (Definitions × List Url) where
  key link := link.target
  visit _ url := fetchDefinitions web.request url
  links url d := importLinks (some url) d
  seen merged := merged.2
  record merged url d := (merged.1.merge d, url :: merged.2)
  seen_record _ _ _ := rfl

/-- The walk through schemas. -/
def schemaWalk (web : Web) : Walk String Schema Discovery where
  key link := .ok (schemaIdentifier link.location)
  visit link package := do fetchSchema web.request package (← settle link.target)
  links package s := schemaLinks package s
  seen found := found.seen
  record found package s := { seen := package :: found.seen, registry := found.registry.insert s }
  seen_record _ _ _ := rfl

variable {web : Web} {maxDepth : Nat}

/-! ## Schemas -/

/-- Whatever comes after a schema was fetched may count on where it was found. -/
theorem fetchSchema_bind {α : Type} {package : String} {url : Url} {f g : Schema → Session α}
    (h : ∀ s, s.location = some url → f s = g s) :
    fetchSchema web.request package url >>= f = fetchSchema web.request package url >>= g := by
  unfold fetchSchema
  simp only [bind_assoc]
  refine bind_congr fun source => bind_congr fun parsed => ?_
  cases parsed with
  | schema s => simp only [pure_bind, h { s with identifier := package, location := some url } rfl]
  | definitions d => rfl

/-- One reference is followed as a link is, whether the limit is reached there or not. -/
theorem followReference_eq
    {deeper : Option (List String → Option Url → String → Discovery → Session Discovery)}
    {deeper' : Option (List Link → Discovery → Session Discovery)}
    (h : Option.Rel (fun f f' => ∀ references base referrer found,
      f references base referrer found = f' (references.map fun l => ⟨l, base, referrer⟩) found)
      deeper deeper')
    (base : Option Url) (referrer : String) (found : Discovery) (location : String) :
    followReference web.request maxDepth deeper base referrer found location =
      (schemaWalk web).follow maxDepth deeper' found ⟨location, base, referrer⟩ := by
  unfold followReference Walk.follow
  simp only [schemaWalk, Session.settle_ok, pure_bind]
  by_cases hseen : found.seen.contains (schemaIdentifier location)
  · simp only [hseen, if_true]
  · simp only [hseen, if_false, Bool.false_eq_true]
    cases h with
    | none => rfl
    | some h =>
        simp only [bind_assoc, Link.target]
        refine bind_congr fun url => fetchSchema_bind fun s hs => ?_
        simp only [h, schemaLinks, hs]
        rfl

theorem followReferences_eq (levels : Nat) (references : List String) (base : Option Url)
    (referrer : String) (found : Discovery) :
    followReferences web.request maxDepth levels references base referrer found =
      (schemaWalk web).explore maxDepth levels (references.map fun l => ⟨l, base, referrer⟩)
        found := by
  induction levels generalizing references base referrer found with
  | zero =>
      unfold followReferences Walk.explore
      rw [List.foldlM_map]
      exact congrArg (List.foldlM · found references)
        (funext fun found => funext (followReference_eq .none base referrer found))
  | succ levels ih =>
      unfold followReferences Walk.explore
      rw [List.foldlM_map]
      exact congrArg (List.foldlM · found references)
        (funext fun found => funext (followReference_eq (.some ih) base referrer found))

/-- Schemas in turn are explored as all their links in turn. -/
theorem discover_eq (package : String) (schemas : List Schema) (found : Discovery) :
    discover web.request maxDepth package schemas found =
      (schemaWalk web).explore maxDepth maxDepth (schemas.flatMap (schemaLinks package)) found := by
  unfold discover
  induction schemas generalizing found with
  | nil => exact (Walk.explore_nil maxDepth found).symm
  | cons s schemas ih =>
      rw [List.foldlM_cons, List.flatMap_cons, Walk.explore_append, followReferences_eq]
      exact bind_congr ih

/-! ## Service descriptions -/

/-- One import is followed as a link is, whether the limit is reached there or not. -/
theorem followImport_eq
    {deeper : Option (Definitions → Option Url → List Url → Session (Definitions × List Url))}
    {deeper' : Option (List Link → Definitions × List Url → Session (Definitions × List Url))}
    (h : Option.Rel (fun f f' => ∀ d imported : Definitions, ∀ url seen,
      (do let (imported, seen) ← f imported (some url) seen
          return (d.merge imported, seen)) =
        f' (importLinks (some url) imported) (d.merge imported, seen)) deeper deeper')
    (base : Option Url) (merged : Definitions × List Url) (found : Wsdl.Import) :
    followImport web.request maxDepth deeper base merged found =
      (importWalk web).follow maxDepth deeper' merged
        ⟨found.location, base, (base.map Url.toText).getD ""⟩ := by
  unfold followImport Walk.follow
  refine bind_congr fun url => ?_
  simp only [importWalk]
  by_cases hseen : merged.2.contains url
  · simp only [hseen, if_true]
  · simp only [hseen, if_false, Bool.false_eq_true]
    cases h with
    | none => rfl
    | some h => exact bind_congr fun imported => h merged.1 imported url (url :: merged.2)

/-- Merging an imported document after its own imports comes to the same as before them. -/
theorem merge_explore (levels : Nat) (links : List Link) (d : Definitions)
    (merged : Definitions × List Url) :
    (importWalk web).explore maxDepth levels links (d.merge merged.1, merged.2) =
      (fun merged => (d.merge merged.1, merged.2)) <$>
        (importWalk web).explore maxDepth levels links merged := by
  refine Walk.explore_change (fun merged => (d.merge merged.1, merged.2)) (fun _ => rfl)
    (fun merged url imported => ?_) levels links merged
  simp [importWalk, Definitions.merge]

theorem mergeImports_eq (levels : Nat) (d : Definitions) (base : Option Url) (seen : List Url) :
    mergeImports web.request maxDepth levels d base seen =
      (importWalk web).explore maxDepth levels (importLinks base d)
        ({ d with imports := [] }, seen) := by
  induction levels generalizing d base seen with
  | zero =>
      unfold mergeImports Walk.explore importLinks
      rw [List.foldlM_map]
      exact congrArg (List.foldlM · _ d.imports)
        (funext fun merged => funext (followImport_eq .none base merged))
  | succ levels ih =>
      unfold mergeImports Walk.explore importLinks
      rw [List.foldlM_map]
      refine congrArg (List.foldlM · _ d.imports)
        (funext fun merged => funext (followImport_eq (.some fun d imported url seen => ?_) base
          merged))
      rw [ih]
      exact (merge_explore levels _ d ({ imported with imports := [] }, seen)).symm

/-! ## Documents -/

/-- What is known of a document's package before any reference is followed.  A schema knows its own,
and a service description none. -/
def knownPackages (kind : DocumentKind) (rootPackage : String) : List String :=
  match kind with
  | .xsd => [rootPackage]
  | .wsdl => []

theorem mem_knownPackages {kind : DocumentKind} {rootPackage package : String} :
    package ∈ knownPackages kind rootPackage ↔ kind = .xsd ∧ package = rootPackage := by
  cases kind <;> simp [knownPackages]

theorem knownPackages_nodup (kind : DocumentKind) (rootPackage : String) :
    (knownPackages kind rootPackage).Nodup := by
  cases kind <;> simp [knownPackages]

/-- The root package of a document and what it defines itself. -/
def opening (source : Source) (base : Option Url) (kind : DocumentKind) :
    Except LoadError (String × Definitions) :=
  parse source >>= rootDefinitions kind base

/-- **Loading is two walks**, along the imports of the document and then along the references of all
schemas that it has with them. -/
theorem loadSource_eq (source : Source) (base : Option Url) (kind : DocumentKind) :
    loadSource web.request maxDepth source base kind = do
      let (rootPackage, root) ← settle (opening source base kind)
      let (definitions, _) ← (importWalk web).explore maxDepth maxDepth (importLinks base root)
        ({ root with imports := [] }, base.toList)
      let found ← (schemaWalk web).explore maxDepth maxDepth
        (definitions.schemas.flatMap (schemaLinks rootPackage))
        { seen := knownPackages kind rootPackage }
      return { kind, location := base, rootPackage, definitions, registry := found.registry } := by
  unfold loadSource
  refine bind_congr fun ⟨rootPackage, root⟩ => ?_
  simp only [mergeImports_eq, discover_eq]
  cases kind <;> rfl

/-! ## Requests -/

/-- A service description is what the store answered, after some history, for a URL.  Its schemas
are adopted into the base package. -/
def ImportedFrom (web : Web) (history : List Url) (url : Url) (d : Definitions) : Prop :=
  ∃ source parsed, web history url = .ok source ∧ parse source = .ok (.definitions parsed) ∧
    d = { parsed with
      schemas := parsed.schemas.map fun s =>
        { s with identifier := basePackage, location := some url } }

/-- Visiting a service description takes one request. -/
theorem importWalk_visit {link : Link} {url : Url} {d : Definitions} {history history' : List Url}
    (h : ((importWalk web).visit link url).after history = (.ok d, history')) :
    ImportedFrom web history url d ∧ history' = history ++ [url] := by
  obtain ⟨source, _, hsource, hparse⟩ := Session.of_bind_ok h
  rw [Session.after_request, Prod.mk.injEq] at hsource
  obtain ⟨hsource, rfl⟩ := hsource
  obtain ⟨parsed, _, hparsed, hadopt⟩ := Session.of_bind_ok hparse
  rw [Session.after_settle, Prod.mk.injEq] at hparsed
  obtain ⟨hparsed, rfl⟩ := hparsed
  cases parsed with
  | schema s => cases hadopt
  | definitions parsed =>
      cases hadopt
      exact ⟨⟨source, parsed, hsource, hparsed, rfl⟩, rfl⟩

/-- Visits in turn make one request each, and each takes its description from the answer to it. -/
theorem visits_imported {history history' : List Url} {finds : List (Find Url Definitions)}
    (h : (importWalk web).Visits history finds history') :
    history' = history ++ finds.map (·.key) ∧
      ∀ i find, finds[i]? = some find →
        ImportedFrom web (history ++ (finds.map (·.key)).take i) find.key find.document := by
  induction h with
  | done => simp
  | @next history _ _ find finds hvisit _ ih =>
      obtain ⟨himported, rfl⟩ := importWalk_visit hvisit
      obtain ⟨rfl, hall⟩ := ih
      refine ⟨by simp, fun i f hi => ?_⟩
      cases i with
      | zero =>
          obtain rfl := Option.some.inj hi
          simpa using himported
      | succ i => simpa using hall i f hi

/-- A schema is what the store answered, after some history, for the place that a link leads to. -/
def FetchedFrom (web : Web) (history : List Url) (link : Link) (s : Schema) : Prop :=
  ∃ url source parsed, link.target = .ok url ∧ web history url = .ok source ∧
    parse source = .ok (.schema parsed) ∧
    s = { parsed with identifier := schemaIdentifier link.location, location := some url }

/-- Visiting a schema takes one request. -/
theorem schemaWalk_visit {link : Link} {s : Schema} {history history' : List Url}
    (h : ((schemaWalk web).visit link (schemaIdentifier link.location)).after history =
      (.ok s, history')) :
    FetchedFrom web history link s ∧
      ∃ url, s.location = some url ∧ history' = history ++ [url] := by
  obtain ⟨url, _, htarget, hfetch⟩ := Session.of_bind_ok h
  rw [Session.after_settle, Prod.mk.injEq] at htarget
  obtain ⟨htarget, rfl⟩ := htarget
  obtain ⟨source, _, hsource, hparse⟩ := Session.of_bind_ok hfetch
  rw [Session.after_request, Prod.mk.injEq] at hsource
  obtain ⟨hsource, rfl⟩ := hsource
  obtain ⟨parsed, _, hparsed, hadopt⟩ := Session.of_bind_ok hparse
  rw [Session.after_settle, Prod.mk.injEq] at hparsed
  obtain ⟨hparsed, rfl⟩ := hparsed
  cases parsed with
  | definitions d => cases hadopt
  | schema parsed =>
      cases hadopt
      exact ⟨⟨url, source, parsed, htarget, hsource, hparsed, rfl⟩, url, rfl, rfl⟩

theorem FetchedFrom.identifier_eq {history : List Url} {link : Link} {s : Schema}
    (h : FetchedFrom web history link s) : s.identifier = schemaIdentifier link.location := by
  obtain ⟨url, source, parsed, -, -, -, rfl⟩ := h
  rfl

/-- Visits in turn make one request each, and each takes its schema from the answer to its own. -/
theorem visits_fetched {history history' : List Url} {finds : List (Find String Schema)}
    (h : (schemaWalk web).Visits history finds history')
    (hkeys : ∀ find ∈ finds, schemaIdentifier find.link.location = find.key) :
    ∃ urls, history' = history ++ urls ∧
      urls.map some = finds.map (·.document.location) ∧
      ∀ i find, finds[i]? = some find →
        FetchedFrom web (history ++ urls.take i) find.link find.document := by
  induction h with
  | done => exact ⟨[], by simp⟩
  | @next history _ _ find finds hvisit _ ih =>
      have hkey := hkeys find List.mem_cons_self
      rw [← hkey] at hvisit
      obtain ⟨hfetched, url, hlocation, rfl⟩ := schemaWalk_visit hvisit
      obtain ⟨urls, rfl, hurls, hall⟩ := ih fun f hf => hkeys f (List.mem_cons_of_mem _ hf)
      refine ⟨url :: urls, by simp, by simp [hurls, hlocation], fun i f hi => ?_⟩
      cases i with
      | zero =>
          obtain rfl := Option.some.inj hi
          simpa using hfetched
      | succ i => simpa using hall i f hi

end SoapBindings.Document
