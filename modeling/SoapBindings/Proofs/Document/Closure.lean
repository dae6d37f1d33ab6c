/-
# `SoapBindings.Proofs.Document.Closure` — the registry is the closure of the references

Once a document is loaded its registry holds every schema that the document refers to, directly or
through other schemas, one to a package and in the order in which a reader who follows each
reference at once would first come across them.  Each was asked for once, and no other request was
made but for imported service descriptions.

The order is that of a forest in preorder.  That the registry takes the schemas in as they are
found, and passes none over, is due to the packages: a schema is only fetched for a package that is
not known, so the registry cannot know it either.
-/
import Mathlib.Data.List.Nodup
import SoapBindings.Proofs.Document.Links

namespace SoapBindings

open Wsdl Xsd

/-! ## Registered schemas -/

namespace Registry

theorem contains_iff {r : Registry} {identifier : String} :
    r.contains identifier ↔ identifier ∈ r.identifiers := by
  simp [contains, identifiers]

/-- A schema of a package that is not known goes to the end. -/
theorem insert_schemas {r : Registry} {s : Schema} (h : s.identifier ∉ r.identifiers) :
    (r.insert s).schemas = r.schemas ++ [s] := by
  rw [insert, if_neg (mt contains_iff.mp h)]

end Registry

namespace Document

variable {web : Web}

/-- A registry takes in schemas of packages that it does not know, and that differ, as they come. -/
theorem recordAll_registry {found : Discovery} {finds : List (Find String Schema)}
    (hidentifier : ∀ find ∈ finds, find.document.identifier = find.key)
    (hnodup : (finds.map (·.key)).Nodup)
    (hnew : ∀ find ∈ finds, find.key ∉ found.registry.identifiers) :
    ((schemaWalk web).recordAll found finds).registry.schemas =
      found.registry.schemas ++ finds.map (·.document) := by
  induction finds generalizing found with
  | nil => exact (List.append_nil _).symm
  | cons find finds ih =>
      rw [List.map_cons, List.nodup_cons] at hnodup
      have hfind := hidentifier find List.mem_cons_self
      have hinsert : (found.registry.insert find.document).schemas =
          found.registry.schemas ++ [find.document] :=
        Registry.insert_schemas (hfind.symm ▸ hnew find List.mem_cons_self)
      show ((schemaWalk web).recordAll _ finds).registry.schemas = _
      rw [ih (fun f hf => hidentifier f (List.mem_cons_of_mem _ hf)) hnodup.2]
      · show (found.registry.insert find.document).schemas ++ _ = _
        rw [hinsert, List.append_assoc]
        rfl
      · intro f hf hmem
        rw [Registry.identifiers, schemaWalk, hinsert, List.map_append, List.mem_append] at hmem
        obtain hmem | hmem := hmem
        · exact hnew f (List.mem_cons_of_mem _ hf) hmem
        · rw [List.map_singleton, List.mem_singleton, hfind] at hmem
          exact hnodup.1 (hmem ▸ List.mem_map_of_mem hf)

/-! ## Loaded documents -/

/-- The loader succeeds if both of its walks do. -/
theorem loadSource_ok {maxDepth : Nat} {source : Source} {base : Option Url} {kind : DocumentKind}
    {d : Document} {history : List Url}
    (h : (loadSource web.request maxDepth source base kind).after [] = (.ok d, history)) :
    ∃ root seen history₁ found,
      opening source base kind = .ok (d.rootPackage, root) ∧
      ((importWalk web).explore maxDepth maxDepth (importLinks base root)
        ({ root with imports := [] }, base.toList)).after [] =
          (.ok (d.definitions, seen), history₁) ∧
      ((schemaWalk web).explore maxDepth maxDepth
        (d.definitions.schemas.flatMap (schemaLinks d.rootPackage))
        { seen := knownPackages kind d.rootPackage }).after history₁ = (.ok found, history) ∧
      d.registry = found.registry := by
  rw [loadSource_eq] at h
  obtain ⟨⟨rootPackage, root⟩, _, hopening, h⟩ := Session.of_bind_ok h
  rw [Session.after_settle, Prod.mk.injEq] at hopening
  obtain ⟨hopening, rfl⟩ := hopening
  obtain ⟨⟨definitions, seen⟩, history₁, hmerged, h⟩ := Session.of_bind_ok h
  obtain ⟨found, _, hfound, h⟩ := Session.of_bind_ok h
  cases h
  exact ⟨root, seen, history₁, found, hopening, hmerged, hfound, rfl⟩

/-- The registry after a walk is its forest in preorder. -/
theorem registry_forest {known : List String} {links : List Link}
    {forest : Forest (Find String Schema)} {history history' : List Url}
    (h : (schemaWalk web).Encounters known links forest) (hknown : known.Nodup)
    (hvisits : (schemaWalk web).Visits history forest.preorder history') :
    let registry := ((schemaWalk web).recordAll { seen := known } forest.preorder).registry
    registry.schemas = forest.preorder.map (·.document) ∧
      registry.identifiers.reverse = Walk.keys forest ∧
      ∃ fetched, history' = history ++ fetched ∧
        fetched.map some = registry.schemas.map (·.location) ∧
        ∀ i find, forest.preorder[i]? = some find →
          FetchedFrom web (history ++ fetched.take i) find.link find.document := by
  have hkeys : ∀ find ∈ forest.preorder, schemaIdentifier find.link.location = find.key :=
    fun find hfind => Except.ok.inj (h.key_eq find hfind)
  obtain ⟨fetched, rfl, hlocations, hfetched⟩ := visits_fetched hvisits hkeys
  have hidentifier : ∀ find ∈ forest.preorder, find.document.identifier = find.key := by
    intro find hfind
    obtain ⟨i, hi⟩ := List.mem_iff_getElem?.mp hfind
    exact (hfetched i find hi).identifier_eq.trans (hkeys find hfind)
  have hnodup : (forest.preorder.map (·.key)).Nodup :=
    List.nodup_reverse.mp (List.nodup_append.mp (h.nodup hknown)).1
  have hschemas : ((schemaWalk web).recordAll { seen := known } forest.preorder).registry.schemas =
      forest.preorder.map (·.document) :=
    recordAll_registry hidentifier hnodup fun _ _ => List.not_mem_nil
  refine ⟨hschemas, ?_, fetched, rfl, ?_, hfetched⟩
  · rw [Registry.identifiers, hschemas, List.map_map, Walk.keys]
    exact congrArg List.reverse (List.map_congr_left hidentifier)
  · rw [hlocations, hschemas, List.map_map]
    rfl

/-- What a loader walks through after its own schemas is a forest,
and its registry that in preorder. -/
theorem registry_encounters {maxDepth : Nat} {known : List String} {links : List Link}
    {history history' : List Url} {found : Discovery} (hknown : known.Nodup)
    (h : ((schemaWalk web).explore maxDepth maxDepth links { seen := known }).after history =
      (.ok found, history')) :
    ∃ (forest : Forest (Find String Schema)) (fetched : List Url),
      (schemaWalk web).Encounters known links forest ∧
      found.registry.schemas = forest.preorder.map (·.document) ∧
      found.registry.identifiers.reverse = Walk.keys forest ∧
      history' = history ++ fetched ∧
      fetched.map some = found.registry.schemas.map (·.location) ∧
      ∀ i find, forest.preorder[i]? = some find →
        FetchedFrom web (history ++ fetched.take i) find.link find.document := by
  have hruns := Walk.explore_runs (w := schemaWalk web) (Nat.add_comm 1 maxDepth) links
    { seen := known } history
  rw [h] at hruns
  obtain ⟨forest, hforest, rfl, hvisits⟩ := hruns.encounters
  change (schemaWalk web).Encounters known links forest at hforest
  obtain ⟨hschemas, hidentifiers, fetched, hhistory, hlocations, hfetched⟩ :=
    registry_forest hforest hknown hvisits
  exact ⟨forest, fetched, hforest, hschemas, hidentifiers, hhistory, hlocations, hfetched⟩

/-- Every reference of a schema that is walked from or found goes to a known package. -/
theorem reference_known {rootPackage : String} {known : List String} {roots : List Schema}
    {forest : Forest (Find String Schema)}
    (h : (schemaWalk web).Encounters known (roots.flatMap (schemaLinks rootPackage)) forest)
    {s : Schema} (hs : s ∈ roots ++ forest.preorder.map (·.document)) {location : String}
    (hlocation : (∃ i ∈ s.imports, i.schemaLocation = some location) ∨ location ∈ s.includes) :
    schemaIdentifier location ∈ Walk.keys forest ++ known := by
  obtain hs | hs := List.mem_append.mp hs
  · obtain ⟨link, hlink, rfl⟩ := mem_schemaLinks rootPackage hlocation
    obtain ⟨key, hkey, hmem⟩ := h.reached link (List.mem_flatMap.mpr ⟨s, hs, hlink⟩)
    exact Except.ok.inj hkey ▸ hmem
  · obtain ⟨find, hfind, rfl⟩ := List.mem_map.mp hs
    obtain ⟨link, hlink, rfl⟩ := mem_schemaLinks find.key hlocation
    obtain ⟨key, hkey, hmem⟩ := h.closed find hfind link hlink
    exact Except.ok.inj hkey ▸ hmem

/-- A schema document has no imports to merge. -/
theorem opening_imports {source : Source} {base : Option Url} {rootPackage : String}
    {root : Definitions} (h : opening source base .xsd = .ok (rootPackage, root)) :
    root.imports = [] := by
  unfold opening at h
  cases hparse : parse source with
  | error e => simp [hparse, bind, Except.bind] at h
  | ok parsed =>
      simp only [hparse, bind, Except.bind] at h
      cases parsed <;> cases h
      rfl

/-- The first requests are for imported service descriptions,
of which a schema document has none. -/
theorem imported_before {maxDepth : Nat} {source : Source} {base : Option Url}
    {kind : DocumentKind} {rootPackage : String} {root : Definitions}
    {merged : Definitions × List Url} {imported : List Url}
    (hopening : opening source base kind = .ok (rootPackage, root))
    (h : ((importWalk web).explore maxDepth maxDepth (importLinks base root)
      ({ root with imports := [] }, base.toList)).after [] = (.ok merged, imported)) :
    (kind = .xsd → imported = []) ∧
      ∀ i url, imported[i]? = some url → ∃ d, ImportedFrom web (imported.take i) url d := by
  refine ⟨fun hkind => ?_, fun i url hi => ?_⟩
  · subst hkind
    rw [importLinks, opening_imports hopening, List.map_nil, Walk.explore_nil,
      Session.after_pure] at h
    exact (Prod.mk.inj h).2.symm
  · have hruns := Walk.explore_runs (w := importWalk web) (Nat.add_comm 1 maxDepth)
      (importLinks base root) ({ root with imports := [] }, base.toList) []
    rw [h] at hruns
    obtain ⟨forest, -, -, hvisits⟩ := hruns.encounters
    obtain ⟨hhistory, himported⟩ := visits_imported hvisits
    rw [List.nil_append] at hhistory
    subst hhistory
    rw [List.getElem?_map, Option.map_eq_some_iff] at hi
    obtain ⟨find, hfind, rfl⟩ := hi
    exact ⟨find.document, himported i find hfind⟩

/-- The registry of a document that was loaded is a forest in preorder, and each of its schemas was
asked for once, after all service descriptions. -/
theorem loaded_registry {maxDepth : Nat} {source : Source} {base : Option Url}
    {kind : DocumentKind} {d : Document} {history : List Url}
    (h : (loadSource web.request maxDepth source base kind).after [] = (.ok d, history)) :
    ∃ (forest : Forest (Find String Schema)) (imported fetched : List Url),
      ((schemaWalk web).Encounters (knownPackages kind d.rootPackage)
          (d.definitions.schemas.flatMap (schemaLinks d.rootPackage)) forest ∧
        d.registry.schemas = forest.preorder.map (·.document)) ∧
      d.registry.identifiers.reverse = Walk.keys forest ∧
      history = imported ++ fetched ∧
      (fetched.map some = d.registry.schemas.map (·.location) ∧
        ∀ i find, forest.preorder[i]? = some find →
          FetchedFrom web (imported ++ fetched.take i) find.link find.document) ∧
      (kind = .xsd → imported = []) ∧
      ∀ i url, imported[i]? = some url → ∃ d, ImportedFrom web (imported.take i) url d := by
  obtain ⟨root, seen, imported, found, hopening, hmerged, hfound, hregistry⟩ := loadSource_ok h
  obtain ⟨forest, fetched, hforest, hschemas, hidentifiers, hhistory, hlocations, hfetched⟩ :=
    registry_encounters (knownPackages_nodup kind d.rootPackage) hfound
  rw [← hregistry] at hschemas hidentifiers hlocations
  exact ⟨forest, imported, fetched, ⟨hforest, hschemas⟩, hidentifiers, hhistory,
    ⟨hlocations, hfetched⟩, imported_before hopening hmerged⟩

/-- **The registry is the depth-first closure of the references.**  Whatever the store answers, once
a document is loaded:
the packages in its registry differ, and a schema document's own package is not among them;
every import with a location and every include, of a schema of the document or of the registry, goes
to a package of the registry or is one of a schema document to itself;
the registry is the forest of the schemas that the references of the document's own schemas lead to
for the first time, in preorder, where imports come before includes;
and every schema in it was made from the answer to a single request, for the place that its link in
the forest leads to, while all requests before those were for imported service descriptions, of
which a schema document has none. -/
theorem registry_closed {maxDepth : Nat} {source : Source} {base : Option Url}
    {kind : DocumentKind} {d : Document} {history : List Url}
    (h : (loadSource web.request maxDepth source base kind).after [] = (.ok d, history)) :
    (d.registry.identifiers.Nodup ∧ (kind = .xsd → d.rootPackage ∉ d.registry.identifiers)) ∧
    (∀ s ∈ d.definitions.schemas ++ d.registry.schemas, ∀ location,
      (∃ i ∈ s.imports, i.schemaLocation = some location) ∨ location ∈ s.includes →
        schemaIdentifier location ∈ d.registry.identifiers ∨
          kind = .xsd ∧ schemaIdentifier location = d.rootPackage) ∧
    ∃ (forest : Forest (Find String Schema)) (imported fetched : List Url),
      ((schemaWalk web).Encounters (knownPackages kind d.rootPackage)
          (d.definitions.schemas.flatMap (schemaLinks d.rootPackage)) forest ∧
        d.registry.schemas = forest.preorder.map (·.document)) ∧
      history = imported ++ fetched ∧
      (fetched.map some = d.registry.schemas.map (·.location) ∧
        ∀ i find, forest.preorder[i]? = some find →
          FetchedFrom web (imported ++ fetched.take i) find.link find.document) ∧
      (kind = .xsd → imported = []) ∧
      ∀ i url, imported[i]? = some url → ∃ d, ImportedFrom web (imported.take i) url d := by
  obtain ⟨forest, imported, fetched, ⟨hforest, hschemas⟩, hidentifiers, hrequests⟩ :=
    loaded_registry h
  obtain ⟨hdistinct, -, hfresh⟩ :=
    List.nodup_append.mp (hforest.nodup (knownPackages_nodup kind d.rootPackage))
  refine ⟨⟨?_, fun hkind hmem => ?_⟩, fun s hs location hlocation => ?_, forest, imported, fetched,
    ⟨hforest, hschemas⟩, hrequests⟩
  · exact List.nodup_reverse.mp (hidentifiers ▸ hdistinct)
  · have hkey : d.rootPackage ∈ Walk.keys forest := hidentifiers ▸ List.mem_reverse.mpr hmem
    exact hfresh _ hkey _ (mem_knownPackages.mpr ⟨hkind, rfl⟩) rfl
  · rw [hschemas] at hs
    have hreference := reference_known hforest hs hlocation
    rwa [List.mem_append, mem_knownPackages, ← hidentifiers, List.mem_reverse] at hreference

/-- A schema that includes others. -/
def includingSource (locations : List String) : Source :=
  .text ("<schema>".toList ++
    locations.flatMap (fun l => ("<include schemaLocation='" ++ l ++ "'/>").toList) ++
    "</schema>".toList)

/-- A page of a site. -/
def pageUrl (names : List String) : Url :=
  { scheme := "http", host := some "h", path := .segments names }

/-- A site where schemas include each other in a circle. -/
def circularWeb : Web := fun _ url =>
  if url = pageUrl ["one.xsd"] then .ok (includingSource ["two/three.xsd", "two.xsd"])
  else if url = pageUrl ["two", "three.xsd"] then
    .ok (includingSource ["../root.xsd", "../two.xsd"])
  else if url = pageUrl ["two.xsd"] then .ok (includingSource ["one.xsd"])
  else .error .unreachable

/-- A schema that includes the end of the circle and, behind that, imports its beginning. -/
def circularSource : Source := .text
  "<schema><include schemaLocation='two.xsd'/><import schemaLocation='one.xsd'/></schema>".toList

/-- The circle, loaded from a schema that refers to its beginning and to its end. -/
def circularLoad : Except LoadError Document × List Url :=
  (loadSource circularWeb.request 3 circularSource (some (pageUrl ["root.xsd"])) .xsd).after []

/-- The import is followed first, although it stands behind the include.  So the package of the
include is found on the way, and known when the include is come to. -/
theorem registry_closed_circle :
    ∃ d history, circularLoad = (.ok d, history) ∧
      d.definitions.schemas.map (fun s => (s.imports.map (·.schemaLocation), s.includes)) =
        [([some "one.xsd"], ["two.xsd"])] ∧
      d.registry.identifiers = ["one", "three", "two"] ∧ history.length = 3 ∧
      d.registry.identifiers.Nodup ∧ d.rootPackage ∉ d.registry.identifiers := by
  have hanswer : circularLoad.map (·.toOption.map (·.registry.identifiers)) List.length =
      (some ["one", "three", "two"], 3) := by
    decide +kernel
  have hreferences : circularLoad.1.toOption.map (·.definitions.schemas.map fun s =>
      (s.imports.map (·.schemaLocation), s.includes)) =
        some [([some "one.xsd"], ["two.xsd"])] := by
    decide +kernel
  rcases hload : circularLoad with ⟨_ | d, history⟩
  · rw [hload] at hanswer
    cases congrArg Prod.fst hanswer
  · rw [hload] at hanswer hreferences
    obtain ⟨hidentifiers, hlength⟩ := Prod.mk.inj hanswer
    obtain ⟨hdistinct, hroot⟩ := (registry_closed hload).1
    exact ⟨d, history, rfl, Option.some.inj hreferences, Option.some.inj hidentifiers, hlength,
      hdistinct, hroot rfl⟩

end Document

end SoapBindings
