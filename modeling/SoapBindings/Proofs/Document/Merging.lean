/-
# `SoapBindings.Proofs.Document.Merging` — service descriptions that import each other

Service descriptions may import each other in any way, in circles too.  The descriptions of a site
form a graph (`Imports`), and a loader walks through it from the one that it is given.  What it has
in the end is that one followed by all others that can be reached, each once, in the order in which
the walk comes across them (`followedBy`).

That no description is merged twice is due to its URL, which is known from the moment it is asked
for; and that none is asked for twice, not even as a schema, is due to the site, which answers with
the same document again: no document is both.
-/
import Mathlib.Logic.Relation
import SoapBindings.Proofs.Document.Closure

namespace SoapBindings

open Wsdl Xsd

/-- A service description with the lists of others behind its own, and without imports. -/
def Wsdl.Definitions.followedBy (d : Definitions) (others : List Definitions) : Definitions :=
  { d with
    imports := []
    schemas := d.schemas ++ others.flatMap (·.schemas)
    messages := d.messages ++ others.flatMap (·.messages)
    portTypes := d.portTypes ++ others.flatMap (·.portTypes)
    bindings := d.bindings ++ others.flatMap (·.bindings)
    services := d.services ++ others.flatMap (·.services) }

namespace Document

/-- A store that gives the same answer to the same request. -/
abbrev Site := Url → Except LoadError Source

def Site.web (site : Site) : Web := fun _ url => site url

/-- The site has a service description at a URL. -/
def Site.Describes (site : Site) (url : Url) (d : Definitions) : Prop :=
  ImportedFrom site.web [] url d

/-- The description at one URL imports what is at the other one.  The one that loading begins with
is given, and what the site has at its URL is not looked at. -/
def Imports (site : Site) (url : Url) (root : Definitions) (a b : Url) : Prop :=
  ∃ d, (if a = url then d = root else site.Describes a d) ∧
    ∃ link ∈ importLinks (some a) d, link.target = .ok b

/-! ## The descriptions of a site -/

section Site

variable {site : Site} {url : Url}

theorem Site.Describes.unique {d d' : Definitions} (h : site.Describes url d)
    (h' : site.Describes url d') : d = d' := by
  obtain ⟨source, parsed, hsource, hparsed, rfl⟩ := h
  obtain ⟨source', parsed', hsource', hparsed', rfl⟩ := h'
  obtain rfl := Except.ok.inj (hsource.symm.trans hsource')
  obtain rfl := Parsed.definitions.inj (Except.ok.inj (hparsed.symm.trans hparsed'))
  rfl

/-- The schemas of an imported description know where they come from. -/
theorem Site.Describes.schemas {d : Definitions} (h : site.Describes url d) :
    ∀ s ∈ d.schemas, s.identifier = basePackage ∧ s.location = some url := by
  obtain ⟨source, parsed, -, -, rfl⟩ := h
  intro s hs
  obtain ⟨s, -, rfl⟩ := List.mem_map.mp hs
  exact ⟨rfl, rfl⟩

/-- What a site has at a URL is not a service description and a schema. -/
theorem Site.Describes.not_schema {d : Definitions} (h : site.Describes url d)
    {history : List Url} {link : Link} {s : Schema} (hs : FetchedFrom site.web history link s) :
    s.location ≠ some url := by
  obtain ⟨source, parsed, hsource, hparsed, rfl⟩ := h
  obtain ⟨target, source', parsed', -, hsource', hparsed', rfl⟩ := hs
  intro hlocation
  obtain rfl := Option.some.inj hlocation
  obtain rfl := Except.ok.inj (hsource.symm.trans hsource')
  cases hparsed.symm.trans hparsed'

end Site

/-! ## Merging in the order of a walk -/

theorem recordAll_merged {web : Web} (root : Definitions) (seen : List Url)
    (finds : List (Find Url Definitions)) :
    ((importWalk web).recordAll ({ root with imports := [] }, seen) finds).1 =
      root.followedBy (finds.map (·.document)) := by
  induction finds generalizing root seen with
  | nil => simp [Walk.recordAll, Definitions.followedBy]
  | cons find finds ih =>
      have hmerged := ih (root.merge find.document) (find.key :: seen)
      simpa [Walk.recordAll, importWalk, Definitions.followedBy, Definitions.merge] using hmerged

/-- The document that loading begins with has its schemas in its package and at its place. -/
theorem opening_schemas {source : Source} {base : Option Url} {kind : DocumentKind}
    {rootPackage : String} {root : Definitions}
    (h : opening source base kind = .ok (rootPackage, root)) :
    (∀ s ∈ root.schemas, s.identifier = rootPackage ∧ s.location = base) ∧
      (root.imports ≠ [] → rootPackage = basePackage) := by
  unfold opening at h
  cases hparse : parse source with
  | error e => simp [hparse, bind, Except.bind] at h
  | ok parsed =>
      simp only [hparse, bind, Except.bind] at h
      cases kind <;> cases parsed <;> cases h
      · refine ⟨fun s hs => ?_, fun _ => rfl⟩
        obtain ⟨s, -, rfl⟩ := List.mem_map.mp hs
        exact ⟨rfl, rfl⟩
      · refine ⟨fun s hs => ?_, fun himports => absurd rfl himports⟩
        obtain ⟨s, -, rfl⟩ := List.mem_map.mp hs
        exact ⟨rfl, rfl⟩

/-- What the walk finds is what can be reached. -/
theorem mem_finds_iff {site : Site} {url : Url} {root : Definitions}
    {forest : Forest (Find Url Definitions)}
    (h : (importWalk site.web).Encounters [url] (importLinks (some url) root) forest)
    (hdescribes : ∀ find ∈ forest.preorder, site.Describes find.key find.document) (v : Url) :
    v ∈ forest.preorder.map (·.key) ↔
      v ≠ url ∧ Relation.TransGen (Imports site url root) url v := by
  have hnodup : (Walk.keys forest ++ [url]).Nodup := h.nodup (List.nodup_singleton url)
  have hnew : ∀ find ∈ forest.preorder, find.key ≠ url := by
    intro find hfind
    have hkey : find.key ∈ Walk.keys forest :=
      List.mem_reverse.mpr (List.mem_map_of_mem hfind)
    exact (List.nodup_append.mp hnodup).2.2 _ hkey _ List.mem_cons_self
  constructor
  · intro hv
    rcases List.mem_map.mp hv with ⟨find, hfind, rfl⟩
    refine ⟨hnew find hfind, ?_⟩
    refine h.inherits (fun link hlink key hkey => ?_) (fun other hother hreached => ?_) find hfind
    · exact .single ⟨root, by simp, link, hlink, hkey⟩
    · intro link hlink key hkey
      refine hreached.tail ⟨other.document, ?_, link, hlink, hkey⟩
      rw [if_neg (hnew other hother)]
      exact hdescribes other hother
  · -- whatever an edge leads to is found, or is where the walk began
    have hedge : ∀ a b, a = url ∨ a ∈ forest.preorder.map (·.key) →
        Imports site url root a b → b = url ∨ b ∈ forest.preorder.map (·.key) := by
      intro a b ha hab
      obtain ⟨d, hd, link, hlink, htarget⟩ := hab
      have hknown : ∃ key, (importWalk site.web).key link = .ok key ∧
          key ∈ Walk.keys forest ++ [url] := by
        split at hd
        · next hroot =>
            subst hroot hd
            exact h.reached link hlink
        · next hother =>
            rcases ha with rfl | ha
            · exact absurd rfl hother
            · rcases List.mem_map.mp ha with ⟨find, hfind, rfl⟩
              obtain rfl := hd.unique (hdescribes find hfind)
              exact h.closed find hfind link hlink
      obtain ⟨key, hkey, hmem⟩ := hknown
      obtain rfl := Except.ok.inj (htarget.symm.trans hkey)
      rcases List.mem_append.mp hmem with hmem | hmem
      · exact .inr (List.mem_reverse.mp hmem)
      · exact .inl (List.mem_singleton.mp hmem)
    rintro ⟨hne, hreached⟩
    refine Or.resolve_left ?_ hne
    clear hne
    induction hreached with
    | single hab => exact hedge _ _ (.inl rfl) hab
    | tail _ hbc ih => exact hedge _ _ ih hbc

/-- **Imported descriptions are merged once each, in the order of a walk.**  Whatever site
descriptions are on, once one of them is loaded from its URL:
a forest gives the order in which all others are come across, which follows every import at once,
and each stands there with what the site has at its URL;
they are those that can be reached, and each of them is asked for once in the whole course of
loading;
what is loaded is the first description followed by the others in preorder, without imports;
and every schema in it goes into the root package and has the URL of its own description. -/
theorem imports_merged {site : Site} {maxDepth : Nat} {source : Source} {url : Url}
    {kind : DocumentKind} {d : Document} {history : List Url}
    (h : (loadSource site.web.request maxDepth source (some url) kind).after [] =
      (.ok d, history)) :
    ∃ (root : Definitions) (forest : Forest (Find Url Definitions)),
      opening source (some url) kind = .ok (d.rootPackage, root) ∧
      ((importWalk site.web).Encounters [url] (importLinks (some url) root) forest ∧
        ∀ find ∈ forest.preorder, site.Describes find.key find.document) ∧
      ((forest.preorder.map (·.key)).Nodup ∧
        (∀ v, v ∈ forest.preorder.map (·.key) ↔
          v ≠ url ∧ Relation.TransGen (Imports site url root) url v) ∧
        ∀ v ∈ forest.preorder.map (·.key), history.count v = 1) ∧
      d.definitions = root.followedBy (forest.preorder.map (·.document)) ∧
      (∀ s ∈ root.schemas, s.identifier = d.rootPackage ∧ s.location = some url) ∧
      ∀ find ∈ forest.preorder, ∀ s ∈ find.document.schemas,
        s.identifier = d.rootPackage ∧ s.location = some find.key := by
  obtain ⟨root, seen, history₁, found, hopening, hmerged, hfound, -⟩ := loadSource_ok h
  have hruns := Walk.explore_runs (w := importWalk site.web) (Nat.add_comm 1 maxDepth)
    (importLinks (some url) root) ({ root with imports := [] }, [url]) []
  change ((importWalk site.web).explore maxDepth maxDepth (importLinks (some url) root)
    ({ root with imports := [] }, [url])).after [] = _ at hmerged
  rw [hmerged] at hruns
  obtain ⟨forest, hforest, hrecord, hvisits⟩ := hruns.encounters
  change (importWalk site.web).Encounters [url] (importLinks (some url) root) forest at hforest
  obtain ⟨hrequests, himported⟩ := visits_imported hvisits
  rw [List.nil_append] at hrequests
  have hdescribes : ∀ find ∈ forest.preorder, site.Describes find.key find.document := by
    intro find hfind
    obtain ⟨i, hi⟩ := List.mem_iff_getElem?.mp hfind
    exact himported i find hi
  have hnodup : (forest.preorder.map (·.key)).Nodup :=
    List.nodup_reverse.mp (List.nodup_append.mp (hforest.nodup (List.nodup_singleton url))).1
  obtain ⟨hown, hbase⟩ := opening_schemas hopening
  -- schemas are asked for afterwards, and none of them at the URL of a description
  obtain ⟨schemas, fetched, -, hregistered, -, hhistory, hlocations, hfetched⟩ :=
    registry_encounters (knownPackages_nodup kind d.rootPackage) hfound
  have hlater : ∀ find ∈ forest.preorder, find.key ∉ fetched := by
    intro find hfind hmem
    have hlocation : some find.key ∈ found.registry.schemas.map (·.location) :=
      hlocations ▸ List.mem_map_of_mem hmem
    rw [hregistered] at hlocation
    obtain ⟨s, hs, hlocation⟩ := List.mem_map.mp hlocation
    obtain ⟨other, hother, rfl⟩ := List.mem_map.mp hs
    obtain ⟨i, hi⟩ := List.mem_iff_getElem?.mp hother
    exact (hdescribes find hfind).not_schema (hfetched i other hi) hlocation
  refine ⟨root, forest, hopening, ⟨hforest, hdescribes⟩,
    ⟨hnodup, mem_finds_iff hforest hdescribes, fun v hv => ?_⟩, ?_, hown, fun find hfind => ?_⟩
  · rcases List.mem_map.mp hv with ⟨find, hfind, rfl⟩
    rw [hhistory, hrequests, List.count_append, List.count_eq_one_of_mem hnodup hv,
      List.count_eq_zero.mpr (hlater find hfind)]
  · exact (congrArg Prod.fst hrecord).trans (recordAll_merged root [url] forest.preorder)
  · have hroot : d.rootPackage = basePackage := by
      refine hbase fun himports => ?_
      rw [importLinks, himports] at hforest
      cases hforest
      cases hfind
    intro s hs
    exact hroot ▸ (hdescribes find hfind).schemas s hs

/-- A service description with one message, which imports others. -/
def importingSource (message : String) (locations : List String) : Source :=
  .text ("<definitions>".toList ++
    locations.flatMap (fun l => ("<import location='" ++ l ++ "'/>").toList) ++
    ("<message name='" ++ message ++ "'/></definitions>").toList)

/-- A site where service descriptions import each other, themselves and the one that is loaded. -/
def circularSite : Site := fun url =>
  if url = pageUrl ["one.wsdl"] then .ok (importingSource "One" ["two.wsdl", "root.wsdl"])
  else if url = pageUrl ["two.wsdl"] then .ok (importingSource "Two" ["two.wsdl", "one.wsdl"])
  else .error .unreachable

/-- The circle, loaded from a description that imports two of its members. -/
def circularMerge : Except LoadError Document × List Url :=
  (loadSource circularSite.web.request 3 (importingSource "Root" ["one.wsdl", "two.wsdl"])
    (some (pageUrl ["root.wsdl"])) .wsdl).after []

theorem imports_merged_circle :
    ∃ d history, circularMerge = (.ok d, history) ∧
      d.definitions.messages.map (·.name) = ["Root", "One", "Two"] ∧
      d.definitions.imports.length = 0 ∧
      history.count (pageUrl ["one.wsdl"]) = 1 ∧ history.count (pageUrl ["two.wsdl"]) = 1 := by
  have hanswer : circularMerge.map (·.toOption.map (·.definitions.messages.map (·.name))) id =
      (some ["Root", "One", "Two"], [pageUrl ["one.wsdl"], pageUrl ["two.wsdl"]]) := by
    decide +kernel
  rcases hload : circularMerge with ⟨_ | d, history⟩
  · rw [hload] at hanswer
    cases congrArg Prod.fst hanswer
  · rw [hload] at hanswer
    obtain ⟨hmessages, hhistory⟩ := Prod.mk.inj hanswer
    obtain ⟨root, forest, -, -, -, hmerged, -⟩ := imports_merged hload
    refine ⟨d, history, rfl, Option.some.inj hmessages, ?_, ?_, ?_⟩
    · rw [hmerged]
      rfl
    · rw [show history = _ from hhistory]
      decide
    · rw [show history = _ from hhistory]
      decide

end Document

end SoapBindings
