/-
# `SoapBindings.Proofs.Document.Return` — references back to the document itself

The schemas that a schema document refers to may refer back to it.  Such a reference is passed over
because its package is known, not because it leads to the URL of the document; and the package of
the document comes from the path of its URL, while that of a reference comes from its own text.  So
the document is loaded a second time exactly if a reference leads back that is the first one of a
package of its own (`root_returns`).

A plain reference never is.  Where the text has to be encoded, the two packages differ
(`root_registered_twice`).
-/
import SoapBindings.Proofs.Document.Merging
import SoapBindings.Proofs.Url.Relative

namespace SoapBindings.Document

open Wsdl Xsd

variable {web : Web}

/-! ## Packages of references and of URLs -/

/-- The package of a location without a query is that of its last segment. -/
theorem schemaIdentifier_eq {location : String}
    (hmarks : ∀ c ∈ location.toList, c ≠ '?' ∧ c ≠ '#')
    (hback : '\\' ∉ Url.lastSegment location.toList) :
    schemaIdentifier location =
      String.ofList (dropXsd ((Url.lastSegment location.toList).filter (· != '.'))) := by
  have hpath : location.toList.takeWhile (fun c => c != '?' && c != '#') = location.toList := by
    refine List.takeWhile_eq_self_iff.mpr fun c hc => ?_
    rw [bne_iff_ne.mpr (hmarks c hc).1, bne_iff_ne.mpr (hmarks c hc).2]
    rfl
  have hsegment : location.toList.reverse.takeWhile (fun c => c != '/' && c != '\\') =
      location.toList.reverse.takeWhile (· != '/') := by
    have hboth := List.takeWhile_takeWhile (· != '\\') (· != '/') location.toList.reverse
    have hall : (location.toList.reverse.takeWhile (· != '/')).takeWhile (· != '\\') =
        location.toList.reverse.takeWhile (· != '/') :=
      List.takeWhile_eq_self_iff.mpr fun c hc => bne_iff_ne.mpr fun heq =>
        hback (heq ▸ List.mem_reverse.mpr hc)
    rw [← hall, hboth]
    simp only [Bool.decide_and, Bool.decide_eq_true, Bool.and_comm]
  unfold schemaIdentifier
  simp only [hpath, hsegment]
  rfl

theorem pathText_last {url : Url} {segment : List Char} (h : url.EndsAt segment)
    (hsegment : '/' ∉ (Url.endingAt segment).toList) :
    Url.lastSegment url.pathText.toList = (Url.endingAt segment).toList := by
  obtain ⟨names, hpath, hlast⟩ := h
  obtain ⟨front, rfl⟩ := List.getLast?_eq_some_iff.mp hlast
  have htext : url.pathText.toList =
      (String.join (front.map ("/" ++ ·))).toList ++ '/' :: (Url.endingAt segment).toList := by
    unfold Url.pathText
    rw [hpath]
    simp [String.join]
  rw [htext, Url.lastSegment_append hsegment]

/-- What is left of dots is nothing, as of the empty segment that they leave. -/
theorem endingAt_filter {segment : List Char} (h : ∀ c ∈ segment, Url.isPlain c = true) :
    (Url.endingAt segment).toList.filter (· != '.') = segment.filter (· != '.') := by
  unfold Url.endingAt
  split
  · next hdots =>
      rw [String.toList_empty]
      refine (List.filter_eq_nil_iff.mpr fun c hc => ?_).symm
      rw [Url.dots_plain h hdots c hc]
      exact Bool.false_ne_true
  · rw [String.toList_ofList]

theorem mem_endingAt {segment : List Char} {c : Char} (h : c ∈ (Url.endingAt segment).toList) :
    c ∈ segment := by
  unfold Url.endingAt at h
  split at h
  · rw [String.toList_empty] at h
    cases h
  · rwa [String.toList_ofList] at h

/-- **A plain reference has the package of what it leads to.** -/
theorem schemaIdentifier_plain {location : String} {url : Url}
    (hlocation : Url.IsPlainReference location)
    (hurl : ∀ c ∈ url.pathText.toList, c ≠ '?' ∧ c ≠ '#')
    (h : url.EndsAt (Url.lastSegment location.toList)) :
    schemaIdentifier location = schemaIdentifier url.pathText := by
  have hplain : ∀ c ∈ Url.lastSegment location.toList, Url.isPlain c = true := fun c hc =>
    hlocation.plain c (Url.mem_lastSegment hc)
  have hback : '\\' ∉ Url.lastSegment location.toList := fun hmem =>
    absurd (hplain _ hmem) (by decide)
  have hmarks : ∀ c ∈ location.toList, c ≠ '?' ∧ c ≠ '#' := fun c hc =>
    ⟨Url.isPlain_ne (hlocation.plain c hc) (by decide),
      Url.isPlain_ne (hlocation.plain c hc) (by decide)⟩
  have hlast := pathText_last h fun hslash =>
    (Url.lastSegment_cases location.toList).1 (mem_endingAt hslash)
  have hurlBack : '\\' ∉ Url.lastSegment url.pathText.toList := by
    rw [hlast]
    exact fun hmem => hback (mem_endingAt hmem)
  calc schemaIdentifier location
      = String.ofList (dropXsd ((Url.lastSegment location.toList).filter (· != '.'))) :=
        schemaIdentifier_eq hmarks hback
    _ = String.ofList (dropXsd ((Url.lastSegment url.pathText.toList).filter (· != '.'))) := by
        rw [hlast, endingAt_filter hplain]
    _ = schemaIdentifier url.pathText := (schemaIdentifier_eq hurl hurlBack).symm

/-! ## References back -/

/-- The schemas of a document have places that do not end in a drive,
and refer plainly to what is at the URL. -/
structure RefersPlainly (d : Document) (url : Url) : Prop where
  no_drive : ∀ s ∈ d.schemas, ∀ base, s.location = some base →
    ∀ name, base.segmentsOf.getLast? = some name → Url.isDriveText name = false
  plain : ∀ s ∈ d.schemas, ∀ link ∈ schemaLinks s.identifier s, link.target = .ok url →
    Url.IsPlainReference link.location
  no_query : ∀ c ∈ url.pathText.toList, c ≠ '?' ∧ c ≠ '#'

/-- A plain reference is read against the place of the document that it stands in. -/
theorem target_plain {link : Link} {base url : Url} (hlink : Url.IsPlainReference link.location)
    (hbase : link.base = some base)
    (hdrive : ∀ name, base.segmentsOf.getLast? = some name → Url.isDriveText name = false)
    (h : link.target = .ok url) : url.EndsAt (Url.lastSegment link.location.toList) := by
  unfold Link.target resolveLocation ownUrl? at h
  rw [Url.read_plain_alone hlink.plain, hbase] at h
  simp only [bind, Except.bind] at h
  cases hread : Url.read (some base) link.location with
  | error e =>
      rw [hread] at h
      cases h
  | ok target =>
      rw [hread] at h
      cases h
      exact Url.read_plain hlink hdrive hread

/-- A schema document goes into the package of its URL, and stands alone. -/
theorem loaded_schema {maxDepth : Nat} {source : Source} {url : Url} {d : Document}
    {history : List Url}
    (h : (loadSource web.request maxDepth source (some url) .xsd).after [] = (.ok d, history)) :
    d.rootPackage = schemaIdentifier url.pathText ∧
      ∀ s ∈ d.definitions.schemas, s.identifier = d.rootPackage ∧ s.location = some url := by
  obtain ⟨root, seen, imported, found, hopening, hmerged, -, -⟩ := loadSource_ok h
  have hdefinitions : d.definitions = { root with imports := [] } := by
    rw [importLinks, opening_imports hopening, List.map_nil, Walk.explore_nil,
      Session.after_pure] at hmerged
    exact (Prod.mk.inj (Except.ok.inj (Prod.mk.inj hmerged).1)).1.symm
  refine ⟨?_, fun s hs => (opening_schemas hopening).1 s ?_⟩
  · unfold opening at hopening
    cases hparse : parse source with
    | error e => simp [hparse, bind, Except.bind] at hopening
    | ok parsed =>
        simp only [hparse, bind, Except.bind] at hopening
        cases parsed with
        | definitions parsed => cases hopening
        | schema parsed => exact (Prod.mk.inj (Except.ok.inj hopening)).1.symm
  · rwa [hdefinitions] at hs

/-- The registry of a schema document holds what a walk over references finds, each at the place
that its reference leads to; and only those places are asked for. -/
theorem loaded_finds {maxDepth : Nat} {source : Source} {url : Url} {d : Document}
    {history : List Url}
    (h : (loadSource web.request maxDepth source (some url) .xsd).after [] = (.ok d, history)) :
    ∃ forest,
      (schemaWalk web).Encounters [d.rootPackage]
        (d.definitions.schemas.flatMap (schemaLinks d.rootPackage)) forest ∧
      d.registry.schemas = forest.preorder.map (·.document) ∧
      (∀ find ∈ forest.preorder, schemaIdentifier find.link.location = find.key ∧
        find.document.identifier = find.key ∧
        ∃ place, find.link.target = .ok place ∧ find.document.location = some place) ∧
      history.map some = d.registry.schemas.map (·.location) := by
  obtain ⟨forest, imported, fetched, ⟨hforest, hregistry⟩, -, hhistory,
    ⟨hlocations, hfetched⟩, himported, -⟩ := loaded_registry h
  rw [himported rfl, List.nil_append] at hhistory
  subst fetched
  refine ⟨forest, hforest, hregistry, fun find hfind => ?_, hlocations⟩
  have hkey : schemaIdentifier find.link.location = find.key :=
    Except.ok.inj (hforest.key_eq find hfind)
  obtain ⟨i, hi⟩ := List.mem_iff_getElem?.mp hfind
  have hdocument := hfetched i find hi
  refine ⟨hkey, hdocument.identifier_eq.trans hkey, ?_⟩
  obtain ⟨place, source, parsed, htarget, -, -, hs⟩ := hdocument
  exact ⟨place, htarget, hs ▸ rfl⟩

/-- **When a document is loaded again.**  Whatever the store answers, once a schema document is
loaded from its URL: its package is that of the path of the URL; the URL is asked for again exactly
if a link of the forest in the registry leads there, that is, if a reference does that is the first
of its package; there is then a schema in the registry that has the document's own URL, and only
then; a reference leads back that has another package than the document; and this does not happen if
all references back are plain. -/
theorem root_returns {maxDepth : Nat} {source : Source} {url : Url} {d : Document}
    {history : List Url}
    (h : (loadSource web.request maxDepth source (some url) .xsd).after [] = (.ok d, history)) :
    d.rootPackage = schemaIdentifier url.pathText ∧
    (∃ forest,
      ((schemaWalk web).Encounters [d.rootPackage]
          (d.definitions.schemas.flatMap (schemaLinks d.rootPackage)) forest ∧
        d.registry.schemas = forest.preorder.map (·.document)) ∧
      (url ∈ history ↔ ∃ find ∈ forest.preorder, find.link.target = .ok url)) ∧
    (url ∈ history ↔ ∃ s ∈ d.registry.schemas, s.location = some url) ∧
    (url ∈ history → ∃ s ∈ d.schemas, ∃ link ∈ schemaLinks s.identifier s,
      link.target = .ok url ∧ schemaIdentifier link.location ≠ schemaIdentifier url.pathText) ∧
    (d.RefersPlainly url → url ∉ history) := by
  obtain ⟨hpackage, hown⟩ := loaded_schema h
  obtain ⟨forest, hforest, hregistry, hfound, hlocations⟩ := loaded_finds h
  have hregistered : url ∈ history ↔ ∃ s ∈ d.registry.schemas, s.location = some url := by
    rw [← List.mem_map, ← hlocations]
    simp
  have hled : url ∈ history ↔ ∃ find ∈ forest.preorder, find.link.target = .ok url := by
    rw [hregistered, hregistry]
    simp only [List.mem_map, exists_exists_and_eq_and]
    refine exists_congr fun find => and_congr_right fun hfind => ?_
    obtain ⟨-, -, place, htarget, hplace⟩ := hfound find hfind
    rw [htarget, hplace, Except.ok.injEq, Option.some.injEq]
  have hreferred : url ∈ history → ∃ s ∈ d.schemas, ∃ link ∈ schemaLinks s.identifier s,
      link.target = .ok url ∧ schemaIdentifier link.location ≠ schemaIdentifier url.pathText := by
    intro hmem
    obtain ⟨find, hfind, htarget⟩ := hled.mp hmem
    have hother : schemaIdentifier find.link.location ≠ schemaIdentifier url.pathText := by
      rw [(hfound find hfind).1, ← hpackage]
      have hnodup := hforest.nodup (List.nodup_singleton d.rootPackage)
      exact (List.nodup_append.mp hnodup).2.2 _
        (List.mem_reverse.mpr (List.mem_map_of_mem hfind)) _ List.mem_cons_self
    rcases hforest.link_mem find hfind with hlink | ⟨other, hmem, hlink⟩
    · obtain ⟨s, hs, hlink⟩ := List.mem_flatMap.mp hlink
      rw [← (hown s hs).1] at hlink
      exact ⟨s, List.mem_append_left _ hs, find.link, hlink, htarget, hother⟩
    · refine ⟨other.document, ?_, find.link, ?_, htarget, hother⟩
      · rw [schemas, hregistry]
        exact List.mem_append_right _ (List.mem_map_of_mem hmem)
      · rw [(hfound other hmem).2.1]
        exact hlink
  refine ⟨hpackage, ⟨forest, ⟨hforest, hregistry⟩, hled⟩, hregistered, hreferred, ?_⟩
  rintro ⟨hdrive, hplain, hquery⟩ hmem
  obtain ⟨s, hs, link, hlink, htarget, hother⟩ := hreferred hmem
  have hplace : ∃ place, s.location = some place := by
    rcases List.mem_append.mp hs with hs | hs
    · exact ⟨url, (hown s hs).2⟩
    · rw [hregistry] at hs
      obtain ⟨find, hfind, rfl⟩ := List.mem_map.mp hs
      obtain ⟨-, -, place, -, hplace⟩ := hfound find hfind
      exact ⟨place, hplace⟩
  obtain ⟨place, hplace⟩ := hplace
  have hbase : link.base = some place := by
    obtain ⟨location, -, rfl⟩ := List.mem_map.mp hlink
    exact hplace
  have hreference := hplain s hs link hlink htarget
  exact hother (schemaIdentifier_plain hreference hquery
    (target_plain hreference hbase (hdrive s hs place hplace) htarget))

theorem root_returns_plain :
    ∃ d history, circularLoad = (.ok d, history) ∧ d.RefersPlainly (pageUrl ["root.xsd"]) ∧
      (∃ s ∈ d.schemas, ∃ link ∈ schemaLinks s.identifier s,
        link.target.toOption = some (pageUrl ["root.xsd"])) ∧
      pageUrl ["root.xsd"] ∉ history := by
  have hanswer : circularLoad.1.toOption.map (fun d => decide
      ((∀ s ∈ d.schemas, ∀ base ∈ s.location, ∀ name ∈ base.segmentsOf.getLast?,
          Url.isDriveText name = false) ∧
        (∀ s ∈ d.schemas, ∀ link ∈ schemaLinks s.identifier s,
          Url.IsPlainReference link.location) ∧
        ∃ s ∈ d.schemas, ∃ link ∈ schemaLinks s.identifier s,
          link.target.toOption = some (pageUrl ["root.xsd"]))) = some true := by
    decide +kernel
  rcases hload : circularLoad with ⟨_ | d, history⟩
  · rw [hload] at hanswer
    cases hanswer
  · rw [hload] at hanswer
    obtain ⟨hdrive, hplain, hback⟩ := of_decide_eq_true (Option.some.inj hanswer)
    have hpath :
        ((pageUrl ["root.xsd"]).pathText.toList.all fun c => c != '?' && c != '#') = true := by
      decide
    have hrefers : d.RefersPlainly (pageUrl ["root.xsd"]) :=
      ⟨hdrive, fun s hs link hlink _ => hplain s hs link hlink, fun c hc => by
        simpa using List.all_eq_true.mp hpath c hc⟩
    obtain ⟨-, -, -, -, hnever⟩ := root_returns hload
    exact ⟨d, history, rfl, hrefers, hback, hnever hrefers⟩

/-- Two schemas that include each other, and a name that a URL does not hold as it is. -/
def accentWeb : Web := fun _ url =>
  if url = pageUrl ["menu.xsd"] then .ok (includingSource ["café.xsd"])
  else if url = pageUrl ["caf%C3%A9.xsd"] then .ok (includingSource ["menu.xsd"])
  else .error .unreachable

def accentLoad : Except LoadError Document × List Url :=
  (loadSource accentWeb.request 3 (includingSource ["menu.xsd"])
    (some (pageUrl ["caf%C3%A9.xsd"])) .xsd).after []

/-- A document whose name is encoded is loaded a second time, for a package of its own. -/
theorem root_registered_twice :
    ∃ d history, accentLoad = (.ok d, history) ∧
      d.location = some (pageUrl ["caf%C3%A9.xsd"]) ∧ d.packages = ["caf%C3%A9", "menu", "café"] ∧
      (∃ s ∈ d.registry.schemas, s.location = d.location) ∧
      pageUrl ["caf%C3%A9.xsd"] ∈ history := by
  have hanswer : accentLoad.map
      (·.toOption.map fun d => (d.location, d.packages, d.registry.schemas.map (·.location))) id =
      (some (some (pageUrl ["caf%C3%A9.xsd"]), ["caf%C3%A9", "menu", "café"],
        [some (pageUrl ["menu.xsd"]), some (pageUrl ["caf%C3%A9.xsd"])]),
        [pageUrl ["menu.xsd"], pageUrl ["caf%C3%A9.xsd"]]) := by
    decide +kernel
  rcases hload : accentLoad with ⟨_ | d, history⟩
  · rw [hload] at hanswer
    cases congrArg Prod.fst hanswer
  · rw [hload] at hanswer
    obtain ⟨hdocument, hhistory⟩ := Prod.mk.inj hanswer
    obtain ⟨hlocation, hrest⟩ := Prod.mk.inj (Option.some.inj hdocument)
    obtain ⟨hpackages, hregistry⟩ := Prod.mk.inj hrest
    refine ⟨d, history, rfl, hlocation, hpackages, ?_, ?_⟩
    · rw [← List.mem_map, hlocation, hregistry]
      exact List.mem_cons_of_mem _ List.mem_cons_self
    · rw [show history = _ from hhistory]
      exact List.mem_cons_of_mem _ List.mem_cons_self

end SoapBindings.Document
