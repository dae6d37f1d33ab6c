/-
# `SoapBindings.Proofs.Document.Ending` — loading comes to an end

Documents may refer to each other in circles, and a store may have another new document for every
request.  Still loading ends, and it takes nothing from the store but what it needs: loading is a
machine whose steps follow one reference each (`Stage`), first from one service description to the
next and then from one schema to the next, and it only stops for a document, an error, or a
reference that is too deep.

The machine itself has no limit.  `Reaches` are the stages that it comes to when it follows no
reference to a new document beyond the limit.
-/
import SoapBindings.Proofs.Document.Links
import SoapBindings.Proofs.Document.Steps

namespace SoapBindings.Document

open Relation (ReflTransGen)
open Wsdl Xsd

/-! ## Requests of the two walks -/

section Requests

variable {web : Web} {link : Link} {history : List Url}

/-- Asking for a document and making something of it that only its content can spoil. -/
theorem asked_bind {ν : Type} {url : Url} {f : Source → Session ν} (htarget : link.target = .ok url)
    (hf : ∀ source,
      (∃ e, OfContent e ∧ f source = throw e) ∨ ∃ document, f source = pure document) :
    Walk.Asked web link history (Session.after (web.request url >>= f) history) := by
  rw [Session.after_bind, Session.after_request]
  cases hanswer : web history url with
  | error e => exact .refused htarget hanswer
  | ok source =>
      show Walk.Asked web link history (Session.after (f source) (history ++ [url]))
      obtain ⟨e, hcontent, hf⟩ | ⟨document, hf⟩ := hf source
      · rw [hf, Session.after_throw]
        exact .unreadable htarget hanswer hcontent
      · rw [hf, Session.after_pure]
        exact .found htarget hanswer

theorem fetchDefinitions_asked {url : Url} (htarget : link.target = .ok url) :
    Walk.Asked web link history (Session.after (fetchDefinitions web.request url) history) := by
  refine asked_bind htarget fun source => ?_
  cases hparse : parse source with
  | error e => exact .inl ⟨e, (parse_reads source).of_error hparse, rfl⟩
  | ok parsed =>
      cases parsed with
      | definitions d => exact .inr ⟨_, rfl⟩
      | schema s => exact .inl ⟨_, .invalid _, rfl⟩

theorem fetchSchema_asked {url : Url} {package : String} (htarget : link.target = .ok url) :
    Walk.Asked web link history (Session.after (fetchSchema web.request package url) history) := by
  refine asked_bind htarget fun source => ?_
  cases hparse : parse source with
  | error e => exact .inl ⟨e, (parse_reads source).of_error hparse, rfl⟩
  | ok parsed =>
      cases parsed with
      | schema s => exact .inr ⟨_, rfl⟩
      | definitions d => exact .inl ⟨_, .invalid _, rfl⟩

theorem importWalk_asks (web : Web) : (importWalk web).Asks web where
  key_error h := h
  visit htarget houtcome := houtcome ▸ fetchDefinitions_asked htarget

theorem schemaWalk_asks (web : Web) : (schemaWalk web).Asks web where
  key_error h := nomatch h
  visit {link package history outcome} _ houtcome := by
    subst houtcome
    show Walk.Asked web link history (Session.after (settle link.target >>= _) history)
    cases htarget : link.target with
    | error e => exact .nowhere htarget
    | ok url => exact fetchSchema_asked htarget

end Requests

/-! ## Stages of loading -/

/-- How far loading has come. -/
inductive Stage
  | merging (rootPackage : String) (place : Place (Definitions × List Url))
  | discovering (rootPackage : String) (definitions : Definitions) (place : Place Discovery)

namespace Stage

/-- Loading begins with what the document defines itself. -/
def start (base : Option Url) (rootPackage : String) (root : Definitions) : Stage :=
  .merging rootPackage
    ⟨atDepth 1 (importLinks base root), ({ root with imports := [] }, base.toList), []⟩

def history : Stage → List Url
  | merging _ place => place.history
  | discovering _ _ place => place.history

def pending : Stage → List (Link × Nat)
  | merging _ place => place.pending
  | discovering _ _ place => place.pending

/-- The references of the merged schemas are turned to once no import is left. -/
def turn (kind : DocumentKind) (rootPackage : String) (definitions : Definitions)
    (history : List Url) : Stage :=
  .discovering rootPackage definitions
    ⟨atDepth 1 (definitions.schemas.flatMap (schemaLinks rootPackage)),
      { seen := knownPackages kind rootPackage }, history⟩

variable (web : Web) (kind : DocumentKind) (base : Option Url) (maxDepth : Nat)

/-- The next reference is to a document that is not known yet. -/
inductive Meets : Stage → Link → Nat → Prop
  | merging {rootPackage place link depth} (h : (importWalk web).Meets place link depth) :
      Meets (.merging rootPackage place) link depth
  | discovering {rootPackage definitions place link depth}
      (h : (schemaWalk web).Meets place link depth) :
      Meets (.discovering rootPackage definitions place) link depth

/-- Loading goes on: a walk goes on within the limit, or the second begins. -/
inductive Goes : Stage → Stage → Prop
  | merge {rootPackage p q} (h : (importWalk web).Goes maxDepth p q) :
      Goes (.merging rootPackage p) (.merging rootPackage q)
  | turn {rootPackage definitions seen history} :
      Goes (.merging rootPackage ⟨[], (definitions, seen), history⟩)
        (turn kind rootPackage definitions history)
  | discover {rootPackage definitions p q} (h : (schemaWalk web).Goes maxDepth p q) :
      Goes (.discovering rootPackage definitions p) (.discovering rootPackage definitions q)

/-- Loading ends here, and with this outcome. -/
inductive Ends : Stage → Except LoadError Document × List Url → Prop
  | unmerged {rootPackage place e history}
      (h : (importWalk web).Stops maxDepth place e history) :
      Ends (.merging rootPackage place) (.error e, history)
  | undiscovered {rootPackage definitions place e history}
      (h : (schemaWalk web).Stops maxDepth place e history) :
      Ends (.discovering rootPackage definitions place) (.error e, history)
  | loaded {rootPackage definitions found history} :
      Ends (.discovering rootPackage definitions ⟨[], found, history⟩)
        (.ok { kind, location := base, rootPackage, definitions, registry := found.registry },
          history)

/-- The requests after the next reference. -/
inductive Requests : Stage → List Url → Prop
  | none {s} : Requests s s.history
  | one {s link depth url} (hmeets : s.Meets web link depth) (hdepth : depth ≤ maxDepth)
      (htarget : link.target = .ok url) : Requests s (s.history ++ [url])

variable {web kind base maxDepth}

theorem Meets.mem_pending {s : Stage} {link : Link} {depth : Nat} (h : s.Meets web link depth) :
    (link, depth) ∈ s.pending := by
  cases h with
  | merging h | discovering h =>
      cases h with
      | new _ _ => exact List.mem_cons_self

theorem Meets.tooDeep {s : Stage} {link : Link} {depth : Nat} (h : s.Meets web link depth)
    (hdepth : maxDepth < depth) :
    s.Ends web kind base maxDepth (.error (.recursionLimit link.location maxDepth), s.history) := by
  cases h with
  | merging h => exact .unmerged (h.tooDeep hdepth)
  | discovering h => exact .undiscovered (h.tooDeep hdepth)

theorem Meets.refused {s : Stage} {link : Link} {depth : Nat} {url : Url} {e : LoadError}
    (h : s.Meets web link depth) (hdepth : depth ≤ maxDepth) (htarget : link.target = .ok url)
    (hanswer : web s.history url = .error e) :
    s.Ends web kind base maxDepth (.error e, s.history ++ [url]) := by
  cases h with
  | merging h => exact .unmerged (h.refused (importWalk_asks web) hdepth htarget hanswer)
  | discovering h => exact .undiscovered (h.refused (schemaWalk_asks web) hdepth htarget hanswer)

theorem requests_merging {rootPackage : String} {place : Place (Definitions × List Url)}
    {history : List Url} (h : (importWalk web).Requests maxDepth place history) :
    Requests web maxDepth (.merging rootPackage place) history := by
  cases h with
  | none => exact .none
  | one hmeets hdepth htarget => exact .one (.merging hmeets) hdepth htarget

theorem requests_discovering {rootPackage : String} {definitions : Definitions}
    {place : Place Discovery} {history : List Url}
    (h : (schemaWalk web).Requests maxDepth place history) :
    Requests web maxDepth (.discovering rootPackage definitions place) history := by
  cases h with
  | none => exact .none
  | one hmeets hdepth htarget => exact .one (.discovering hmeets) hdepth htarget

theorem Goes.requests {s s' : Stage} (h : s.Goes web kind maxDepth s') :
    s.Requests web maxDepth s'.history := by
  cases h with
  | merge h => exact requests_merging (h.requests (importWalk_asks web))
  | turn => exact .none
  | discover h => exact requests_discovering (h.requests (schemaWalk_asks web))

theorem Ends.requests {s : Stage} {outcome : Except LoadError Document × List Url}
    (h : s.Ends web kind base maxDepth outcome) : s.Requests web maxDepth outcome.2 := by
  cases h with
  | unmerged h => exact requests_merging (h.requests (importWalk_asks web))
  | undiscovered h => exact requests_discovering (h.requests (schemaWalk_asks web))
  | loaded => exact .none

/-! ## Loading goes one way -/

theorem Goes.unique {s s₁ s₂ : Stage} (h₁ : s.Goes web kind maxDepth s₁)
    (h₂ : s.Goes web kind maxDepth s₂) : s₁ = s₂ := by
  cases h₁ with
  | merge h₁ =>
      cases h₂ with
      | merge h₂ => rw [h₁.2.unique h₂.2]
      | turn => cases h₁.2
  | turn =>
      cases h₂ with
      | merge h₂ => cases h₂.2
      | turn => rfl
  | discover h₁ =>
      cases h₂ with
      | discover h₂ => rw [h₁.2.unique h₂.2]

theorem Ends.not_goes {s s' : Stage} {outcome : Except LoadError Document × List Url}
    (h : s.Ends web kind base maxDepth outcome) : ¬ s.Goes web kind maxDepth s' := by
  intro hgoes
  cases h with
  | unmerged hstops =>
      cases hgoes with
      | merge hgoes => exact hstops.not_goes hgoes
      | turn => cases hstops
  | undiscovered hstops =>
      cases hgoes with
      | discover hgoes => exact hstops.not_goes hgoes
  | loaded =>
      cases hgoes with
      | discover hgoes => cases hgoes.2

theorem Ends.unique {s : Stage} {outcome outcome' : Except LoadError Document × List Url}
    (h : s.Ends web kind base maxDepth outcome) (h' : s.Ends web kind base maxDepth outcome') :
    outcome = outcome' := by
  cases h with
  | unmerged hstops =>
      cases h' with
      | unmerged hstops' =>
          obtain ⟨rfl, rfl⟩ := hstops.unique hstops'
          rfl
  | undiscovered hstops =>
      cases h' with
      | undiscovered hstops' =>
          obtain ⟨rfl, rfl⟩ := hstops.unique hstops'
          rfl
      | loaded => cases hstops
  | loaded =>
      cases h' with
      | undiscovered hstops => cases hstops
      | loaded => rfl

/-- A stage where loading ends comes last. -/
theorem Ends.last {s s' : Stage} {outcome : Except LoadError Document × List Url}
    (h : s.Ends web kind base maxDepth outcome)
    (hgoes : ReflTransGen (Goes web kind maxDepth) s s') : s = s' := by
  obtain rfl | ⟨_, hfirst, _⟩ := hgoes.cases_head
  · rfl
  · exact absurd hfirst h.not_goes

/-- **Loading within the limit ends**, whatever the store answers. -/
theorem goes_wellFounded (web : Web) (kind : DocumentKind) (maxDepth : Nat) :
    WellFounded fun after before : Stage => before.Goes web kind maxDepth after := by
  have hdiscovering rootPackage definitions place :
      Acc (fun after before : Stage => before.Goes web kind maxDepth after)
        (.discovering rootPackage definitions place) := by
    have hwalk : (schemaWalk web).Terminates maxDepth place := Walk.terminates place
    induction hwalk with
    | intro place _ ih =>
        refine ⟨_, fun after hgoes => ?_⟩
        cases hgoes with
        | discover hgoes => exact ih _ hgoes
  have hmerging rootPackage place :
      Acc (fun after before : Stage => before.Goes web kind maxDepth after)
        (.merging rootPackage place) := by
    have hwalk : (importWalk web).Terminates maxDepth place := Walk.terminates place
    induction hwalk with
    | intro place _ ih =>
        refine ⟨_, fun after hgoes => ?_⟩
        cases hgoes with
        | merge hgoes => exact ih _ hgoes
        | turn => exact hdiscovering _ _ _
  refine ⟨fun s => ?_⟩
  cases s with
  | merging rootPackage place => exact hmerging rootPackage place
  | discovering rootPackage definitions place => exact hdiscovering rootPackage definitions place

end Stage

/-! ## Loading as a run of the machine -/

variable (web : Web) (source : Source) (base : Option Url) (kind : DocumentKind) (maxDepth : Nat)

/-- Loading comes to a stage. -/
inductive Reaches : Stage → Prop
  | intro {rootPackage root s} (hopening : opening source base kind = .ok (rootPackage, root))
      (hgoes : ReflTransGen (Stage.Goes web kind maxDepth) (.start base rootPackage root) s) :
      Reaches s

variable {web source base kind maxDepth}

theorem Reaches.trans {s s' : Stage} (hs : Reaches web source base kind maxDepth s)
    (hgoes : ReflTransGen (Stage.Goes web kind maxDepth) s s') :
    Reaches web source base kind maxDepth s' := by
  obtain ⟨hopening, hstart⟩ := hs
  exact ⟨hopening, hstart.trans hgoes⟩

section Walks

variable {rootPackage : String} {root definitions : Definitions} {seen history history' : List Url}

/-- If the first walk succeeds, the second begins. -/
theorem Reaches.merged (hopening : opening source base kind = .ok (rootPackage, root))
    (hwalk : ((importWalk web).explore maxDepth maxDepth (importLinks base root)
      ({ root with imports := [] }, base.toList)).after [] = (.ok (definitions, seen), history)) :
    Reaches web source base kind maxDepth (.turn kind rootPackage definitions history) := by
  have hgoes := Walk.explore_comes (importWalk web) maxDepth (importLinks base root)
    ({ root with imports := [] }, base.toList) []
  rw [hwalk] at hgoes
  exact ⟨hopening, (hgoes.lift (Stage.merging rootPackage) fun _ _ => .merge).tail .turn⟩

theorem Reaches.unmerged {e : LoadError}
    (hopening : opening source base kind = .ok (rootPackage, root))
    (hwalk : ((importWalk web).explore maxDepth maxDepth (importLinks base root)
      ({ root with imports := [] }, base.toList)).after [] = (.error e, history)) :
    ∃ s, Reaches web source base kind maxDepth s ∧
      s.Ends web kind base maxDepth (.error e, history) := by
  have hcomes := Walk.explore_comes (importWalk web) maxDepth (importLinks base root)
    ({ root with imports := [] }, base.toList) []
  rw [hwalk] at hcomes
  obtain ⟨place, hgoes, hstops⟩ := hcomes
  exact ⟨.merging rootPackage place,
    ⟨hopening, hgoes.lift (Stage.merging rootPackage) fun _ _ => .merge⟩, .unmerged hstops⟩

/-- If the second walk succeeds as well, the document is loaded. -/
theorem Reaches.discovered {found : Discovery}
    (hs : Reaches web source base kind maxDepth (.turn kind rootPackage definitions history))
    (hwalk : ((schemaWalk web).explore maxDepth maxDepth
      (definitions.schemas.flatMap (schemaLinks rootPackage))
      { seen := knownPackages kind rootPackage }).after history = (.ok found, history')) :
    Reaches web source base kind maxDepth
      (.discovering rootPackage definitions ⟨[], found, history'⟩) := by
  have hgoes := Walk.explore_comes (schemaWalk web) maxDepth
    (definitions.schemas.flatMap (schemaLinks rootPackage))
    { seen := knownPackages kind rootPackage } history
  rw [hwalk] at hgoes
  exact hs.trans (hgoes.lift (Stage.discovering rootPackage definitions) fun _ _ => .discover)

theorem Reaches.undiscovered {e : LoadError}
    (hs : Reaches web source base kind maxDepth (.turn kind rootPackage definitions history))
    (hwalk : ((schemaWalk web).explore maxDepth maxDepth
      (definitions.schemas.flatMap (schemaLinks rootPackage))
      { seen := knownPackages kind rootPackage }).after history = (.error e, history')) :
    ∃ s, Reaches web source base kind maxDepth s ∧
      s.Ends web kind base maxDepth (.error e, history') := by
  have hcomes := Walk.explore_comes (schemaWalk web) maxDepth
    (definitions.schemas.flatMap (schemaLinks rootPackage))
    { seen := knownPackages kind rootPackage } history
  rw [hwalk] at hcomes
  obtain ⟨place, hgoes, hstops⟩ := hcomes
  exact ⟨.discovering rootPackage definitions place,
    hs.trans (hgoes.lift (Stage.discovering rootPackage definitions) fun _ _ => .discover),
    .undiscovered hstops⟩

end Walks

variable (web source base kind maxDepth) in
/-- Loading fails for the document itself, or goes on from it to a stage where it ends. -/
theorem loadSource_ends :
    (∃ e, opening source base kind = .error e ∧
      (loadSource web.request maxDepth source base kind).after [] = (.error e, [])) ∨
    ∃ s, Reaches web source base kind maxDepth s ∧ s.Ends web kind base maxDepth
      ((loadSource web.request maxDepth source base kind).after []) := by
  rw [loadSource_eq]
  cases hopening : opening source base kind with
  | error e => exact .inl ⟨e, rfl, rfl⟩
  | ok root =>
      obtain ⟨rootPackage, root⟩ := root
      refine .inr ?_
      simp only [Session.settle_ok, pure_bind]
      rcases hmerged : ((importWalk web).explore maxDepth maxDepth (importLinks base root)
        ({ root with imports := [] }, base.toList)).after [] with
      ⟨e | ⟨definitions, seen⟩, history₁⟩
      · rw [Session.after_bind_error hmerged]
        exact Reaches.unmerged hopening hmerged
      · rw [Session.after_bind_ok hmerged]
        have hturn := Reaches.merged hopening hmerged
        rcases hfound : ((schemaWalk web).explore maxDepth maxDepth
          (definitions.schemas.flatMap (schemaLinks rootPackage))
          { seen := knownPackages kind rootPackage }).after history₁ with ⟨e | found, history₂⟩
        · rw [Session.after_bind_error hfound]
          exact hturn.undiscovered hfound
        · rw [Session.after_bind_ok hfound]
          exact ⟨_, hturn.discovered hfound, .loaded⟩

/-- Loading comes to one end. -/
theorem Reaches.outcome {s : Stage} {outcome : Except LoadError Document × List Url}
    (hs : Reaches web source base kind maxDepth s) (hends : s.Ends web kind base maxDepth outcome) :
    (loadSource web.request maxDepth source base kind).after [] = outcome := by
  obtain ⟨hopening, hgoes⟩ := hs
  obtain ⟨e, hopening', -⟩ | ⟨s', ⟨hopening', hgoes'⟩, hends'⟩ :=
    loadSource_ends web source base kind maxDepth
  · cases hopening.symm.trans hopening'
  · cases hopening.symm.trans hopening'
    -- both stages are last in runs of one machine
    obtain hgoes | hgoes := ReflTransGen.total_of_right_unique
      (fun _ _ _ h₁ h₂ => h₁.unique h₂) hgoes hgoes'
    · obtain rfl := hends.last hgoes
      exact hends'.unique hends
    · obtain rfl := hends'.last hgoes
      exact hends'.unique hends

/-! ## What loading does on its way -/

/-- Nothing is pending that is more than one document beyond the limit. -/
theorem Reaches.shallow {s : Stage} (h : Reaches web source base kind maxDepth s) :
    ∀ next ∈ s.pending, next.2 ≤ maxDepth + 1 := by
  have hfirst (links : List Link) : ∀ next ∈ atDepth 1 links, next.2 ≤ maxDepth + 1 := by
    intro next hnext
    obtain ⟨link, -, rfl⟩ := List.mem_map.mp hnext
    exact Nat.le_add_left 1 maxDepth
  obtain ⟨hopening, hgoes⟩ := h
  induction hgoes with
  | refl => exact hfirst _
  | tail _ hstep ih =>
      cases hstep with
      | merge h => exact h.shallow ih
      | turn => exact hfirst _
      | discover h => exact h.shallow ih

variable (web source base kind maxDepth) in
/-- A request was made at a stage that loading comes to, for where a reference to a new document
leads that is not too deep. -/
def Requested (history : List Url) (url : Url) : Prop :=
  ∃ s link depth, Reaches web source base kind maxDepth s ∧ s.Meets web link depth ∧
    depth ≤ maxDepth ∧ link.target = .ok url ∧ s.history = history

/-- The requests of a stage that loading comes to, and after it, were made for references. -/
theorem Reaches.requests {s : Stage} {history : List Url}
    (hs : Reaches web source base kind maxDepth s) (h : s.Requests web maxDepth history)
    (hall : ∀ i url, s.history[i]? = some url →
      Requested web source base kind maxDepth (s.history.take i) url) :
    ∀ i url, history[i]? = some url →
      Requested web source base kind maxDepth (history.take i) url := by
  cases h with
  | none => exact hall
  | @one link depth _ hmeets hdepth htarget =>
      intro i url' hi
      obtain hlt | hge := Nat.lt_or_ge i s.history.length
      · rw [List.getElem?_append_left hlt] at hi
        rw [List.take_append_of_le_length (Nat.le_of_lt hlt)]
        exact hall i url' hi
      · rw [List.getElem?_append_right hge, List.getElem?_singleton] at hi
        split at hi
        · obtain rfl := Option.some.inj hi
          obtain rfl : i = s.history.length := by omega
          rw [List.take_left]
          exact ⟨s, link, depth, hs, hmeets, hdepth, htarget, rfl⟩
        · cases hi

/-- Every request on the way to a stage was made for a reference. -/
theorem Reaches.requested {s : Stage} (h : Reaches web source base kind maxDepth s) :
    ∀ i url, s.history[i]? = some url →
      Requested web source base kind maxDepth (s.history.take i) url := by
  obtain ⟨hopening, hgoes⟩ := h
  induction hgoes with
  | refl => exact fun i url hi => nomatch hi
  | tail hgoes hstep ih => exact Reaches.requests ⟨hopening, hgoes⟩ hstep.requests ih

/-- Where loading ends at the limit. -/
theorem Reaches.of_limit {s : Stage} {location : String} {n : Nat} {history : List Url}
    (hs : Reaches web source base kind maxDepth s)
    (hends : s.Ends web kind base maxDepth (.error (.recursionLimit location n), history)) :
    (n = maxDepth ∧ ∃ link, s.Meets web link (maxDepth + 1) ∧ link.location = location) ∨
      ∃ url, Requested web source base kind maxDepth s.history url ∧
        web s.history url = .error (.recursionLimit location n) := by
  have hshallow {link : Link} {depth : Nat} (h : s.Meets web link depth) : depth ≤ maxDepth + 1 :=
    hs.shallow (link, depth) h.mem_pending
  cases hends with
  | unmerged h =>
      obtain ⟨link, depth, hmeets, hdepth, hlocation, hn⟩ |
        ⟨link, depth, url, hmeets, hdepth, htarget, hanswer⟩ := h.of_limit (importWalk_asks web)
      · obtain rfl : depth = maxDepth + 1 := Nat.le_antisymm (hshallow (.merging hmeets)) hdepth
        exact .inl ⟨hn, link, .merging hmeets, hlocation⟩
      · exact .inr ⟨url, ⟨_, link, depth, hs, .merging hmeets, hdepth, htarget, rfl⟩, hanswer⟩
  | undiscovered h =>
      obtain ⟨link, depth, hmeets, hdepth, hlocation, hn⟩ |
        ⟨link, depth, url, hmeets, hdepth, htarget, hanswer⟩ := h.of_limit (schemaWalk_asks web)
      · obtain rfl : depth = maxDepth + 1 :=
          Nat.le_antisymm (hshallow (.discovering hmeets)) hdepth
        exact .inl ⟨hn, link, .discovering hmeets, hlocation⟩
      · exact .inr ⟨url, ⟨_, link, depth, hs, .discovering hmeets, hdepth, htarget, rfl⟩, hanswer⟩

theorem opening_reads (source : Source) (base : Option Url) (kind : DocumentKind) (e : LoadError)
    (h : opening source base kind = .error e) : OfContent e :=
  Reads.of_error (Yields.bind_iff.mpr
    ((parse_reads source).mono id fun _ => rootDefinitions_reads kind base _)) h

/-- **Loading ends on any web of documents.**  Whatever the store answers,
loading is a run of a machine that has no run without end, and comes to where that run ends;
every request was made at a stage of that run for a reference at most `maxDepth` documents deep;
and the answer is that the limit was reached exactly if the run comes to a reference to a new
document one deeper than that, unless the store gives this answer itself. -/
theorem loading_ends (web : Web) (source : Source) (base : Option Url) (kind : DocumentKind)
    (maxDepth : Nat) :
    let load := (loadSource web.request maxDepth source base kind).after []
    (WellFounded (fun after before : Stage => before.Goes web kind maxDepth after) ∧
      ((∃ e, opening source base kind = .error e ∧ load = (.error e, [])) ∨
        ∃ s, Reaches web source base kind maxDepth s ∧ s.Ends web kind base maxDepth load)) ∧
    (∀ i url, load.2[i]? = some url →
      Requested web source base kind maxDepth (load.2.take i) url) ∧
    ∀ location n, load.1 = .error (.recursionLimit location n) ↔
      (n = maxDepth ∧ ∃ s link, Reaches web source base kind maxDepth s ∧
        s.Meets web link (maxDepth + 1) ∧ link.location = location) ∨
      ∃ history url, Requested web source base kind maxDepth history url ∧
        web history url = .error (.recursionLimit location n) := by
  intro load
  have hload : (∃ e, opening source base kind = .error e ∧ load = (.error e, [])) ∨
      ∃ s, Reaches web source base kind maxDepth s ∧ s.Ends web kind base maxDepth load :=
    loadSource_ends web source base kind maxDepth
  have houtcome {s outcome} (hs : Reaches web source base kind maxDepth s)
      (hends : s.Ends web kind base maxDepth outcome) : load = outcome := hs.outcome hends
  clear_value load
  refine ⟨⟨Stage.goes_wellFounded web kind maxDepth, hload⟩, ?_, fun location n => ⟨?_, ?_⟩⟩
  · obtain ⟨e, -, rfl⟩ | ⟨s, hs, hends⟩ := hload
    · exact fun i url hi => nomatch hi
    · exact hs.requests hends.requests hs.requested
  · obtain ⟨answer, history⟩ := load
    rintro rfl
    obtain ⟨e, hopening, hfailed⟩ | ⟨s, hs, hends⟩ := hload
    · cases hfailed
      cases opening_reads source base kind _ hopening
    · obtain ⟨hn, link, hmeets, hlocation⟩ | ⟨url, hrequested, hanswer⟩ := hs.of_limit hends
      · exact .inl ⟨hn, s, link, hs, hmeets, hlocation⟩
      · exact .inr ⟨s.history, url, hrequested, hanswer⟩
  · rintro (⟨rfl, s, link, hs, hmeets, rfl⟩ | ⟨_, url, hrequested, hanswer⟩)
    · rw [houtcome hs (hmeets.tooDeep (Nat.lt_succ_self n))]
    · obtain ⟨s, link, depth, hs, hmeets, hdepth, htarget, rfl⟩ := hrequested
      rw [houtcome hs (hmeets.refused hdepth htarget hanswer)]

end SoapBindings.Document
