/-
# `SoapBindings.Proofs.Document.Walk` — walks along references

A loader walks along references twice, first through imported service descriptions and then through
schemas.  `Walk` is what the two have in common: links have a key, which is known once a document
was recorded under it, and a document that is not known yet is visited, recorded, and walked through
before the next link has its turn.

`Walk.explore` does so to a bounded depth.  `Walk.Runs` relates the same walk to its outcome, with a
rule for each turn that it can take and with the depth itself in place of a bound that runs out; all
that is said of walks is proved by induction on it.  What a walk finds forms a forest (`Forest`),
and `Walk.Encounters` says how the forest follows from the links.
-/
import SoapBindings.Proofs.Document.Session

namespace SoapBindings.Document

/-- A reference as it stands in a document. -/
structure Link where
  location : String
  /-- The URL of the document. -/
  base : Option Url
  /-- How errors name the document. -/
  referrer : String

/-- The URL that a link leads to. -/
def Link.target (link : Link) : Except LoadError Url :=
  resolveLocation link.location link.base link.referrer

structure Walk (κ ν τ : Type) where
  /-- What the document behind a link is known by. -/
  key : Link → Except LoadError κ
  /-- Fetch the document behind a link. -/
  visit : Link → κ → Session ν
  links : κ → ν → List Link
  /-- The keys that are known, the latest first. -/
  seen : τ → List κ
  record : τ → κ → ν → τ
  seen_record : ∀ t k v, seen (record t k v) = k :: seen t

/-- A document that was found, with the link that led there first. -/
structure Find (κ ν : Type) where
  link : Link
  key : κ
  document : ν

/-- Trees in a row: the root of the first, the trees below it, and the trees beside it. -/
inductive Forest (α : Type) where
  | none
  | tree (root : α) (below beside : Forest α)

/-- Every root before all below it, and that before all beside it. -/
def Forest.preorder {α : Type} : Forest α → List α
  | none => []
  | tree root below beside => root :: (below.preorder ++ beside.preorder)

namespace Walk

variable {κ ν τ : Type} [DecidableEq κ] (w : Walk κ ν τ) (maxDepth : Nat)

/-- Follow one link.  `deeper` walks through the document found there, and is absent at the depth
limit. -/
def follow (deeper : Option (List Link → τ → Session τ)) (t : τ) (link : Link) : Session τ := do
  let key ← settle (w.key link)
  if (w.seen t).contains key then return t
  match deeper with
  | none => throw (.recursionLimit link.location maxDepth)
  | some deeper =>
    let document ← w.visit link key
    deeper (w.links key document) (w.record t key document)

/-- Follow some links, `levels` deep. -/
def explore : Nat → List Link → τ → Session τ
  | 0, links, t => links.foldlM (w.follow maxDepth none) t
  | levels + 1, links, t => links.foldlM (w.follow maxDepth (some (explore levels))) t

/-- What `explore` has for the documents that it finds. -/
def below : Nat → Option (List Link → τ → Session τ)
  | 0 => none
  | levels + 1 => some (w.explore maxDepth levels)

variable {w maxDepth}

theorem explore_nil (levels : Nat) (t : τ) : w.explore maxDepth levels [] t = pure t := by
  cases levels <;> rfl

theorem explore_cons (levels : Nat) (link : Link) (links : List Link) (t : τ) :
    w.explore maxDepth levels (link :: links) t =
      w.follow maxDepth (w.below maxDepth levels) t link >>= w.explore maxDepth levels links := by
  cases levels <;> exact List.foldlM_cons

theorem explore_append (levels : Nat) (links more : List Link) (t : τ) :
    w.explore maxDepth levels (links ++ more) t =
      w.explore maxDepth levels links t >>= w.explore maxDepth levels more := by
  cases levels <;> exact List.foldlM_append

/-! ## Changes that a walk does not notice -/

section Change

variable (change : τ → τ) (hseen : ∀ t, w.seen (change t) = w.seen t)
  (hrecord : ∀ t k v, w.record (change t) k v = change (w.record t k v))

include hseen hrecord

theorem explore_change_of_below {levels : Nat}
    (hdeeper : ∀ deeper, w.below maxDepth levels = some deeper →
      ∀ links t, deeper links (change t) = change <$> deeper links t)
    (links : List Link) (t : τ) :
    w.explore maxDepth levels links (change t) = change <$> w.explore maxDepth levels links t := by
  induction links generalizing t with
  | nil => simp only [explore_nil, map_pure]
  | cons link links ih =>
      have hlink : w.follow maxDepth (w.below maxDepth levels) (change t) link =
          change <$> w.follow maxDepth (w.below maxDepth levels) t link := by
        unfold follow
        rw [map_bind]
        refine bind_congr fun key => ?_
        rw [hseen]
        split
        · exact (map_pure change t).symm
        · cases hbelow : w.below maxDepth levels with
          | none => rfl
          | some deeper =>
              rw [map_bind]
              refine bind_congr fun document => ?_
              rw [hrecord]
              exact hdeeper deeper hbelow _ _
      rw [explore_cons, explore_cons, hlink, map_bind, bind_map_left]
      exact bind_congr fun t => ih t

/-- A change of what was found that leaves alone what is known may as well be made afterwards. -/
theorem explore_change (levels : Nat) (links : List Link) (t : τ) :
    w.explore maxDepth levels links (change t) = change <$> w.explore maxDepth levels links t := by
  induction levels generalizing links t with
  | zero => exact explore_change_of_below change hseen hrecord (fun _ h => by cases h) links t
  | succ levels ih =>
      refine explore_change_of_below change hseen hrecord (fun deeper h => ?_) links t
      obtain rfl := Option.some.inj h
      exact ih

end Change

/-! ## Walks and their outcomes -/

variable (w maxDepth) in
/-- The walk along some links, `depth` documents below the start, comes to an outcome. -/
inductive Runs : Nat → List Link → τ → List Url → Except LoadError τ × List Url → Prop
  | done {depth t history} : Runs depth [] t history (.ok t, history)
  | unresolved {depth link links t history e} (hkey : w.key link = .error e) :
      Runs depth (link :: links) t history (.error e, history)
  | known {depth link links t history key outcome} (hkey : w.key link = .ok key)
      (hseen : key ∈ w.seen t) (hrest : Runs depth links t history outcome) :
      Runs depth (link :: links) t history outcome
  | tooDeep {depth link links t history key} (hkey : w.key link = .ok key)
      (hnew : key ∉ w.seen t) (hdepth : maxDepth < depth) :
      Runs depth (link :: links) t history
        (.error (.recursionLimit link.location maxDepth), history)
  | failed {depth link links t history history' key e} (hkey : w.key link = .ok key)
      (hnew : key ∉ w.seen t) (hdepth : depth ≤ maxDepth)
      (hvisit : (w.visit link key).after history = (.error e, history')) :
      Runs depth (link :: links) t history (.error e, history')
  | stopped {depth link links t history history₁ history' key document e}
      (hkey : w.key link = .ok key) (hnew : key ∉ w.seen t) (hdepth : depth ≤ maxDepth)
      (hvisit : (w.visit link key).after history = (.ok document, history₁))
      (hbelow : Runs (depth + 1) (w.links key document) (w.record t key document) history₁
        (.error e, history')) :
      Runs depth (link :: links) t history (.error e, history')
  | entered {depth link links t t₁ history history₁ history₂ key document outcome}
      (hkey : w.key link = .ok key) (hnew : key ∉ w.seen t) (hdepth : depth ≤ maxDepth)
      (hvisit : (w.visit link key).after history = (.ok document, history₁))
      (hbelow : Runs (depth + 1) (w.links key document) (w.record t key document) history₁
        (.ok t₁, history₂))
      (hrest : Runs depth links t₁ history₂ outcome) :
      Runs depth (link :: links) t history outcome

/-- The links of one document are followed by the rules if those
of the documents behind them are. -/
theorem explore_runs_of_below {levels depth : Nat}
    (hlimit : w.below maxDepth levels = none → maxDepth < depth)
    (hdeeper : ∀ deeper, w.below maxDepth levels = some deeper → depth ≤ maxDepth ∧
      ∀ links t history, w.Runs maxDepth (depth + 1) links t history
        ((deeper links t).after history))
    (links : List Link) (t : τ) (history : List Url) :
    w.Runs maxDepth depth links t history ((w.explore maxDepth levels links t).after history) := by
  induction links generalizing t history with
  | nil =>
      rw [explore_nil]
      exact .done
  | cons link links ih =>
      rw [explore_cons]
      unfold follow
      cases hkey : w.key link with
      | error e => exact .unresolved hkey
      | ok key =>
          by_cases hseen : key ∈ w.seen t
          · simp only [Session.settle_ok, pure_bind, List.contains_eq_mem, hseen, decide_true,
              if_true]
            exact .known hkey hseen (ih t history)
          · simp only [Session.settle_ok, pure_bind, List.contains_eq_mem, hseen, decide_false,
              Bool.false_eq_true, if_false]
            cases hbelow : w.below maxDepth levels with
            | none => exact .tooDeep hkey hseen (hlimit hbelow)
            | some deeper =>
                obtain ⟨hdepth, hruns⟩ := hdeeper deeper hbelow
                simp only [bind_assoc]
                rcases hvisit : (w.visit link key).after history with ⟨_ | document, history₁⟩
                · rw [Session.after_bind_error hvisit]
                  exact .failed hkey hseen hdepth hvisit
                · rw [Session.after_bind_ok hvisit]
                  have hbelow := hruns (w.links key document) (w.record t key document) history₁
                  rcases hdeep : (deeper (w.links key document)
                    (w.record t key document)).after history₁ with ⟨_ | t₁, history₂⟩
                  · rw [Session.after_bind_error hdeep]
                    exact .stopped hkey hseen hdepth hvisit (hdeep ▸ hbelow)
                  · rw [Session.after_bind_ok hdeep]
                    exact .entered hkey hseen hdepth hvisit (hdeep ▸ hbelow) (ih t₁ history₂)

/-- Exploring comes to its outcome by the rules.  The levels that are left and the depth make up the
limit. -/
theorem explore_runs {levels depth : Nat} (hlevels : depth + levels = maxDepth + 1)
    (links : List Link) (t : τ) (history : List Url) :
    w.Runs maxDepth depth links t history ((w.explore maxDepth levels links t).after history) := by
  induction levels generalizing depth links t history with
  | zero => exact explore_runs_of_below (fun _ => by omega) (fun deeper h => by cases h) ..
  | succ levels ih =>
      refine explore_runs_of_below (fun h => by cases h) (fun deeper h => ?_) ..
      obtain rfl := Option.some.inj h
      exact ⟨by omega, fun links t history => ih (by omega) links t history⟩

/-! ## What a walk finds -/

section Finds

variable (w)

omit [DecidableEq κ]

/-- The keys of all documents of a forest, the latest first. -/
def keys (forest : Forest (Find κ ν)) : List κ := (forest.preorder.map (·.key)).reverse

/-- The forest of the documents that some links lead to for the first time.  A link to what is known
leads to nothing; any other leads to a new document and to all that is new from there, before the
next link has its turn. -/
inductive Encounters : List κ → List Link → Forest (Find κ ν) → Prop
  | done {known} : Encounters known [] .none
  | known {known link links key forest} (hkey : w.key link = .ok key) (hknown : key ∈ known)
      (hrest : Encounters known links forest) : Encounters known (link :: links) forest
  | found {known link links key document below beside} (hkey : w.key link = .ok key)
      (hnew : key ∉ known)
      (hbelow : Encounters (key :: known) (w.links key document) below)
      (hbeside : Encounters (keys below ++ key :: known) links beside) :
      Encounters known (link :: links) (.tree ⟨link, key, document⟩ below beside)

/-- Documents are visited in turn, each with the history that the visits before it leave. -/
inductive Visits : List Url → List (Find κ ν) → List Url → Prop
  | done {history} : Visits history [] history
  | next {history history₁ history' find finds}
      (hvisit : (w.visit find.link find.key).after history = (.ok find.document, history₁))
      (hrest : Visits history₁ finds history') : Visits history (find :: finds) history'

/-- All documents recorded in turn. -/
def recordAll (t : τ) (finds : List (Find κ ν)) : τ :=
  finds.foldl (fun t find => w.record t find.key find.document) t

variable {w}

theorem keys_tree (root : Find κ ν) (below beside : Forest (Find κ ν)) :
    keys (.tree root below beside) = keys beside ++ (keys below ++ [root.key]) := by
  simp [keys, Forest.preorder]

theorem seen_recordAll (t : τ) (finds : List (Find κ ν)) :
    w.seen (w.recordAll t finds) = (finds.map (·.key)).reverse ++ w.seen t := by
  induction finds generalizing t with
  | nil => rfl
  | cons find finds ih =>
      show w.seen (w.recordAll (w.record t find.key find.document) finds) = _
      rw [ih, w.seen_record, List.map_cons, List.reverse_cons, List.append_assoc]
      rfl

theorem Visits.append {history history₁ history' : List Url} {finds more : List (Find κ ν)}
    (h : w.Visits history finds history₁) (hmore : w.Visits history₁ more history') :
    w.Visits history (finds ++ more) history' := by
  induction h with
  | done => exact hmore
  | next hvisit _ ih => exact .next hvisit (ih hmore)

/-- **A walk that succeeds has found a forest**, in preorder: of the documents that its links lead
to for the first time, each visited once. -/
theorem Runs.encounters {depth : Nat} {links : List Link} {t t' : τ} {history history' : List Url}
    (h : w.Runs maxDepth depth links t history (.ok t', history')) :
    ∃ forest, w.Encounters (w.seen t) links forest ∧ t' = w.recordAll t forest.preorder ∧
      w.Visits history forest.preorder history' := by
  generalize houtcome : ((.ok t', history') : Except LoadError τ × List Url) = outcome at h
  induction h generalizing t' history' with
  | done =>
      cases houtcome
      exact ⟨.none, .done, rfl, .done⟩
  | known hkey hseen _ ih =>
      obtain ⟨forest, hforest, hrest⟩ := ih houtcome
      exact ⟨forest, .known hkey hseen hforest, hrest⟩
  | unresolved => cases houtcome
  | tooDeep => cases houtcome
  | failed => cases houtcome
  | stopped => cases houtcome
  | @entered depth link links t t₁ history history₁ history₂ key document _ hkey hnew _ hvisit _ _
      ihbelow ihrest =>
      obtain ⟨below, hbelow, rfl, hvisits⟩ := ihbelow rfl
      obtain ⟨beside, hbeside, rfl, hvisits'⟩ := ihrest houtcome
      rw [w.seen_record] at hbelow
      rw [seen_recordAll, w.seen_record] at hbeside
      refine ⟨.tree ⟨link, key, document⟩ below beside, .found hkey hnew hbelow hbeside, ?_,
        .next hvisit (hvisits.append hvisits')⟩
      exact (List.foldl_append ..).symm

namespace Encounters

variable {known : List κ} {links : List Link} {forest : Forest (Find κ ν)}

/-- No document is found twice, nor one that was known. -/
theorem nodup (h : w.Encounters known links forest) (hknown : known.Nodup) :
    (keys forest ++ known).Nodup := by
  induction h with
  | done => exact hknown
  | known _ _ _ ih => exact ih hknown
  | found _ hnew _ _ ihbelow ihbeside =>
      have hall := ihbeside (ihbelow (List.nodup_cons.mpr ⟨hnew, hknown⟩))
      simpa only [keys_tree, List.append_assoc, List.singleton_append] using hall

theorem key_eq (h : w.Encounters known links forest) :
    ∀ find ∈ forest.preorder, w.key find.link = .ok find.key := by
  induction h with
  | done => exact fun _ hfind => absurd hfind List.not_mem_nil
  | known _ _ _ ih => exact ih
  | found hkey _ _ _ ihbelow ihbeside =>
      intro find hfind
      obtain rfl | hfind := List.mem_cons.mp hfind
      · exact hkey
      · obtain hfind | hfind := List.mem_append.mp hfind
        · exact ihbelow find hfind
        · exact ihbeside find hfind

/-- A document is found by a link that the walk begins with or that a document found has. -/
theorem link_mem (h : w.Encounters known links forest) :
    ∀ find ∈ forest.preorder, find.link ∈ links ∨
      ∃ other ∈ forest.preorder, find.link ∈ w.links other.key other.document := by
  induction h with
  | done => exact fun _ hfind => absurd hfind List.not_mem_nil
  | known _ _ _ ih =>
      intro find hfind
      exact (ih find hfind).imp_left (List.mem_cons_of_mem _)
  | @found known link links key document below beside _ _ _ _ ihbelow ihbeside =>
      intro find hfind
      rcases List.mem_cons.mp hfind with rfl | hfind
      · exact .inl List.mem_cons_self
      · rcases List.mem_append.mp hfind with hfind | hfind
        · rcases ihbelow find hfind with hlink | ⟨other, hother, hlink⟩
          · exact .inr ⟨_, List.mem_cons_self, hlink⟩
          · exact .inr ⟨other, List.mem_cons_of_mem _ (List.mem_append_left _ hother), hlink⟩
        · rcases ihbeside find hfind with hlink | ⟨other, hother, hlink⟩
          · exact .inl (List.mem_cons_of_mem _ hlink)
          · exact .inr ⟨other, List.mem_cons_of_mem _ (List.mem_append_right _ hother), hlink⟩

/-- What links hand on from document to document, every document that is found has. -/
theorem inherits {P : κ → Prop} (h : w.Encounters known links forest)
    (hlinks : ∀ link ∈ links, ∀ key, w.key link = .ok key → P key)
    (hfinds : ∀ find ∈ forest.preorder, P find.key →
      ∀ link ∈ w.links find.key find.document, ∀ key, w.key link = .ok key → P key) :
    ∀ find ∈ forest.preorder, P find.key := by
  induction h with
  | done =>
      intro find hfind
      cases hfind
  | known _ _ _ ih =>
      exact ih (fun link hlink => hlinks link (List.mem_cons_of_mem _ hlink)) hfinds
  | @found known link links key document below beside hkey _ _ _ ihbelow ihbeside =>
      have hroot : P key := hlinks link List.mem_cons_self key hkey
      have hinside : ∀ find ∈ below.preorder ++ beside.preorder,
          find ∈ (Forest.tree ⟨link, key, document⟩ below beside).preorder :=
        fun find hfind => List.mem_cons_of_mem _ hfind
      intro find hfind
      rcases List.mem_cons.mp hfind with rfl | hfind
      · exact hroot
      · rcases List.mem_append.mp hfind with hfind | hfind
        · refine ihbelow (hfinds _ List.mem_cons_self hroot) ?_ find hfind
          exact fun other hother => hfinds other (hinside _ (List.mem_append_left _ hother))
        · refine ihbeside ?_ ?_ find hfind
          · exact fun inner hinner => hlinks inner (List.mem_cons_of_mem _ hinner)
          · exact fun other hother => hfinds other (hinside _ (List.mem_append_right _ hother))

/-- The links that were followed lead to what is known in the end. -/
theorem reached (h : w.Encounters known links forest) :
    ∀ link ∈ links, ∃ key, w.key link = .ok key ∧ key ∈ keys forest ++ known := by
  induction h with
  | done => exact fun _ hlink => absurd hlink List.not_mem_nil
  | known hkey hknown _ ih =>
      intro link hlink
      obtain rfl | hlink := List.mem_cons.mp hlink
      · exact ⟨_, hkey, List.mem_append_right _ hknown⟩
      · exact ih link hlink
  | found hkey _ _ _ _ ihbeside =>
      intro link hlink
      obtain rfl | hlink := List.mem_cons.mp hlink
      · exact ⟨_, hkey, by simp [keys_tree]⟩
      · obtain ⟨key, hkey, hmem⟩ := ihbeside link hlink
        exact ⟨key, hkey, by simpa [keys_tree] using hmem⟩

/-- The links of the documents that were found lead to what is known in the end. -/
theorem closed (h : w.Encounters known links forest) :
    ∀ find ∈ forest.preorder, ∀ link ∈ w.links find.key find.document,
      ∃ key, w.key link = .ok key ∧ key ∈ keys forest ++ known := by
  induction h with
  | done => exact fun _ hfind => absurd hfind List.not_mem_nil
  | known _ _ _ ih => exact ih
  | @found known link links key document below beside _ _ hbelow hbeside ihbelow ihbeside =>
      -- what is known once the documents below are found is known in the end
      have hlater : ∀ k ∈ keys below ++ key :: known,
          k ∈ keys (.tree ⟨link, key, document⟩ below beside) ++ known := by
        intro k hk
        rw [keys_tree, List.append_assoc, List.append_assoc]
        exact List.mem_append_right _ hk
      intro find hfind inner hinner
      obtain rfl | hfind := List.mem_cons.mp hfind
      · obtain ⟨k, hk, hmem⟩ := hbelow.reached inner hinner
        exact ⟨k, hk, hlater k hmem⟩
      · obtain hfind | hfind := List.mem_append.mp hfind
        · obtain ⟨k, hk, hmem⟩ := ihbelow find hfind inner hinner
          exact ⟨k, hk, hlater k hmem⟩
        · obtain ⟨k, hk, hmem⟩ := ihbeside find hfind inner hinner
          exact ⟨k, hk, by simpa [keys_tree] using hmem⟩

end Encounters

end Finds

end Walk

end SoapBindings.Document
