/-
# `SoapBindings.Proofs.Document.Steps` — walks, one link at a time

A walk as a machine: it has come to a `Place`, with links still to follow, and a step takes the
first of them.  Steps know of no limit.  Each pending link has the number of documents that lead up
to it, but only to be looked at: how far a walk may go is said of its steps from outside
(`Walk.Within`).

A limit is all that a walk needs to end (`Walk.terminates`), whatever the documents are.  A new
document may bring any number of links, but all of them lie one document deeper, and they are done
with before the links that were pending already.
-/
import Mathlib.Logic.Relation
import SoapBindings.Proofs.Document.Faults
import SoapBindings.Proofs.Document.Walk

namespace SoapBindings.Document

open Relation (ReflTransGen)

/-- Where a walk has come to. -/
structure Place (τ : Type) where
  /-- The links to follow, the next first, each with its depth: 1 in the documents that the walk
  starts from, and one more in a document than at the link that led there. -/
  pending : List (Link × Nat)
  found : τ
  /-- The requests so far. -/
  history : List Url

/-- The links of a document at a depth. -/
def atDepth (depth : Nat) (links : List Link) : List (Link × Nat) := links.map (·, depth)

namespace Walk

variable {κ ν τ : Type} (w : Walk κ ν τ) (maxDepth : Nat)

/-- The next link leads to a document that is not known yet. -/
inductive Meets : Place τ → Link → Nat → Prop
  | new {link depth key pending found history} (hkey : w.key link = .ok key)
      (hnew : key ∉ w.seen found) : Meets ⟨(link, depth) :: pending, found, history⟩ link depth

/-- One link is followed. -/
inductive Step : Place τ → Place τ → Prop
  | pass {link depth key pending found history} (hkey : w.key link = .ok key)
      (hseen : key ∈ w.seen found) :
      Step ⟨(link, depth) :: pending, found, history⟩ ⟨pending, found, history⟩
  | enter {link depth key document pending found history history'} (hkey : w.key link = .ok key)
      (hnew : key ∉ w.seen found)
      (hvisit : (w.visit link key).after history = (.ok document, history')) :
      Step ⟨(link, depth) :: pending, found, history⟩
        ⟨atDepth (depth + 1) (w.links key document) ++ pending, w.record found key document,
          history'⟩

/-- If the next link leads to a new document, it is not too deep. -/
def Within (p : Place τ) : Prop := ∀ link depth, w.Meets p link depth → depth ≤ maxDepth

/-- One link is followed within the limit. -/
def Goes (p q : Place τ) : Prop := w.Within maxDepth p ∧ w.Step p q

/-- The walk ends with an error here, and with these requests. -/
inductive Stops : Place τ → LoadError → List Url → Prop
  | unresolved {link depth pending found history e} (hkey : w.key link = .error e) :
      Stops ⟨(link, depth) :: pending, found, history⟩ e history
  | tooDeep {link depth key pending found history} (hkey : w.key link = .ok key)
      (hnew : key ∉ w.seen found) (hdepth : maxDepth < depth) :
      Stops ⟨(link, depth) :: pending, found, history⟩ (.recursionLimit link.location maxDepth)
        history
  | failed {link depth key pending found history history' e} (hkey : w.key link = .ok key)
      (hnew : key ∉ w.seen found) (hdepth : depth ≤ maxDepth)
      (hvisit : (w.visit link key).after history = (.error e, history')) :
      Stops ⟨(link, depth) :: pending, found, history⟩ e history'

variable {w maxDepth}

theorem Goes.pass {link : Link} {depth : Nat} {key : κ} {pending : List (Link × Nat)} {found : τ}
    {history : List Url} (hkey : w.key link = .ok key) (hseen : key ∈ w.seen found) :
    w.Goes maxDepth ⟨(link, depth) :: pending, found, history⟩ ⟨pending, found, history⟩ := by
  refine ⟨?_, .pass hkey hseen⟩
  rintro _ _ ⟨hkey', hnew⟩
  rw [hkey] at hkey'
  exact absurd (Except.ok.inj hkey' ▸ hseen) hnew

theorem Goes.enter {link : Link} {depth : Nat} {key : κ} {document : ν}
    {pending : List (Link × Nat)} {found : τ} {history history' : List Url}
    (hkey : w.key link = .ok key) (hnew : key ∉ w.seen found) (hdepth : depth ≤ maxDepth)
    (hvisit : (w.visit link key).after history = (.ok document, history')) :
    w.Goes maxDepth ⟨(link, depth) :: pending, found, history⟩
      ⟨atDepth (depth + 1) (w.links key document) ++ pending, w.record found key document,
        history'⟩ := by
  refine ⟨?_, .enter hkey hnew hvisit⟩
  rintro _ _ ⟨-, -⟩
  exact hdepth

/-! ## One place, one step -/

theorem Step.unique {p q r : Place τ} (hq : w.Step p q) (hr : w.Step p r) : q = r := by
  cases hq with
  | pass hkey hseen =>
      cases hr with
      | pass _ _ => rfl
      | enter hkey' hnew _ =>
          rw [hkey] at hkey'
          exact absurd (Except.ok.inj hkey' ▸ hseen) hnew
  | enter hkey hnew hvisit =>
      cases hr with
      | pass hkey' hseen =>
          rw [hkey'] at hkey
          exact absurd (Except.ok.inj hkey ▸ hseen) hnew
      | enter hkey' _ hvisit' =>
          rw [hkey] at hkey'
          obtain rfl := Except.ok.inj hkey'
          rw [hvisit] at hvisit'
          obtain ⟨hdocument, rfl⟩ := Prod.mk.inj hvisit'
          rw [Except.ok.inj hdocument]

/-- A walk that stops goes no further. -/
theorem Stops.not_goes {p q : Place τ} {e : LoadError} {history : List Url}
    (h : w.Stops maxDepth p e history) : ¬ w.Goes maxDepth p q := by
  rintro ⟨hwithin, hstep⟩
  cases h with
  | unresolved hkey =>
      cases hstep with
      | pass hkey' _ => simp [hkey] at hkey'
      | enter hkey' _ _ => simp [hkey] at hkey'
  | tooDeep hkey hnew hdepth => exact absurd (hwithin _ _ (.new hkey hnew)) (by omega)
  | failed hkey hnew _ hvisit =>
      cases hstep with
      | pass hkey' hseen =>
          rw [hkey] at hkey'
          exact absurd (Except.ok.inj hkey' ▸ hseen) hnew
      | enter hkey' _ hvisit' =>
          rw [hkey] at hkey'
          rw [Except.ok.inj hkey', hvisit'] at hvisit
          cases hvisit

/-- An end has one error and one record of requests. -/
theorem Stops.unique {p : Place τ} {e e' : LoadError} {history history' : List Url}
    (h : w.Stops maxDepth p e history) (h' : w.Stops maxDepth p e' history') :
    e = e' ∧ history = history' := by
  cases h with
  | unresolved hkey => cases h' <;> simp_all
  | tooDeep hkey hnew hdepth =>
      cases h' with
      | unresolved hkey' => simp [hkey] at hkey'
      | tooDeep => exact ⟨rfl, rfl⟩
      | failed _ _ hdepth' => omega
  | failed hkey hnew hdepth hvisit =>
      cases h' with
      | unresolved hkey' => simp [hkey] at hkey'
      | tooDeep _ _ hdepth' => omega
      | failed hkey' _ _ hvisit' =>
          rw [hkey] at hkey'
          rw [Except.ok.inj hkey', hvisit'] at hvisit
          cases hvisit
          exact ⟨rfl, rfl⟩

/-! ## Walks as runs of the machine -/

variable (w maxDepth) in
/-- From a place the walk comes to an outcome: with a result it leaves some links pending, and with
an error it stops. -/
def Comes (p : Place τ) (rest : List (Link × Nat)) : Except LoadError τ × List Url → Prop
  | (.ok t, history) => ReflTransGen (w.Goes maxDepth) p ⟨rest, t, history⟩
  | (.error e, history) =>
    ∃ q, ReflTransGen (w.Goes maxDepth) p q ∧ w.Stops maxDepth q e history

theorem Comes.head {p q : Place τ} {rest : List (Link × Nat)}
    {outcome : Except LoadError τ × List Url} (hpq : ReflTransGen (w.Goes maxDepth) p q)
    (h : w.Comes maxDepth q rest outcome) : w.Comes maxDepth p rest outcome := by
  rcases outcome with ⟨e | t, history⟩
  · obtain ⟨r, hqr, hstops⟩ := h
    exact ⟨r, hpq.trans hqr, hstops⟩
  · exact hpq.trans h

/-- A walk goes step by step to its outcome, with whatever else is pending left alone. -/
theorem Runs.comes {depth : Nat} {links : List Link} {t : τ} {history : List Url}
    {outcome : Except LoadError τ × List Url}
    (h : w.Runs maxDepth depth links t history outcome) (rest : List (Link × Nat)) :
    w.Comes maxDepth ⟨atDepth depth links ++ rest, t, history⟩ rest outcome := by
  induction h generalizing rest with
  | done => exact .refl
  | unresolved hkey => exact ⟨_, .refl, .unresolved hkey⟩
  | known hkey hseen _ ih => exact .head (.single (.pass hkey hseen)) (ih rest)
  | tooDeep hkey hnew hdepth => exact ⟨_, .refl, .tooDeep hkey hnew hdepth⟩
  | failed hkey hnew hdepth hvisit => exact ⟨_, .refl, .failed hkey hnew hdepth hvisit⟩
  | stopped hkey hnew hdepth hvisit _ ih =>
      exact .head (.single (.enter hkey hnew hdepth hvisit)) (ih _)
  | @entered depth _ links _ _ _ _ _ _ _ _ hkey hnew hdepth hvisit _ _ ihbelow ihrest =>
      have hbelow := ihbelow (atDepth depth links ++ rest)
      exact .head (.trans (.single (.enter hkey hnew hdepth hvisit)) hbelow) (ihrest rest)

/-- Exploring as deep as the limit allows is a walk from the documents that it starts with. -/
theorem explore_comes [DecidableEq κ] (w : Walk κ ν τ) (maxDepth : Nat) (links : List Link) (t : τ)
    (history : List Url) :
    w.Comes maxDepth ⟨atDepth 1 links, t, history⟩ []
      ((w.explore maxDepth maxDepth links t).after history) := by
  have h := (explore_runs (w := w) (Nat.add_comm 1 maxDepth) links t history).comes []
  rwa [List.append_nil] at h

/-! ## Every walk ends -/

variable (w maxDepth) in
/-- There is no walk without end from here within the limit. -/
def Terminates (p : Place τ) : Prop := Acc (fun after before => w.Goes maxDepth before after) p

/-- Links put in front of others do not keep a walk from ending.  The induction is on what is left
of the limit below them, and then on the links. -/
theorem terminates_append (levels : Nat) {depth : Nat} (hlimit : maxDepth < depth + levels)
    (links : List Link) {rest : List (Link × Nat)}
    (hrest : ∀ t history, w.Terminates maxDepth ⟨rest, t, history⟩) (t : τ) (history : List Url) :
    w.Terminates maxDepth ⟨atDepth depth links ++ rest, t, history⟩ := by
  induction levels generalizing depth links rest t history with
  | zero =>
      induction links generalizing t history with
      | nil => exact hrest t history
      | cons link links ih =>
          refine ⟨_, ?_⟩
          rintro _ ⟨hwithin, hstep⟩
          cases hstep with
          | pass _ _ => exact ih t history
          | enter hkey hnew _ =>
              have := hwithin _ _ (.new hkey hnew)
              omega
  | succ levels ih =>
      induction links generalizing t history with
      | nil => exact hrest t history
      | cons link links ihlinks =>
          refine ⟨_, ?_⟩
          rintro _ ⟨hwithin, hstep⟩
          cases hstep with
          | pass _ _ => exact ihlinks t history
          | enter _ _ _ => exact ih (by omega) _ ihlinks _ _

/-- **A walk within a limit ends**, from any place, wherever its links lead. -/
theorem terminates (p : Place τ) : w.Terminates maxDepth p := by
  obtain ⟨pending, t, history⟩ := p
  induction pending generalizing t history with
  | nil => exact ⟨_, fun _ h => nomatch h.2⟩
  | cons next pending ih =>
      obtain ⟨link, depth⟩ := next
      exact terminates_append (maxDepth + 1) (by omega) [link] ih t history

/-- New documents are at most one deeper than the limit. -/
theorem Goes.shallow {p q : Place τ} (h : w.Goes maxDepth p q)
    (hp : ∀ next ∈ p.pending, next.2 ≤ maxDepth + 1) :
    ∀ next ∈ q.pending, next.2 ≤ maxDepth + 1 := by
  obtain ⟨hwithin, hstep⟩ := h
  cases hstep with
  | pass _ _ => exact fun next hnext => hp next (List.mem_cons_of_mem _ hnext)
  | enter hkey hnew _ =>
      intro next hnext
      obtain hnext | hnext := List.mem_append.mp hnext
      · obtain ⟨link, -, rfl⟩ := List.mem_map.mp hnext
        exact Nat.succ_le_succ (hwithin _ _ (.new hkey hnew))
      · exact hp next (List.mem_cons_of_mem _ hnext)

/-! ## Requests -/

/-- The document behind a link is asked for, once, and comes to what the store answers. -/
inductive Asked (web : Web) (link : Link) (history : List Url) :
    Except LoadError ν × List Url → Prop
  | nowhere {e} (htarget : link.target = .error e) : Asked web link history (.error e, history)
  | refused {url e} (htarget : link.target = .ok url) (hanswer : web history url = .error e) :
      Asked web link history (.error e, history ++ [url])
  | unreadable {url source e} (htarget : link.target = .ok url)
      (hanswer : web history url = .ok source) (hcontent : OfContent e) :
      Asked web link history (.error e, history ++ [url])
  | found {url source document} (htarget : link.target = .ok url)
      (hanswer : web history url = .ok source) :
      Asked web link history (.ok document, history ++ [url])

variable (w) in
/-- A walk that asks a store for its documents. -/
structure Asks (web : Web) : Prop where
  key_error : ∀ {link e}, w.key link = .error e → link.target = .error e
  visit : ∀ {link key history outcome}, w.key link = .ok key →
    (w.visit link key).after history = outcome → Asked web link history outcome

variable (w maxDepth) in
/-- The requests after the next link: those before, and perhaps one for where the link leads. -/
inductive Requests : Place τ → List Url → Prop
  | none {p} : Requests p p.history
  | one {p link depth url} (hmeets : w.Meets p link depth) (hdepth : depth ≤ maxDepth)
      (htarget : link.target = .ok url) : Requests p (p.history ++ [url])

section Requests

variable {web : Web} (hasks : w.Asks web)
include hasks

theorem Goes.requests {p q : Place τ} (h : w.Goes maxDepth p q) :
    w.Requests maxDepth p q.history := by
  obtain ⟨hwithin, hstep⟩ := h
  cases hstep with
  | pass _ _ => exact .none
  | enter hkey hnew hvisit =>
      have hdepth := hwithin _ _ (.new hkey hnew)
      cases hasks.visit hkey hvisit with
      | found htarget _ => exact .one (.new hkey hnew) hdepth htarget

theorem Stops.requests {p : Place τ} {e : LoadError} {history : List Url}
    (h : w.Stops maxDepth p e history) : w.Requests maxDepth p history := by
  cases h with
  | unresolved _ | tooDeep _ _ _ => exact .none
  | failed hkey hnew hdepth hvisit =>
      cases hasks.visit hkey hvisit with
      | nowhere _ => exact .none
      | refused htarget _ | unreadable htarget _ _ => exact .one (.new hkey hnew) hdepth htarget

/-- The limit is what a walk stops at, unless the store gives that as its reason. -/
theorem Stops.of_limit {p : Place τ} {location : String} {n : Nat} {history : List Url}
    (h : w.Stops maxDepth p (.recursionLimit location n) history) :
    (∃ link depth, w.Meets p link depth ∧ maxDepth < depth ∧ link.location = location ∧
      n = maxDepth) ∨
    ∃ link depth url, w.Meets p link depth ∧ depth ≤ maxDepth ∧ link.target = .ok url ∧
      web p.history url = .error (.recursionLimit location n) := by
  have htarget {link : Link} : link.target ≠ .error (.recursionLimit location n) := by
    intro h
    obtain ⟨_, h⟩ | h := resolveLocation_error h <;> cases h
  cases h with
  | unresolved hkey => exact absurd (hasks.key_error hkey) htarget
  | tooDeep hkey hnew hdepth => exact .inl ⟨_, _, .new hkey hnew, hdepth, rfl, rfl⟩
  | failed hkey hnew hdepth hvisit =>
      cases hasks.visit hkey hvisit with
      | nowhere h => exact absurd h htarget
      | refused h hanswer => exact .inr ⟨_, _, _, .new hkey hnew, hdepth, h, hanswer⟩
      | unreadable _ _ hcontent => cases hcontent

theorem Meets.refused {p : Place τ} {link : Link} {depth : Nat} {url : Url} {e : LoadError}
    (h : w.Meets p link depth) (hdepth : depth ≤ maxDepth) (htarget : link.target = .ok url)
    (hanswer : web p.history url = .error e) : w.Stops maxDepth p e (p.history ++ [url]) := by
  obtain ⟨hkey, hnew⟩ := h
  refine .failed hkey hnew hdepth ?_
  generalize houtcome : (w.visit link _).after _ = outcome
  cases hasks.visit hkey houtcome with
  | nowhere h => simp [h] at htarget
  | refused h hanswer' =>
      obtain rfl := Except.ok.inj (h.symm.trans htarget)
      rw [Except.error.inj (hanswer'.symm.trans hanswer)]
  | unreadable h hanswer' _ | found h hanswer' =>
      obtain rfl := Except.ok.inj (h.symm.trans htarget)
      cases hanswer'.symm.trans hanswer

end Requests

theorem Meets.tooDeep {p : Place τ} {link : Link} {depth : Nat} (h : w.Meets p link depth)
    (hdepth : maxDepth < depth) :
    w.Stops maxDepth p (.recursionLimit link.location maxDepth) p.history := by
  obtain ⟨hkey, hnew⟩ := h
  exact .tooDeep hkey hnew hdepth

end Walk

end SoapBindings.Document
