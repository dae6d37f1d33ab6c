/-
# `SoapBindings.Proofs.Document.Limits` — what the depth limit decides

The limit is consulted at one point: where the next reference leads to a document that is not known
yet.  Which references are followed, and what is made of them, it has no say in.  So the run of the
machine within a limit is the beginning of its run within any larger one (`Reaches.deeper`), and an
end of the first run is an end of the second as well, unless it is the limit that ends it
(`Stage.Ends.deeper`).
-/
import SoapBindings.Proofs.Document.Ending

namespace SoapBindings.Document

open Relation (ReflTransGen)

/-! ## Walks within a larger limit -/

namespace Walk

variable {κ ν τ : Type} {w : Walk κ ν τ} {maxDepth limit : Nat} (hlimit : maxDepth ≤ limit)
include hlimit

theorem Within.deeper {p : Place τ} (h : w.Within maxDepth p) : w.Within limit p := by
  intro link depth hmeets
  exact Nat.le_trans (h link depth hmeets) hlimit

theorem Goes.deeper {p q : Place τ} (h : w.Goes maxDepth p q) : w.Goes limit p q :=
  ⟨h.1.deeper hlimit, h.2⟩

/-- A walk that stops would have stopped within a larger limit as well, unless it was the limit that
it stopped at; then nothing was asked for. -/
theorem Stops.deeper {p : Place τ} {e : LoadError} {history : List Url}
    (h : w.Stops maxDepth p e history) :
    w.Stops limit p e history ∨
      (∃ location, e = .recursionLimit location maxDepth) ∧ history = p.history := by
  cases h with
  | unresolved hkey => exact .inl (.unresolved hkey)
  | tooDeep _ _ _ => exact .inr ⟨⟨_, rfl⟩, rfl⟩
  | failed hkey hnew hdepth hvisit =>
      exact .inl (.failed hkey hnew (Nat.le_trans hdepth hlimit) hvisit)

end Walk

/-! ## Loading within a larger limit -/

variable {web : Web} {source : Source} {base : Option Url} {kind : DocumentKind}
  {maxDepth limit : Nat}

namespace Stage

section Deeper

variable (hlimit : maxDepth ≤ limit)
include hlimit

theorem Goes.deeper {s s' : Stage} (h : s.Goes web kind maxDepth s') :
    s.Goes web kind limit s' := by
  cases h with
  | merge h => exact .merge (h.deeper hlimit)
  | turn => exact .turn
  | discover h => exact .discover (h.deeper hlimit)

/-- An end of loading is one within a larger limit, unless it is the limit that ends it. -/
theorem Ends.deeper {s : Stage} {outcome : Except LoadError Document × List Url}
    (h : s.Ends web kind base maxDepth outcome) :
    s.Ends web kind base limit outcome ∨
      ∃ location, outcome = (.error (.recursionLimit location maxDepth), s.history) := by
  cases h with
  | unmerged h =>
      rcases h.deeper hlimit with h | ⟨⟨location, rfl⟩, rfl⟩
      · exact .inl (.unmerged h)
      · exact .inr ⟨location, rfl⟩
  | undiscovered h =>
      rcases h.deeper hlimit with h | ⟨⟨location, rfl⟩, rfl⟩
      · exact .inl (.undiscovered h)
      · exact .inr ⟨location, rfl⟩
  | loaded => exact .inl .loaded

end Deeper

/-- Requests are only ever added to those before. -/
theorem Requests.grown {s : Stage} {history : List Url} (h : s.Requests web maxDepth history) :
    s.history <+: history := by
  cases h with
  | none => exact List.prefix_rfl
  | one _ _ _ => exact List.prefix_append _ _

theorem history_grown {s s' : Stage} (h : ReflTransGen (Goes web kind maxDepth) s s') :
    s.history <+: s'.history := by
  induction h with
  | refl => exact List.prefix_rfl
  | tail _ hstep ih => exact ih.trans hstep.requests.grown

end Stage

/-- What loading comes to within a limit, it comes to within a larger one. -/
theorem Reaches.deeper (hlimit : maxDepth ≤ limit) {s : Stage}
    (h : Reaches web source base kind maxDepth s) : Reaches web source base kind limit s := by
  obtain ⟨hopening, hgoes⟩ := h
  exact ⟨hopening, ReflTransGen.mono (fun _ _ hstep => hstep.deeper hlimit) _ _ hgoes⟩

/-- Loading has made all requests in the end that it had made at a stage on the way. -/
theorem Reaches.history_grown {s : Stage} (h : Reaches web source base kind maxDepth s) :
    s.history <+: ((loadSource web.request maxDepth source base kind).after []).2 := by
  obtain ⟨hopening, hgoes⟩ := h
  rcases loadSource_ends web source base kind maxDepth with
    ⟨e, hopening', -⟩ | ⟨s', ⟨hopening', hgoes'⟩, hends⟩
  · cases hopening.symm.trans hopening'
  · cases hopening.symm.trans hopening'
    have hlast : s'.history <+: ((loadSource web.request maxDepth source base kind).after []).2 :=
      hends.requests.grown
    -- Of two stages of one run, one comes before the other, and nothing comes behind the end.
    rcases ReflTransGen.total_of_right_unique (fun _ _ _ h₁ h₂ => h₁.unique h₂) hgoes hgoes' with
      hgoes | hgoes
    · exact (Stage.history_grown hgoes).trans hlast
    · obtain rfl := hends.last hgoes
      exact hlast

/-- **The depth limit only decides failure.**  Within a larger limit loading has the same outcome
and makes the same requests, whatever the store answers and whatever is loaded, unless it fails at
the limit; and then it makes at least the requests that it made before it failed, and these
first. -/
theorem limit_decides_failure (web : Web) (source : Source) (base : Option Url)
    (kind : DocumentKind) (maxDepth more : Nat) :
    let load := fun limit => (loadSource web.request limit source base kind).after []
    (load (maxDepth + more) = load maxDepth ∨
      ∃ location, (load maxDepth).1 = .error (.recursionLimit location maxDepth)) ∧
    (load maxDepth).2 <+: (load (maxDepth + more)).2 := by
  intro load
  have hlimit : maxDepth ≤ maxDepth + more := Nat.le_add_right maxDepth more
  have hsame (h : load (maxDepth + more) = load maxDepth) :
      (load maxDepth).2 <+: (load (maxDepth + more)).2 := by
    simp only [h, List.prefix_rfl]
  rcases loadSource_ends web source base kind maxDepth with ⟨e, hopening, hload⟩ | ⟨s, hs, hends⟩
  · -- The document itself cannot be read, whatever the limit is.
    rcases loadSource_ends web source base kind (maxDepth + more) with
      ⟨e', hopening', hload'⟩ | ⟨s', ⟨hopening', -⟩, -⟩
    · cases hopening.symm.trans hopening'
      have h : load (maxDepth + more) = load maxDepth := hload'.trans hload.symm
      exact ⟨.inl h, hsame h⟩
    · cases hopening.symm.trans hopening'
  · have hs' : Reaches web source base kind (maxDepth + more) s := hs.deeper hlimit
    rcases hends.deeper hlimit with hends' | ⟨location, hload⟩
    · have h : load (maxDepth + more) = load maxDepth := hs'.outcome hends'
      exact ⟨.inl h, hsame h⟩
    · have hload : load maxDepth = (.error (.recursionLimit location maxDepth), s.history) := hload
      refine ⟨.inr ⟨location, congrArg Prod.fst hload⟩, ?_⟩
      rw [hload]
      exact hs'.history_grown

end SoapBindings.Document
