/-
# `SoapBindings.Proofs.Naming.Scope` — names that are handed out in a scope

A scope knows the names that are taken.  Asked for a name it tries the name itself and then its
numbered forms, and the first one that is free is taken from then on.  The search ends, since there
are more forms than names that are taken; that it comes upon no taken name is then all that is to be
known of it, and what is handed out differs by induction on the names that are asked for.
-/
import Mathlib.Data.List.Forall2
import SoapBindings.Proofs.Naming.Unique

namespace SoapBindings.Naming

/-! ## One name -/

/-- The names that are tried in turn. -/
def attempt (base : String) : Nat → String
  | 0 => base
  | n + 1 => base ++ toString (n + 2)

/-- The name itself, or the name with a number from 2 upwards behind it. -/
def IsFormOf (base name : String) : Prop :=
  name = base ∨ ∃ n : Nat, 2 ≤ n ∧ name = base ++ toString n

theorem isFormOf_attempt (base : String) (n : Nat) : IsFormOf base (attempt base n) := by
  cases n with
  | zero => exact .inl rfl
  | succ n => exact .inr ⟨n + 2, by omega, rfl⟩

/-- **The search for a free name ends**, no later than after as many names as are taken, with the
first one that is free. -/
theorem unique_attempt (used : List String) (base : String) :
    ∃ n ≤ used.length, unique used base = attempt base n ∧ attempt base n ∉ used ∧
      ∀ i < n, attempt base i ∈ used := by
  have hfresh := unique_fresh used base
  unfold unique at hfresh ⊢
  split at hfresh
  · next hused =>
      have hbase : base ∈ used := List.contains_iff_mem.mp hused
      rw [if_pos hused]
      cases hfound : (numbered base used.length).find? fun name => !used.contains name with
      | none =>
          rw [hfound] at hfresh
          exact absurd hbase hfresh
      | some name =>
          rw [hfound] at hfresh
          rw [numbered, List.find?_map, Option.map_eq_some_iff] at hfound
          obtain ⟨i, hi, rfl⟩ := hfound
          obtain ⟨-, hrange, hbefore⟩ := List.find?_range_eq_some.mp hi
          refine ⟨i + 1, List.mem_range.mp hrange, rfl, hfresh, fun j hj => ?_⟩
          cases j with
          | zero => exact hbase
          | succ j => simpa [attempt] using hbefore j (by omega)
  · next hunused =>
      rw [if_neg hunused]
      exact ⟨0, Nat.zero_le _, rfl, hfresh, fun i hi => absurd hi (Nat.not_lt_zero i)⟩

theorem isFormOf_unique (used : List String) (base : String) :
    IsFormOf base (unique used base) := by
  obtain ⟨n, -, hname, -⟩ := unique_attempt used base
  exact hname ▸ isFormOf_attempt base n

/-! ## One name after another -/

/-- The names that are handed out for some bases in turn, where some names are taken. -/
def uniqueNames (taken : List String) : List String → List String
  | [] => []
  | base :: bases => unique taken base :: uniqueNames (taken ++ [unique taken base]) bases

/-- Names that are handed out differ from each other and from those that were taken. -/
theorem uniqueNames_nodup (taken bases : List String) :
    (uniqueNames taken bases).Nodup ∧ ∀ name ∈ uniqueNames taken bases, name ∉ taken := by
  induction bases generalizing taken with
  | nil => exact ⟨List.nodup_nil, nofun⟩
  | cons base bases ih =>
      obtain ⟨hnodup, hfree⟩ := ih (taken ++ [unique taken base])
      refine ⟨List.nodup_cons.mpr ⟨fun hmem => ?_, hnodup⟩, ?_⟩
      · exact hfree _ hmem (List.mem_append_right _ List.mem_cons_self)
      · refine List.forall_mem_cons.mpr ⟨unique_fresh taken base, fun name hname htaken => ?_⟩
        exact hfree name hname (List.mem_append_left _ htaken)

/-- There is one to a base, in order, and it is a form of the base. -/
theorem uniqueNames_forms (taken bases : List String) :
    List.Forall₂ IsFormOf bases (uniqueNames taken bases) := by
  induction bases generalizing taken with
  | nil => exact .nil
  | cons base bases ih => exact .cons (isFormOf_unique taken base) (ih _)

/-- Names that are handed out are taken from then on. -/
theorem foldl_unique {α : Type} (base : α → String) (items : List α) (taken : List String) :
    items.foldl (fun used item => used ++ [unique used (base item)]) taken =
      taken ++ uniqueNames taken (items.map base) := by
  induction items generalizing taken with
  | nil => exact (List.append_nil taken).symm
  | cons item items ih =>
      rw [List.foldl_cons, ih, List.append_assoc]
      rfl

end SoapBindings.Naming
