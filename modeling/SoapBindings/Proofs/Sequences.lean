/-
# `SoapBindings.Proofs.Sequences` — the content of a sequence, and two orders on it

A sequence holds elements, sequences and references to groups, in any order.  A schema prescribes
that order: a sequence inside the sequence and the content of a group stand where they are met
(`prescribed`).  A definition does not hold a sequence like that.  It has its elements in one list
and its references in another (`own` and `references`), so that whoever puts it together again has
the elements before all that comes from groups (`gathered`).

The two orders are permutations of each other.  They are the same order if nothing of a group stands
before an element of its own, neither in the sequence nor in any group; and if no two entries are
alike, they are the same in no other case.
-/
import Mathlib.Data.List.Perm.Basic

namespace SoapBindings

/-- The content of a sequence, from its first part on.  A reference to a group has the content of
the group beside it, so that no group is inside itself. -/
inductive Sequence (α : Type) where
  | done
  | element (entry : α) (rest : Sequence α)
  | sequence (inner rest : Sequence α)
  | group (reference : String) (content rest : Sequence α)

namespace Sequence

variable {α β : Type}

/-- The elements of the sequence itself, in order. -/
def own : Sequence α → List α
  | done => []
  | element entry rest => entry :: rest.own
  | sequence inner rest => inner.own ++ rest.own
  | group _ _ rest => rest.own

/-- The references to groups in the sequence itself, in order. -/
def references : Sequence α → List String
  | done => []
  | element _ rest => rest.references
  | sequence inner rest => inner.references ++ rest.references
  | group reference _ rest => reference :: rest.references

/-- What comes from groups, if each group has its own elements before what comes from groups. -/
def fromGroups : Sequence α → List α
  | done => []
  | element _ rest => rest.fromGroups
  | sequence inner rest => inner.fromGroups ++ rest.fromGroups
  | group _ content rest => content.own ++ content.fromGroups ++ rest.fromGroups

/-- All elements, those of the sequence itself before what comes from groups. -/
def gathered (s : Sequence α) : List α := s.own ++ s.fromGroups

/-- All elements, with the content of each group where the reference to it stands. -/
def prescribed : Sequence α → List α
  | done => []
  | element entry rest => entry :: rest.prescribed
  | sequence inner rest => inner.prescribed ++ rest.prescribed
  | group _ content rest => content.prescribed ++ rest.prescribed

/-- Here and in the groups, no element of its own stands behind anything that comes from a group. -/
def ElementsFirst : Sequence α → Prop
  | done => True
  | element _ rest => rest.ElementsFirst
  | sequence inner rest =>
    inner.ElementsFirst ∧ rest.ElementsFirst ∧ (rest.own = [] ∨ inner.fromGroups = [])
  | group _ content rest =>
    content.ElementsFirst ∧ rest.ElementsFirst ∧ (rest.own = [] ∨ content.gathered = [])

/-! ## Entries made into others -/

/-- What becomes of the entries.  Those that become nothing are left out. -/
def filterMap (f : α → Option β) : Sequence α → Sequence β
  | done => done
  | element entry rest =>
    match f entry with
    | some made => element made (rest.filterMap f)
    | none => rest.filterMap f
  | sequence inner rest => sequence (inner.filterMap f) (rest.filterMap f)
  | group reference content rest => group reference (content.filterMap f) (rest.filterMap f)

variable (f : α → Option β)

theorem own_filterMap (s : Sequence α) : (s.filterMap f).own = s.own.filterMap f := by
  induction s with
  | done => rfl
  | element entry rest ih =>
      rw [filterMap, own]
      cases hentry : f entry <;> simp [own, hentry, ih]
  | sequence inner rest ihInner ihRest => simp [filterMap, own, ihInner, ihRest]
  | group reference content rest _ ih => exact ih

theorem fromGroups_filterMap (s : Sequence α) :
    (s.filterMap f).fromGroups = s.fromGroups.filterMap f := by
  induction s with
  | done => rfl
  | element entry rest ih =>
      rw [filterMap, fromGroups]
      cases f entry <;> exact ih
  | sequence inner rest ihInner ihRest => simp [filterMap, fromGroups, ihInner, ihRest]
  | group reference content rest ihContent ihRest =>
      simp [filterMap, fromGroups, own_filterMap, ihContent, ihRest]

theorem gathered_filterMap (s : Sequence α) :
    (s.filterMap f).gathered = s.gathered.filterMap f := by
  rw [gathered, gathered, own_filterMap, fromGroups_filterMap, List.filterMap_append]

/-! ## The two orders -/

theorem gathered_sequence (inner rest : Sequence α) :
    (sequence inner rest).gathered =
      inner.own ++ rest.own ++ (inner.fromGroups ++ rest.fromGroups) := rfl

theorem gathered_group (reference : String) (content rest : Sequence α) :
    (group reference content rest).gathered =
      rest.own ++ (content.gathered ++ rest.fromGroups) := rfl

/-- Of two rows with two parts each, the first parts go before the second parts. -/
theorem perm_interchange {xs ys as bs cs ds : List α} (hxs : xs.Perm (as ++ cs))
    (hys : ys.Perm (bs ++ ds)) : (xs ++ ys).Perm (as ++ bs ++ (cs ++ ds)) := by
  refine (hxs.append hys).trans ?_
  rw [List.append_assoc, List.append_assoc]
  refine .append_left as ?_
  rw [← List.append_assoc, ← List.append_assoc]
  exact .append_right ds List.perm_append_comm

theorem prescribed_perm (s : Sequence α) : s.prescribed.Perm s.gathered := by
  induction s with
  | done => exact .refl []
  | element entry rest ih => exact .cons entry ih
  | sequence inner rest ihInner ihRest => exact perm_interchange ihInner ihRest
  | group reference content rest ihContent ihRest =>
      exact @perm_interchange _ _ _ [] _ _ _ ihContent ihRest

theorem ElementsFirst.gathered_eq {s : Sequence α} (h : s.ElementsFirst) :
    s.gathered = s.prescribed := by
  induction s with
  | done => rfl
  | element entry rest ih => exact congrArg (entry :: ·) (ih h)
  | sequence inner rest ihInner ihRest =>
      obtain ⟨hinner, hrest, hempty⟩ := h
      rw [gathered_sequence, prescribed, ← ihInner hinner, ← ihRest hrest]
      change _ = inner.own ++ inner.fromGroups ++ (rest.own ++ rest.fromGroups)
      obtain hempty | hempty := hempty <;> simp [hempty]
  | group reference content rest ihContent ihRest =>
      obtain ⟨hcontent, hrest, hempty⟩ := h
      rw [gathered_group, prescribed, ← ihContent hcontent, ← ihRest hrest]
      change _ = content.gathered ++ (rest.own ++ rest.fromGroups)
      obtain hempty | hempty := hempty <;> simp [hempty]

/-- If no two entries are alike, the parts of two rows are in order only where one of the two that
change places is empty. -/
theorem eq_interchange {xs ys as bs cs ds : List α} (hxs : xs.Perm (as ++ cs))
    (hys : ys.Perm (bs ++ ds)) (hnodup : (xs ++ ys).Nodup)
    (h : as ++ bs ++ (cs ++ ds) = xs ++ ys) :
    as ++ cs = xs ∧ bs ++ ds = ys ∧ (bs = [] ∨ cs = []) := by
  have hlength : xs.length = as.length + cs.length := by
    rw [hxs.length_eq, List.length_append]
  by_cases hempty : bs = [] ∨ cs = []
  · have hsame : (as ++ cs) ++ (bs ++ ds) = xs ++ ys := by
      rw [← h]
      obtain rfl | rfl := hempty <;> simp
    obtain ⟨hxs, hys⟩ := List.append_inj hsame (by rw [hlength, List.length_append])
    exact ⟨hxs, hys, hempty⟩
  · -- The first of `bs` would be among `xs`, which are too many for `as` alone.
    obtain ⟨hbs, hcs⟩ := not_or.mp hempty
    obtain ⟨b, bs', rfl⟩ := List.exists_cons_of_ne_nil hbs
    rw [List.append_assoc] at h
    obtain ⟨more, rfl, hmore⟩ | ⟨more, rfl, -⟩ := List.append_eq_append_iff.mp h
    · cases more with
      | nil =>
          rw [List.append_nil] at hlength
          exact absurd (List.length_eq_zero_iff.mp (by omega)) hcs
      | cons b' more =>
          obtain rfl : b = b' := (List.cons.inj hmore).1
          have hb : b ∈ ys := hys.symm.subset List.mem_cons_self
          have hb' : b ∈ as ++ b :: more := by simp
          exact absurd rfl ((List.nodup_append.mp hnodup).2.2 b hb' b hb)
    · rw [List.length_append] at hlength
      exact absurd (List.length_eq_zero_iff.mp (by omega)) hcs

theorem elementsFirst_of_gathered {s : Sequence α} (hnodup : s.prescribed.Nodup)
    (h : s.gathered = s.prescribed) : s.ElementsFirst := by
  induction s with
  | done => trivial
  | element entry rest ih => exact ih (List.nodup_cons.mp hnodup).2 (List.cons.inj h).2
  | sequence inner rest ihInner ihRest =>
      obtain ⟨hinner, hrest, hempty⟩ :=
        eq_interchange inner.prescribed_perm rest.prescribed_perm hnodup h
      obtain ⟨hnodup, hnodup', -⟩ := List.nodup_append.mp hnodup
      exact ⟨ihInner hnodup hinner, ihRest hnodup' hrest, hempty⟩
  | group reference content rest ihContent ihRest =>
      obtain ⟨hcontent, hrest, hempty⟩ :=
        @eq_interchange _ _ _ [] _ _ _ content.prescribed_perm rest.prescribed_perm hnodup h
      obtain ⟨hnodup, hnodup', -⟩ := List.nodup_append.mp hnodup
      exact ⟨ihContent hnodup hcontent, ihRest hnodup' hrest, hempty⟩

end Sequence

end SoapBindings
