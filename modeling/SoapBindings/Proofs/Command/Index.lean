/-
# `SoapBindings.Proofs.Command.Index` — the index of a package

The index has a line for each file in the folder that is code, but for itself.  The lines are sorted
and differ, in whatever order the names of the folder are listed and however often.
-/
import SoapBindings.Command.Run
import SoapBindings.Proofs.Emission.Script

namespace SoapBindings

/-! ## Sorted names -/

theorem insertSorted_sorted {names : List String} (h : names.Pairwise (· < ·)) (name : String) :
    (insertSorted names name).Pairwise (· < ·) := by
  induction names with
  | nil => exact List.pairwise_singleton _ _
  | cons first names ih =>
      obtain ⟨hfirst, hnames⟩ := List.pairwise_cons.mp h
      unfold insertSorted
      split
      · exact h
      · next hne =>
          split
          · next hless =>
              refine List.pairwise_cons.mpr
                ⟨List.forall_mem_cons.mpr ⟨hless, fun other hother => ?_⟩, h⟩
              exact String.lt_trans hless (hfirst other hother)
          · next hmore =>
              refine List.pairwise_cons.mpr ⟨fun other hother => ?_, ih hnames⟩
              obtain rfl | hother := (mem_insertSorted names name other).mp hother
              · exact Std.lt_of_le_of_ne (String.not_lt.mp hmore) (Ne.symm hne)
              · exact hfirst other hother

theorem foldl_insertSorted_sorted {sorted : List String} (h : sorted.Pairwise (· < ·))
    (names : List String) : (names.foldl insertSorted sorted).Pairwise (· < ·) := by
  induction names generalizing sorted with
  | nil => exact h
  | cons name names ih => exact ih (insertSorted_sorted h name)

theorem mem_foldl_insertSorted {sorted names : List String} {name : String} :
    name ∈ names.foldl insertSorted sorted ↔ name ∈ sorted ∨ name ∈ names := by
  induction names generalizing sorted with
  | nil => simp
  | cons first names ih =>
      rw [List.foldl_cons, ih, mem_insertSorted, List.mem_cons, or_assoc, or_left_comm]

namespace Command

/-! ## Extensions -/

theorem splitExtension_dot {stem extension : List Char} (h : '.' ∉ extension) :
    splitExtension (String.ofList (stem ++ '.' :: extension)) =
      if stem = [] then (String.ofList (stem ++ '.' :: extension), none)
      else (String.ofList stem, some (String.ofList extension)) := by
  have hbehind : ∀ c ∈ extension.reverse, (c != '.') = true := fun c hc =>
    bne_iff_ne.mpr fun hdot => h (hdot ▸ List.mem_reverse.mp hc)
  have hextension : ((stem ++ '.' :: extension).reverse.takeWhile (· != '.')).reverse =
      extension := by
    rw [List.reverse_append, List.reverse_cons, List.append_assoc,
      List.takeWhile_append_of_pos hbehind]
    simp
  have hlength : (stem ++ '.' :: extension).length - extension.length - 1 = stem.length := by
    rw [List.length_append, List.length_cons]
    omega
  unfold splitExtension
  rw [String.toList_ofList]
  dsimp only
  rw [hextension, hlength, List.take_left' rfl]
  have hdot : (stem ++ '.' :: extension).contains '.' = true := by simp
  rw [hdot, Bool.true_and]
  cases stem with
  | nil => rfl
  | cons c stem => rfl

/-- What is behind the last dot is the extension, if anything is before it. -/
theorem splitExtension_eq_some {name stem extension : String} :
    splitExtension name = (stem, some extension) ↔
      name = stem ++ "." ++ extension ∧ stem ≠ "" ∧ '.' ∉ extension.toList := by
  constructor
  · intro h
    have hdot : '.' ∈ name.toList := by
      refine Decidable.byContradiction fun hnone => ?_
      simp [splitExtension, hnone] at h
    obtain ⟨after, before, hname, hafter⟩ :=
      List.eq_append_cons_of_mem (List.mem_reverse.mpr hdot)
    have hlist : name.toList = before.reverse ++ '.' :: after.reverse := by
      rw [← List.reverse_inj, hname]
      simp
    have hafter' : '.' ∉ after.reverse := mt List.mem_reverse.mp hafter
    rw [← String.ofList_toList (s := name), hlist, splitExtension_dot hafter'] at h
    split at h
    · cases h
    · next hne =>
        obtain ⟨rfl, hextension⟩ := Prod.mk.inj h
        obtain rfl := Option.some.inj hextension
        refine ⟨?_, by simpa using hne, by simpa using hafter⟩
        rw [← String.ofList_toList (s := name), hlist]
        simp [String.ext_iff]
  · rintro ⟨rfl, hne, hdot⟩
    have hname : stem ++ "." ++ extension =
        String.ofList (stem.toList ++ '.' :: extension.toList) := by
      simp [String.ext_iff]
    rw [hname, splitExtension_dot hdot, if_neg (by simpa using hne)]
    simp

/-- The modules of a folder are its files with code, by their names without the extension. -/
theorem moduleOfFile?_eq_some {name stem : String} :
    moduleOfFile? name = some stem ↔ name = stem ++ ".rs" ∧ stem ≠ "" ∧ stem ≠ "mod" := by
  have hsplit : splitExtension name = (stem, some "rs") ↔ name = stem ++ ".rs" ∧ stem ≠ "" := by
    rw [splitExtension_eq_some, String.append_assoc]
    simp
  rw [← and_assoc, ← hsplit]
  unfold moduleOfFile?
  split
  · next other hother =>
      rw [hother]
      by_cases hmod : other = "mod"
      · rw [if_pos (beq_iff_eq.mpr hmod)]
        refine ⟨nofun, fun ⟨heq, hne⟩ => absurd ?_ hne⟩
        exact (Prod.mk.inj heq).1.symm.trans hmod
      · rw [if_neg (mt beq_iff_eq.mp hmod)]
        constructor
        · rintro ⟨⟩
          exact ⟨rfl, hmod⟩
        · rintro ⟨heq, -⟩
          exact congrArg some (Prod.mk.inj heq).1
  · next hother => exact ⟨nofun, fun h => absurd h.1 (hother stem)⟩

/-! ## The index -/

/-- A line of the index. -/
def indexLine (stem : String) : String := "pub mod " ++ stem ++ ";\n"

/-- The text lists the modules of a folder with these names. -/
structure IsIndex (stems : List String) (names : List String) : Prop where
  sorted : stems.Pairwise (· < ·)
  complete : ∀ stem, stem ∈ stems ↔ stem ≠ "" ∧ stem ≠ "mod" ∧ stem ++ ".rs" ∈ names

theorem index_lines (names : List String) :
    ∃ stems, index names = String.join (stems.map indexLine) ∧ IsIndex stems names := by
  refine ⟨_, rfl, foldl_insertSorted_sorted List.Pairwise.nil _, fun stem => ?_⟩
  rw [mem_foldl_insertSorted, List.mem_filterMap]
  constructor
  · rintro (hstem | ⟨name, hname, hmodule⟩)
    · cases hstem
    · obtain ⟨rfl, hne, hmod⟩ := moduleOfFile?_eq_some.mp hmodule
      exact ⟨hne, hmod, hname⟩
  · rintro ⟨hne, hmod, hname⟩
    exact .inr ⟨_, hname, moduleOfFile?_eq_some.mpr ⟨rfl, hne, hmod⟩⟩

end Command

end SoapBindings
