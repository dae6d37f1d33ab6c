/-
# `SoapBindings.Proofs.Command.Files` — the files of a package

A file in a folder is written under the folder's path and its name, and it ends up in that folder.
The file of a module has a name of its own: it leads nowhere else, as it has no slash, and it is not
that of the index, since the index is named by a reserved word and no module is.
-/
import SoapBindings.Command.Run
import SoapBindings.Proofs.FileTree
import SoapBindings.Proofs.Naming.Ascii

namespace SoapBindings

open FileTree

/-! ## Paths -/

namespace FileTree

theorem steps_slash (front back : List Char) :
    steps (String.ofList (front ++ '/' :: back)) =
      steps (String.ofList front) ++ steps (String.ofList back) := by
  simp [steps, List.splitOn_append_cons_self]

theorem steps_name {name : String} (h : IsName name) : steps name = [name] := by
  simp [steps, List.splitOn_eq_singleton h.unbroken]

theorem steps_slash_name {name : String} (h : IsName name) (front : List Char) :
    steps (String.ofList (front ++ '/' :: name.toList)) =
      steps (String.ofList front) ++ [name] := by
  rw [steps_slash, String.ofList_toList, steps_name h]

end FileTree

namespace Command

variable {folder name : String}

/-- A path of a file begins as that of its folder does, with one slash before the name. -/
theorem join_cases (hfolder : folder ≠ "") (name : String) :
    (∃ front, folder.toList = front ++ ['/'] ∧
      join folder name = String.ofList (front ++ '/' :: name.toList)) ∨
    join folder name = String.ofList (folder.toList ++ '/' :: name.toList) := by
  have hempty : folder.isEmpty = false := by simpa using hfolder
  unfold join
  rw [hempty, Bool.false_or]
  split
  · next hslash =>
      obtain ⟨front, hfront⟩ := List.getLast?_eq_some_iff.mp (beq_iff_eq.mp hslash)
      refine .inl ⟨front, hfront, String.toList_injective ?_⟩
      simp [hfront]
  · refine .inr (String.toList_injective ?_)
    simp

theorem isAbsolutePath_join (hfolder : folder ≠ "") (name : String) :
    Url.isAbsolutePath (join folder name) = Url.isAbsolutePath folder := by
  have hne : folder.toList ≠ [] := by simpa using hfolder
  unfold Url.isAbsolutePath
  obtain ⟨front, hfront, hjoin⟩ | hjoin := join_cases hfolder name
  · rw [hjoin, hfront, String.toList_ofList]
    cases front <;> rfl
  · obtain ⟨first, rest, hfirst⟩ := List.exists_cons_of_ne_nil hne
    rw [hjoin, String.toList_ofList, hfirst]
    rfl

/-- The last name along the path of a file is its own. -/
theorem steps_join (h : IsName name) (folder : String) :
    ∃ front, steps (join folder name) = front ++ [name] := by
  by_cases hfolder : folder = ""
  · have hjoin : join folder name = name := by simp [hfolder, join]
    exact ⟨[], (congrArg steps hjoin).trans (steps_name h)⟩
  · obtain ⟨front, -, hjoin⟩ | hjoin := join_cases hfolder name
    · exact ⟨_, (congrArg steps hjoin).trans (steps_slash_name h _)⟩
    · exact ⟨_, (congrArg steps hjoin).trans (steps_slash_name h _)⟩

/-- Before its own name, the path of a file leads into the folder. -/
theorem walk_join {γ : Type} (t : FileTree γ) (h : IsName name) (hfolder : folder ≠ "")
    {front : List String} (hfront : steps (join folder name) = front ++ [name])
    (workingFolder : List String) :
    (t.walk (start workingFolder (join folder name)) front).filter t.isFolder =
      (t.locate? workingFolder folder).filter t.isFolder := by
  have hstart : start workingFolder (join folder name) = start workingFolder folder := by
    unfold start
    rw [isAbsolutePath_join hfolder]
  rw [hstart, locate?_eq t workingFolder hfolder]
  obtain ⟨cs, hcs, hjoin⟩ | hjoin := join_cases hfolder name
  · rw [hjoin, steps_slash_name h] at hfront
    have hsteps : steps folder = front ++ [""] := by
      rw [← (List.append_inj' hfront rfl).1, ← String.ofList_toList (s := folder), hcs]
      exact steps_slash cs []
    rw [hsteps, walk_slash, Option.filter_filter]
    simp
  · rw [hjoin, steps_slash_name h, String.ofList_toList] at hfront
    rw [(List.append_inj' hfront rfl).1]

/-- A new file ends up in its folder. -/
theorem newPlace?_join {γ : Type} {t : FileTree γ} {workingFolder place : List String}
    (h : IsName name) (hfolder : folder ≠ "")
    (hplace : t.newPlace? workingFolder (join folder name) = some place) :
    ∃ parent, t.locate? workingFolder folder = some parent ∧ t.isFolder parent ∧
      parent ++ [name] = place := by
  obtain ⟨front, hfront⟩ := steps_join h folder
  obtain ⟨-, parent, hwalk, hparent, rfl⟩ := (newPlace?_eq_some hfront).mp hplace
  have hjoin := walk_join t h hfolder hfront workingFolder
  rw [hwalk, Option.filter_some, if_pos hparent] at hjoin
  exact ⟨parent, (Option.filter_eq_some_iff.mp hjoin.symm).1, hparent, rfl⟩

/-! ## Modules -/

/-- The name of a module's file. -/
def fileName (m : Code.SourceModule) : String := m.ident ++ ".rs"

theorem isName_code {stem : String} (h : '/' ∉ stem.toList) : IsName (stem ++ ".rs") := by
  have hlong (other : String) (hother : other.length < 3) : stem ++ ".rs" ≠ other := by
    rintro rfl
    rw [String.length_append] at hother
    have hext : ".rs".length = 3 := rfl
    omega
  refine ⟨?_, hlong _ (by decide), hlong _ (by decide), hlong _ (by decide)⟩
  simpa using h

theorem isName_index : IsName "mod.rs" := @isName_code "mod" (by decide)

theorem slash_moduleName (package : String) : '/' ∉ (Naming.moduleName package).toList := by
  have hwords : '/' ∉ Naming.moduleWords package := by
    unfold Naming.moduleWords
    split
    · decide
    · intro hslash
      obtain heq | ⟨letter, hletter, heq⟩ := Naming.mem_separateWords hslash
      · cases heq
      · have hlower := Naming.isAlphanumeric_toLower (Naming.isAlphanumeric_of_mem_letters hletter)
        rw [← heq] at hlower
        exact absurd hlower (by decide)
  obtain ⟨before, after, hrepaired⟩ := Naming.repaired_eq (Naming.moduleWords package)
  rw [Naming.moduleName_eq, String.toList_ofList, hrepaired]
  simp [hwords]

theorem isName_fileName (m : Code.SourceModule) : IsName (fileName m) :=
  isName_code (slash_moduleName m.package)

theorem code_eq_index {stem : String} (h : stem ++ ".rs" = "mod.rs") : stem = "mod" := by
  have hindex : "mod" ++ ".rs" = "mod.rs" := by decide
  rw [← hindex] at h
  exact (String.append_left_inj ".rs").mp h

/-- The naming of modules keeps them away from the index. -/
theorem ident_ne_mod (m : Code.SourceModule) : m.ident ≠ "mod" := by
  intro h
  have hfree : Naming.isReserved m.ident = false := Naming.isReserved_moduleName m.package
  rw [h] at hfree
  exact absurd hfree (by decide)

theorem fileName_ne_index (m : Code.SourceModule) : fileName m ≠ "mod.rs" :=
  fun h => ident_ne_mod m (code_eq_index h)

end Command

end SoapBindings
