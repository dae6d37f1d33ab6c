/-
# `SoapBindings.Proofs.FileTree` — trees of files that grow

Files and folders are put into a tree and never taken out of it.  Where something is put, nothing
stood or at most a file, so folders stay folders, and whoever walks along some names comes to the
same place as before.  Nothing has to be known of how the entries of a tree are listed: a folder is
one because of what is below it, and that does not go away.
-/
import SoapBindings.FileTree

namespace SoapBindings.FileTree

variable {γ : Type} {t t' t'' : FileTree γ} {place : List String}

/-! ## What stands in a tree -/

theorem hasBelow_iff :
    t.hasBelow place ↔ ∃ entry ∈ t.entries, place <+: entry.1 ∧ place.length < entry.1.length := by
  simp [hasBelow]

theorem isFolder_iff :
    t.isFolder place ↔ place = [] ∨ t.hasBelow place ∨ t.node? place = some .folder := by
  unfold isFolder
  cases t.node? place with
  | none => simp
  | some node => cases node <;> simp

theorem file?_eq_some {content : γ} :
    t.file? place = some content ↔ t.node? place = some (.file content) := by
  unfold file?
  cases t.node? place with
  | none => simp
  | some node => cases node <;> simp

theorem isSome_node? : (t.node? place).isSome ↔ ∃ entry ∈ t.entries, entry.1 = place := by
  rw [node?, List.lookup_isSome_iff]
  simp only [beq_iff_eq, eq_comm (a := place)]

/-- Something stands at a place if something is listed there or further down. -/
theorem contains_iff : t.contains place ↔ place = [] ∨ ∃ entry ∈ t.entries, place <+: entry.1 := by
  rw [contains, Bool.or_eq_true, isFolder_iff, hasBelow_iff, isSome_node?]
  constructor
  · rintro ((rfl | ⟨entry, hentry, hbelow, -⟩ | hfolder) | ⟨entry, hentry, rfl⟩)
    · exact .inl rfl
    · exact .inr ⟨entry, hentry, hbelow⟩
    · obtain ⟨entry, hentry, rfl⟩ := isSome_node?.mp (Option.isSome_of_eq_some hfolder)
      exact .inr ⟨entry, hentry, List.prefix_rfl⟩
    · exact .inr ⟨entry, hentry, List.prefix_rfl⟩
  · rintro (rfl | ⟨entry, hentry, hbelow⟩)
    · exact .inl (.inl rfl)
    · obtain hshort | hlong := Nat.lt_or_eq_of_le hbelow.length_le
      · exact .inl (.inr (.inl ⟨entry, hentry, hbelow, hshort⟩))
      · exact .inr ⟨entry, hentry, (hbelow.eq_of_length hlong).symm⟩

theorem contains_of_isFolder (h : t.isFolder place) : t.contains place := by simp [contains, h]

theorem contains_of_file? {content : γ} (h : t.file? place = some content) : t.contains place := by
  simp [contains, file?_eq_some.mp h]

theorem concat_prefix_iff {name : String} {path : List String} :
    place ++ [name] <+: path ↔ place <+: path ∧ path[place.length]? = some name := by
  constructor
  · rintro ⟨rest, rfl⟩
    exact ⟨⟨name :: rest, by simp⟩, by simp⟩
  · rintro ⟨⟨rest, rfl⟩, hname⟩
    cases rest with
    | nil => simp at hname
    | cons first rest =>
        obtain rfl : first = name := by simpa using hname
        exact ⟨rest, by simp⟩

/-- The names in a folder are those under which something stands there. -/
theorem mem_children {name : String} : name ∈ t.children place ↔ t.contains (place ++ [name]) := by
  rw [children, List.mem_eraseDups, List.mem_filterMap, contains_iff]
  simp [concat_prefix_iff]

/-! ## Putting something into a tree -/

theorem mem_entries_put {node : FileNode γ} {entry : List String × FileNode γ} :
    entry ∈ (t.put place node).entries ↔
      entry ∈ t.entries ∧ entry.1 ≠ place ∨ entry = (place, node) := by
  simp [put]

/-- What is put at a place stands there, and so do the folders on the way. -/
theorem contains_put {node : FileNode γ} {other : List String} :
    (t.put place node).contains other ↔ t.contains other ∨ other <+: place := by
  simp only [contains_iff, mem_entries_put]
  constructor
  · rintro (rfl | ⟨entry, ⟨hentry, -⟩ | rfl, hbelow⟩)
    · exact .inl (.inl rfl)
    · exact .inl (.inr ⟨entry, hentry, hbelow⟩)
    · exact .inr hbelow
  · rintro ((rfl | ⟨entry, hentry, hbelow⟩) | hbelow)
    · exact .inl rfl
    · by_cases hplace : entry.1 = place
      · exact .inr ⟨(place, node), .inr rfl, hplace ▸ hbelow⟩
      · exact .inr ⟨entry, .inl ⟨hentry, hplace⟩, hbelow⟩
    · exact .inr ⟨(place, node), .inr rfl, hbelow⟩

theorem hasBelow_put {node : FileNode γ} {other : List String} (h : t.hasBelow other) :
    (t.put place node).hasBelow other := by
  obtain ⟨entry, hentry, hbelow⟩ := hasBelow_iff.mp h
  refine hasBelow_iff.mpr ?_
  by_cases hplace : entry.1 = place
  · exact ⟨(place, node), mem_entries_put.mpr (.inr rfl), hplace ▸ hbelow⟩
  · exact ⟨entry, mem_entries_put.mpr (.inl ⟨hentry, hplace⟩), hbelow⟩

theorem lookup_filter_ne {entries : List (List String × FileNode γ)} {other : List String}
    (h : other ≠ place) :
    (entries.filter (·.1 != place)).lookup other = entries.lookup other := by
  induction entries with
  | nil => rfl
  | cons entry entries ih =>
      obtain ⟨path, node⟩ := entry
      by_cases hpath : path = place
      · subst hpath
        simp [List.lookup_cons, ih, beq_eq_false_iff_ne.mpr h]
      · simp [List.lookup_cons, ih, hpath]

@[simp] theorem node?_put_self (t : FileTree γ) (place : List String) (node : FileNode γ) :
    (t.put place node).node? place = some node := by
  have hnone : (t.entries.filter (·.1 != place)).lookup place = none := by
    refine List.lookup_eq_none_iff.mpr fun entry hentry => ?_
    have hne : entry.1 ≠ place := by simpa using (List.mem_filter.mp hentry).2
    simpa using hne.symm
  rw [node?, put, List.lookup_append, hnone]
  simp

theorem node?_put_other {other : List String} (h : other ≠ place) (node : FileNode γ) :
    (t.put place node).node? other = t.node? other := by
  rw [node?, put, List.lookup_append, lookup_filter_ne h]
  simp [List.lookup_cons, beq_eq_false_iff_ne.mpr h, node?]

theorem file?_put_self (t : FileTree γ) (place : List String) (content : γ) :
    (t.put place (.file content)).file? place = some content := by
  simp [file?]

theorem file?_put_other {other : List String} (h : other ≠ place) (node : FileNode γ) :
    (t.put place node).file? other = t.file? other := by
  rw [file?, node?_put_other h, file?]

/-! ## Growing -/

/-- Folders stay folders, and where something stood, something stands. -/
structure Grows (t t' : FileTree γ) : Prop where
  folders : ∀ {place}, t.isFolder place → t'.isFolder place
  places : ∀ {place}, t.contains place → t'.contains place

/-- Moreover files keep their contents. -/
structure Keeps (t t' : FileTree γ) : Prop extends Grows t t' where
  files : ∀ {place content}, t.file? place = some content → t'.file? place = some content

theorem Keeps.refl (t : FileTree γ) : Keeps t t := ⟨⟨id, id⟩, id⟩

theorem Grows.trans (h : Grows t t') (h' : Grows t' t'') : Grows t t'' :=
  ⟨fun hfolder => h'.folders (h.folders hfolder), fun hplace => h'.places (h.places hplace)⟩

theorem Keeps.trans (h : Keeps t t') (h' : Keeps t' t'') : Keeps t t'' :=
  ⟨h.toGrows.trans h'.toGrows, fun hfile => h'.files (h.files hfile)⟩

/-- A tree grows by what is put where no folder is. -/
theorem grows_put (h : ¬t.isFolder place) (node : FileNode γ) : Grows t (t.put place node) := by
  refine ⟨fun {other} hfolder => ?_, fun hplace => contains_put.mpr (.inl hplace)⟩
  have hother : other ≠ place := fun heq => h (heq ▸ hfolder)
  refine isFolder_iff.mpr ?_
  obtain hroot | hbelow | hlisted := isFolder_iff.mp hfolder
  · exact .inl hroot
  · exact .inr (.inl (hasBelow_put hbelow))
  · exact .inr (.inr ((node?_put_other hother node).trans hlisted))

/-- What is put where nothing stood changes no file. -/
theorem keeps_put (h : ¬t.contains place) (node : FileNode γ) : Keeps t (t.put place node) := by
  refine ⟨grows_put (fun hfolder => h (contains_of_isFolder hfolder)) node, fun hfile => ?_⟩
  rwa [file?_put_other]
  rintro rfl
  exact h (contains_of_file? hfile)

theorem keeps_makeFolders (t : FileTree γ) (place names : List String) :
    Keeps t (t.makeFolders place names).1 := by
  induction names generalizing t place with
  | nil => exact .refl t
  | cons name names ih =>
      unfold makeFolders
      dsimp only
      split
      · exact ih t place
      · split
        · exact ih t place.dropLast
        · split
          · exact ih t _
          · split
            · exact .refl t
            · next hfree =>
                refine (keeps_put ?_ _).trans (ih _ _)
                intro hplace
                simp [hplace] at hfree

/-! ## Walking -/

/-- A walk comes to the same place in a tree that has grown. -/
theorem Grows.walk (h : Grows t t') {names : List String} {goal : List String}
    (hwalk : t.walk place names = some goal) : t'.walk place names = some goal := by
  induction names generalizing place with
  | nil =>
      rw [FileTree.walk, Option.ite_none_right_eq_some] at hwalk ⊢
      exact ⟨h.places hwalk.1, hwalk.2⟩
  | cons name names ih =>
      rw [FileTree.walk] at hwalk ⊢
      by_cases hfolder : t.isFolder place
      · rw [h.folders hfolder]
        rw [hfolder] at hwalk
        simp only [Bool.not_true, Bool.false_eq_true, if_false] at hwalk ⊢
        split at hwalk
        · next hdot => rw [if_pos hdot]; exact ih hwalk
        · next hdot =>
            rw [if_neg hdot]
            split at hwalk
            · next hdots => rw [if_pos hdots]; exact ih hwalk
            · next hdots => rw [if_neg hdots]; exact ih hwalk
      · simp [hfolder] at hwalk

theorem Grows.locate? (h : Grows t t') {workingFolder : List String} {path : String}
    (hlocate : t.locate? workingFolder path = some place) :
    t'.locate? workingFolder path = some place := by
  unfold FileTree.locate? at hlocate ⊢
  split at hlocate
  · cases hlocate
  · next hpath =>
      rw [if_neg hpath]
      exact h.walk hlocate

/-- What could not be found in a grown tree was not there before. -/
theorem Grows.locate?_none (h : Grows t t') {workingFolder : List String} {path : String}
    (hlocate : t'.locate? workingFolder path = none) : t.locate? workingFolder path = none := by
  cases hbefore : t.locate? workingFolder path with
  | none => rfl
  | some place => rw [h.locate? hbefore] at hlocate; cases hlocate

/-- What stands in the file that a written path leads to. -/
def fileUnder? (t : FileTree γ) (workingFolder : List String) (path : String) : Option γ :=
  (t.locate? workingFolder path).bind t.file?

theorem Keeps.fileUnder? (h : Keeps t t') {workingFolder : List String} {path : String}
    {content : γ} (hfile : t.fileUnder? workingFolder path = some content) :
    t'.fileUnder? workingFolder path = some content := by
  obtain ⟨place, hplace, hcontent⟩ := Option.bind_eq_some_iff.mp hfile
  exact Option.bind_eq_some_iff.mpr ⟨place, h.locate? hplace, h.files hcontent⟩

/-- A name that leads one step further down. -/
structure IsName (name : String) : Prop where
  unbroken : '/' ∉ name.toList
  ne_empty : name ≠ ""
  ne_dot : name ≠ "."
  ne_dots : name ≠ ".."

/-- A walk that goes on has come to a folder. -/
theorem walk_append (place names : List String) {more : List String} (h : more ≠ []) :
    t.walk place (names ++ more) =
      ((t.walk place names).filter t.isFolder).bind fun folder => t.walk folder more := by
  induction names generalizing place with
  | nil =>
      obtain ⟨first, rest, rfl⟩ := List.exists_cons_of_ne_nil h
      by_cases hfolder : t.isFolder place
      · rw [List.nil_append, FileTree.walk, if_pos (contains_of_isFolder hfolder)]
        simp [Option.filter_some, hfolder]
      · have hend : t.walk place (first :: rest) = none := by simp [FileTree.walk, hfolder]
        rw [List.nil_append, hend, FileTree.walk]
        split <;> simp [Option.filter_some, hfolder]
  | cons first names ih =>
      rw [List.cons_append, FileTree.walk, FileTree.walk, ih, ih, ih]
      split
      · rfl
      · split
        · rfl
        · split <;> rfl

theorem walk_name {name : String} (h : IsName name) {folder : List String}
    (hfolder : t.isFolder folder) : t.walk folder [name] =
      if t.contains (folder ++ [name]) then some (folder ++ [name]) else none := by
  simp [FileTree.walk, hfolder, h.ne_empty, h.ne_dot, h.ne_dots]

/-- A slash at the end asks for a folder. -/
theorem walk_slash (place names : List String) :
    t.walk place (names ++ [""]) = (t.walk place names).filter t.isFolder := by
  rw [walk_append place names (List.cons_ne_nil _ _)]
  cases t.walk place names with
  | none => rfl
  | some goal =>
      by_cases hfolder : t.isFolder goal
      · simp [FileTree.walk, Option.filter_some, hfolder, contains_of_isFolder hfolder]
      · simp [Option.filter_some, hfolder]

/-! ## Written paths -/

/-- The names of a written path, detours included. -/
def steps (path : String) : List String := (path.toList.splitOn '/').map String.ofList

/-- Where the walk along a written path begins. -/
def start (workingFolder : List String) (path : String) : List String :=
  if Url.isAbsolutePath path then [] else workingFolder

theorem locate?_eq (t : FileTree γ) (workingFolder : List String) {path : String} (h : path ≠ "") :
    t.locate? workingFolder path = t.walk (start workingFolder path) (steps path) := by
  have hempty : path.isEmpty = false := by simpa using h
  rw [locate?, hempty]
  rfl

section Ends

variable {workingFolder front : List String} {path name : String}
  (hsteps : steps path = front ++ [name]) (hname : IsName name)
include hsteps

/-- A new place is one step from a folder. -/
theorem newPlace?_eq_some :
    t.newPlace? workingFolder path = some place ↔
      name.utf8ByteSize ≤ maxNameSize ∧ ∃ folder,
        t.walk (start workingFolder path) front = some folder ∧ t.isFolder folder ∧
          folder ++ [name] = place := by
  unfold newPlace?
  rw [show (path.toList.splitOn '/').map String.ofList = front ++ [name] from hsteps]
  simp only [List.getLast?_concat, List.dropLast_concat, Option.ite_none_left_eq_some, Nat.not_lt,
    Option.map_eq_some_iff, Option.filter_eq_some_iff, and_assoc]
  rfl

theorem Grows.newPlace? (h : Grows t t') (hplace : t.newPlace? workingFolder path = some place) :
    t'.newPlace? workingFolder path = some place := by
  obtain ⟨hshort, folder, hwalk, hfolder, rfl⟩ := (newPlace?_eq_some hsteps).mp hplace
  exact (newPlace?_eq_some hsteps).mpr ⟨hshort, folder, h.walk hwalk, h.folders hfolder, rfl⟩

include hname

theorem ne_empty_of_steps : path ≠ "" := by
  rintro rfl
  have hempty : [] ++ [""] = front ++ [name] := hsteps
  exact hname.ne_empty (List.singleton_inj.mp (List.append_inj' hempty rfl).2).symm

/-- What a path with a name at its end leads to has this name. -/
theorem locate?_ends (hlocate : t.locate? workingFolder path = some place) :
    ∃ folder, place = folder ++ [name] := by
  rw [locate?_eq t workingFolder (ne_empty_of_steps hsteps hname), hsteps,
    walk_append _ _ (List.cons_ne_nil _ _)] at hlocate
  obtain ⟨folder, hfolder, hname'⟩ := Option.bind_eq_some_iff.mp hlocate
  rw [walk_name hname (Option.filter_eq_some_iff.mp hfolder).2,
    Option.ite_none_right_eq_some] at hname'
  exact ⟨folder, (Option.some.inj hname'.2).symm⟩

/-- Where something new could be put, it is found as soon as it is there. -/
theorem locate?_newPlace? (hplace : t.newPlace? workingFolder path = some place) :
    t.locate? workingFolder path = if t.contains place then some place else none := by
  obtain ⟨-, folder, hwalk, hfolder, rfl⟩ := (newPlace?_eq_some hsteps).mp hplace
  rw [locate?_eq t workingFolder (ne_empty_of_steps hsteps hname), hsteps,
    walk_append _ _ (List.cons_ne_nil _ _), hwalk, Option.filter_some, if_pos hfolder]
  exact walk_name hname hfolder

/-- What is put at a new place is found there. -/
theorem locate?_put (hplace : t.newPlace? workingFolder path = some place)
    (hfree : ¬t.isFolder place) (node : FileNode γ) :
    (t.put place node).locate? workingFolder path = some place := by
  have hplace' := (grows_put hfree node).newPlace? hsteps hplace
  rw [locate?_newPlace? hsteps hname hplace', if_pos (contains_put.mpr (.inr List.prefix_rfl))]

end Ends

end SoapBindings.FileTree
