/-
# `SoapBindings.Proofs.Command.Schemas` — a run over schemas keeps what is there

A run over schemas writes a module only where nothing stands.  So whatever was there before stays,
and so does what was written for an earlier schema of the run: once the file of a module is there,
it is not written again.  The invariant is the same for every step, and a run that fails leaves it
as it is.

Only the index is written over, as the last step of a run that has not failed.
-/
import SoapBindings.Proofs.Command.Files
import SoapBindings.Proofs.Command.Index
import SoapBindings.Proofs.Command.Recording

namespace SoapBindings.Command

open Code (SourceModule)
open FileTree

/-! ## Steps that write -/

section Steps

variable {workingFolder : List String} {download? : Url → Option Document.Source}
  {failed : FileTree Artifact × Written → Prop} {s : FileTree Artifact × Written}

/-- Writing puts a file at a new place, or does nothing. -/
theorem write_cases (t : FileTree Artifact) (path : String) (artifact : Artifact) :
    (Workspace.ofTree workingFolder download?).write path artifact t = (false, t) ∨
    ∃ place, t.newPlace? workingFolder path = some place ∧ ¬t.isFolder place ∧
      (Workspace.ofTree workingFolder download?).write path artifact t =
        (true, t.put place (.file artifact)) := by
  unfold Workspace.ofTree
  dsimp only [bind, StateT.bind, get, getThe, MonadStateOf.get, StateT.get, pure]
  cases t.newPlace? workingFolder path with
  | none => exact .inl rfl
  | some place =>
      dsimp only
      cases hfolder : t.isFolder place with
      | true => exact .inl rfl
      | false => exact .inr ⟨place, rfl, by simp [hfolder], rfl⟩

theorem recorded_write {w : Workspace (StateM (FileTree Artifact))} {path : String}
    {artifact : Artifact} {t : FileTree Artifact} {ok : Bool}
    (h : w.write path artifact s.1 = (ok, t)) :
    w.recorded.write path artifact s =
      (ok, t, if ok then s.2 ++ [(path, artifact)] else s.2) := by
  have hrun : w.recorded.write path artifact s = (do
      if (w.write path artifact s.1).1 then modify fun s => (s.1, s.2 ++ [(path, artifact)])
      return (w.write path artifact s.1).1 : StateM (FileTree Artifact × Written) Bool)
        ((w.write path artifact s.1).2, s.2) := rfl
  rw [hrun, h]
  cases ok <;> rfl

theorem ensure_follows {x : StateM (FileTree Artifact) Bool}
    {y : StateM (FileTree Artifact × Written) Bool} {ok : Bool}
    {after : FileTree Artifact × Written} {done : PUnit → FileTree Artifact × Written → Prop}
    (hy : y s = (ok, after)) (hx : x s.1 = (ok, after.1)) (hfailed : ok = false → failed after)
    (hdone : ok = true → done ⟨⟩ after) : Follows failed s (ensure x) (ensure y) done := by
  unfold ensure
  refine Follows.bind (.act hy hx) ?_
  rintro ok after ⟨rfl, rfl⟩
  cases ok with
  | false => exact .throw (hfailed rfl)
  | true => exact .pure (hdone rfl)

/-- What is written is put at a new place, and on record; otherwise nothing is done. -/
theorem write_follows (hs : failed s) {path : String} {artifact : Artifact}
    {done : PUnit → FileTree Artifact × Written → Prop}
    (hdone : ∀ place, s.1.newPlace? workingFolder path = some place → ¬s.1.isFolder place →
      done ⟨⟩ (s.1.put place (.file artifact), s.2 ++ [(path, artifact)])) :
    Follows failed s (ensure ((Workspace.ofTree workingFolder download?).write path artifact))
      (ensure ((Workspace.ofTree workingFolder download?).recorded.write path artifact)) done := by
  obtain hwrite | ⟨place, hplace, hfree, hwrite⟩ := write_cases s.1 path artifact
  · exact ensure_follows (recorded_write hwrite) hwrite (fun _ => hs) nofun
  · exact ensure_follows (recorded_write hwrite) hwrite nofun fun _ => hdone place hplace hfree

/-- Folders are made where nothing stood. -/
theorem makeFolder_keeps (t : FileTree Artifact) (path : String) : ∃ ok t',
    (Workspace.ofTree workingFolder download?).makeFolder path t = (ok, t') ∧ t.Keeps t' := by
  have hkeeps := keeps_makeFolders t (start workingFolder path) (steps path)
  unfold Workspace.ofTree
  dsimp only
  cases path.isEmpty with
  | true => exact ⟨true, t, rfl, .refl _⟩
  | false => exact ⟨(t.makeFolders (start workingFolder path) (steps path)).2, _, rfl, hkeeps⟩

theorem makeFolder_follows (hs : ∀ t, s.1.Keeps t → failed (t, s.2)) (path : String) :
    Follows failed s (ensure ((Workspace.ofTree workingFolder download?).makeFolder path))
      (ensure ((Workspace.ofTree workingFolder download?).recorded.makeFolder path))
      fun _ after => s.1.Keeps after.1 ∧ after.2 = s.2 := by
  obtain ⟨ok, t, hmake, hkeeps⟩ := @makeFolder_keeps workingFolder download? s.1 path
  exact ensure_follows (besides_eq hmake) hmake (fun _ => hs t hkeeps) fun _ => ⟨hkeeps, rfl⟩

end Steps

/-! ## Modules -/

/-- The path that a module is written to. -/
def filePath (folder : String) (m : SourceModule) : String := join folder (fileName m)

/-- A module as it is written. -/
def unit (folder : String) (m : SourceModule) : String × Artifact := (filePath folder m, .code m)

/-- The modules have got files of their own, in which nothing was before. -/
structure AreFresh (workingFolder : List String) (folder : String)
    (before after : FileTree Artifact) (modules : List SourceModule) : Prop where
  distinct : (modules.map (·.ident)).Nodup
  absent : ∀ m ∈ modules, before.locate? workingFolder (filePath folder m) = none
  present : ∀ m ∈ modules, after.fileUnder? workingFolder (filePath folder m) = some (.code m)

/-- Before the index is written, everything is kept and every module was written once. -/
structure Underway (workingFolder : List String) (folder : String) (before : FileTree Artifact)
    (modules : List SourceModule) (s : FileTree Artifact × Written) : Prop where
  keeps : before.Keeps s.1
  written : s.2 = modules.map (unit folder)
  fresh : AreFresh workingFolder folder before s.1 modules

section Modules

variable {workingFolder : List String} {folder : String} {before : FileTree Artifact}
  {modules : List SourceModule} {s : FileTree Artifact × Written}

theorem AreFresh.grow {after after' : FileTree Artifact}
    (h : AreFresh workingFolder folder before after modules) (hkeeps : after.Keeps after') :
    AreFresh workingFolder folder before after' modules :=
  ⟨h.distinct, h.absent, fun m hm => hkeeps.fileUnder? (h.present m hm)⟩

/-- The files of modules are there, so a module whose file is not is none of them. -/
theorem AreFresh.ident_notMem {after : FileTree Artifact}
    (h : AreFresh workingFolder folder before after modules) {m : SourceModule}
    (hnew : after.locate? workingFolder (filePath folder m) = none) :
    m.ident ∉ modules.map (·.ident) := by
  intro hmem
  obtain ⟨other, hother, hident⟩ := List.mem_map.mp hmem
  obtain ⟨place, hfound, -⟩ := Option.bind_eq_some_iff.mp (h.present other hother)
  have hpath : filePath folder other = filePath folder m := by
    rw [filePath, fileName, hident]
    rfl
  rw [hpath, hnew] at hfound
  cases hfound

theorem Underway.start (before : FileTree Artifact) :
    Underway workingFolder folder before [] (before, []) :=
  ⟨.refl before, rfl, List.nodup_nil, nofun, nofun⟩

theorem Underway.grow (h : Underway workingFolder folder before modules s) {t : FileTree Artifact}
    (hkeeps : s.1.Keeps t) : Underway workingFolder folder before modules (t, s.2) :=
  ⟨h.keeps.trans hkeeps, h.written, h.fresh.grow hkeeps⟩

/-- A further module, whose file could not be found, gets one. -/
theorem Underway.write (h : Underway workingFolder folder before modules s) {m : SourceModule}
    {place : List String} (hnew : s.1.locate? workingFolder (filePath folder m) = none)
    (hplace : s.1.newPlace? workingFolder (filePath folder m) = some place) :
    Underway workingFolder folder before (modules ++ [m])
      (s.1.put place (.file (.code m)), s.2 ++ [unit folder m]) := by
  have hname := isName_fileName m
  obtain ⟨front, hsteps⟩ := steps_join hname folder
  have hfree : ¬s.1.contains place := by
    intro hcontains
    rw [filePath, locate?_newPlace? hsteps hname hplace, if_pos hcontains] at hnew
    cases hnew
  have hkeeps := keeps_put hfree (.file (.code m))
  have hlocate := locate?_put hsteps hname hplace (mt contains_of_isFolder hfree) (.file (.code m))
  refine ⟨h.keeps.trans hkeeps, ?_, ?_, fun other hother => ?_, fun other hother => ?_⟩
  · rw [h.written, List.map_append]
    rfl
  · rw [List.map_append]
    refine h.fresh.distinct.append (List.nodup_singleton _) fun ident hold hadded => ?_
    have hident : ident = m.ident := by simpa using hadded
    exact h.fresh.ident_notMem hnew (hident ▸ hold)
  · obtain hother | hother := List.mem_append.mp hother
    · exact h.fresh.absent other hother
    · rw [List.mem_singleton.mp hother]
      exact h.keeps.locate?_none hnew
  · obtain hother | hother := List.mem_append.mp hother
    · exact hkeeps.fileUnder? (h.fresh.present other hother)
    · rw [List.mem_singleton.mp hother]
      exact Option.bind_eq_some_iff.mpr ⟨place, hlocate, file?_put_self ..⟩

end Modules

/-! ## Runs -/

section Runs

variable {workingFolder : List String} {download? : Url → Option Document.Source} {folder : String}
  {before : FileTree Artifact} {s : FileTree Artifact × Written}

/-- For some modules, before the index is written. -/
abbrev IsUnderway (workingFolder : List String) (folder : String) (before : FileTree Artifact)
    (s : FileTree Artifact × Written) : Prop :=
  ∃ modules, Underway workingFolder folder before modules s

theorem writeModule_follows (hs : IsUnderway workingFolder folder before s) (m : SourceModule) :
    Follows (IsUnderway workingFolder folder before) s
      (writeModule (.ofTree workingFolder download?) folder false m)
      (writeModule (Workspace.ofTree workingFolder download?).recorded folder false m)
      fun _ => IsUnderway workingFolder folder before := by
  have hoccupied : (Workspace.ofTree workingFolder download?).recorded.isOccupied
      (filePath folder m) s = ((s.1.locate? workingFolder (filePath folder m)).isSome, s) := rfl
  unfold writeModule
  refine Follows.bind (.act hoccupied rfl) ?_
  rintro _ s ⟨rfl, rfl⟩
  cases hlocate : s.1.locate? workingFolder (filePath folder m) with
  | some place => exact .pure hs
  | none =>
      cases m.declaresReserved with
      | true => exact .throw hs
      | false =>
          refine write_follows hs fun place hplace _ => ?_
          obtain ⟨modules, h⟩ := hs
          exact ⟨_, h.write hlocate hplace⟩

theorem writeModules_follows (hs : IsUnderway workingFolder folder before s) (g : Generated) :
    Follows (IsUnderway workingFolder folder before) s
      (writeModules (.ofTree workingFolder download?) folder false g)
      (writeModules (Workspace.ofTree workingFolder download?).recorded folder false g)
      fun _ => IsUnderway workingFolder folder before :=
  .forM (fun m _ hs => writeModule_follows hs m) g.modules hs

theorem writeSchemas_follows {o : Options} (hs : IsUnderway workingFolder o.package before s) :
    Follows (IsUnderway workingFolder o.package before) s
      (writeSchemas (.ofTree workingFolder download?) o)
      (writeSchemas (Workspace.ofTree workingFolder download?).recorded o)
      fun _ => IsUnderway workingFolder o.package before := by
  have hinputs (inputs : List String) : Follows (IsUnderway workingFolder o.package before) s
      (inputs.forM fun input => do
        writeModules (.ofTree workingFolder download?) o.package false
          (← generateFrom (.ofTree workingFolder download?) input .xsd "operations"))
      (inputs.forM fun input => do
        writeModules (Workspace.ofTree workingFolder download?).recorded o.package false
          (← generateFrom (Workspace.ofTree workingFolder download?).recorded input .xsd
            "operations"))
      fun _ => IsUnderway workingFolder o.package before := by
    refine .forM (fun input s hs => ?_) inputs hs
    refine Follows.bind (generateFrom_follows workingFolder download? hs ..) ?_
    rintro g _ rfl
    exact writeModules_follows hs g
  unfold writeSchemas
  cases o.isFolder with
  | false =>
      rw [if_neg Bool.false_ne_true, if_neg Bool.false_ne_true, pure_bind, pure_bind]
      exact hinputs [o.input]
  | true =>
      refine Follows.bind (schemasBelow_follows workingFolder download? hs o.input) ?_
      rintro inputs _ rfl
      exact hinputs inputs

/-- The index is written, and what was kept and written before is as it was. -/
structure Finished (workingFolder : List String) (folder : String) (before : FileTree Artifact)
    (modules : List SourceModule) (s : FileTree Artifact × Written) : Prop where
  fresh : AreFresh workingFolder folder before s.1 modules
  indexed : ∃ parent stems, s.1.locate? workingFolder folder = some parent ∧
    IsIndex stems (s.1.children parent) ∧
    s.1.file? (parent ++ ["mod.rs"]) = some (.text (String.join (stems.map indexLine))) ∧
    s.2 = modules.map (unit folder) ++
      [(join folder "mod.rs", .text (String.join (stems.map indexLine)))] ∧
    ∀ place content, before.file? place = some content → place ≠ parent ++ ["mod.rs"] →
      s.1.file? place = some content

/-- The index has a place of its own, so no module is written over. -/
theorem AreFresh.index {after : FileTree Artifact} {modules : List SourceModule}
    (h : AreFresh workingFolder folder before after modules) {parent : List String}
    (hfree : ¬after.isFolder (parent ++ ["mod.rs"])) (node : FileNode Artifact) :
    AreFresh workingFolder folder before (after.put (parent ++ ["mod.rs"]) node) modules := by
  refine ⟨h.distinct, h.absent, fun m hm => ?_⟩
  obtain ⟨place, hplace, hcontent⟩ := Option.bind_eq_some_iff.mp (h.present m hm)
  have hname := isName_fileName m
  obtain ⟨front, hsteps⟩ := steps_join hname folder
  obtain ⟨mother, hmother⟩ := locate?_ends hsteps hname hplace
  have hother : place ≠ parent ++ ["mod.rs"] := by
    rintro rfl
    have hlast := congrArg List.getLast? hmother
    rw [List.getLast?_concat, List.getLast?_concat] at hlast
    exact fileName_ne_index m (Option.some.inj hlast).symm
  exact Option.bind_eq_some_iff.mpr ⟨place, (grows_put hfree node).locate? hplace,
    (file?_put_other hother node).trans hcontent⟩

/-- The index does not list itself, so it is right also once it is in the folder. -/
theorem IsIndex.put {t : FileTree Artifact} {stems parent : List String}
    (h : IsIndex stems (t.children parent)) (node : FileNode Artifact) :
    IsIndex stems ((t.put (parent ++ ["mod.rs"]) node).children parent) := by
  refine ⟨h.sorted, fun stem => (h.complete stem).trans ?_⟩
  refine and_congr_right fun _ => and_congr_right fun hmod => ?_
  rw [mem_children, mem_children, contains_put]
  refine ⟨.inl, fun hcontains => hcontains.resolve_right fun hbelow => hmod ?_⟩
  have heq := List.append_cancel_left (hbelow.eq_of_length (by simp))
  exact code_eq_index (List.singleton_inj.mp heq)

theorem Underway.index {modules : List SourceModule}
    (h : Underway workingFolder folder before modules s) {parent place : List String}
    (hparent : s.1.locate? workingFolder folder = some parent)
    (hplace : s.1.newPlace? workingFolder (join folder "mod.rs") = some place)
    (hfree : ¬s.1.isFolder place) :
    let text := index (s.1.children parent)
    Finished workingFolder folder before modules
      (s.1.put place (.file (.text text)), s.2 ++ [(join folder "mod.rs", .text text)]) := by
  have hfolder : folder ≠ "" := by
    rintro rfl
    cases hparent
  obtain ⟨parent', hparent', -, rfl⟩ := newPlace?_join isName_index hfolder hplace
  obtain rfl : parent' = parent := Option.some.inj (hparent'.symm.trans hparent)
  obtain ⟨stems, htext, hindex⟩ := index_lines (s.1.children parent')
  refine ⟨h.fresh.index hfree _, parent', stems, ?_, hindex.put _, ?_, ?_, ?_⟩
  · exact (grows_put hfree _).locate? hparent
  · rw [htext, file?_put_self]
  · rw [htext, h.written]
  · intro place content hcontent hother
    exact (file?_put_other hother _).trans (h.keeps.files hcontent)

theorem writeIndex_follows {modules : List SourceModule}
    (h : Underway workingFolder folder before modules s) :
    Follows (IsUnderway workingFolder folder before) s
      (writeIndex (.ofTree workingFolder download?) folder)
      (writeIndex (Workspace.ofTree workingFolder download?).recorded folder)
      fun _ => Finished workingFolder folder before modules := by
  have hnames : (Workspace.ofTree workingFolder download?).recorded.names? folder s =
      (((s.1.locate? workingFolder folder).filter s.1.isFolder).map s.1.children, s) := rfl
  unfold writeIndex
  refine Follows.bind (.act hnames rfl) ?_
  rintro _ s ⟨rfl, rfl⟩
  cases hfolder : (s.1.locate? workingFolder folder).filter s.1.isFolder with
  | none => exact .throw ⟨modules, h⟩
  | some parent =>
      have hparent := (Option.filter_eq_some_iff.mp hfolder).1
      exact write_follows ⟨modules, h⟩ fun place hplace hfree => h.index hparent hplace hfree

theorem run_follows {o : Options} (hxsd : o.processXsd = true) :
    Follows (IsUnderway workingFolder o.package before) (before, [])
      (run (.ofTree workingFolder download?) o)
      (run (Workspace.ofTree workingFolder download?).recorded o)
      fun _ s => ∃ modules, Finished workingFolder o.package before modules s := by
  have hstart : IsUnderway workingFolder o.package before (before, []) := ⟨[], .start before⟩
  unfold run
  refine Follows.bind (isSameFile_follows workingFolder download? o.input o.output) ?_
  rintro same _ rfl
  cases same with
  | true => exact .throw hstart
  | false =>
      refine Follows.bind (makeFolder_follows ?_ o.package) ?_
      · intro t hkeeps
        exact ⟨[], (Underway.start before).grow hkeeps⟩
      rintro _ ⟨t, written⟩ ⟨hkeeps, rfl⟩
      rw [hxsd]
      refine Follows.bind (writeSchemas_follows ⟨[], (Underway.start before).grow hkeeps⟩) ?_
      rintro _ s ⟨modules, h⟩
      exact (writeIndex_follows h).mono fun _ _ hfinished => ⟨modules, hfinished⟩

end Runs

/-- **A run over schemas keeps what is there.**  Whatever the tree of files, the options and the
documents on the web are, and wherever the run fails if it does, it writes modules only to files of
their own under which nothing was found before, none of them twice and none to the index, and what
it has written is there in the end.  If it fails, it has written nothing else, and all files are as
they were.  If it succeeds, it has written the index as well, and all other files are as they were;
the index has a line for every name of code in the folder but its own, and these lines are sorted
and differ. -/
theorem schemas_keep_files (workingFolder : List String) (download? : Url → Option Document.Source)
    (before : FileTree Artifact) (o : Options) (hxsd : o.processXsd = true) :
    let w := Workspace.ofTree workingFolder download?
    ∃ (answer : Except Failure PUnit) (after : FileTree Artifact) (written : Written)
        (modules : List SourceModule),
      (run w o).run.run before = (answer, after) ∧
      (run w.recorded o).run.run (before, []) = (answer, after, written) ∧
      AreFresh workingFolder o.package before after modules ∧
      (∀ m ∈ modules, fileName m ≠ "mod.rs") ∧
      match answer with
      | .error _ => before.Keeps after ∧ written = modules.map (unit o.package)
      | .ok _ => ∃ parent stems, after.locate? workingFolder o.package = some parent ∧
          IsIndex stems (after.children parent) ∧
          after.file? (parent ++ ["mod.rs"]) = some (.text (String.join (stems.map indexLine))) ∧
          written = modules.map (unit o.package) ++
            [(join o.package "mod.rs", .text (String.join (stems.map indexLine)))] ∧
          ∀ place content, before.file? place = some content → place ≠ parent ++ ["mod.rs"] →
            after.file? place = some content := by
  obtain ⟨answer, ⟨after, written⟩, hrecorded, hplain, h⟩ :=
    @run_follows workingFolder download? before o hxsd
  cases answer with
  | error e =>
      obtain ⟨modules, h⟩ := h
      exact ⟨.error e, after, written, modules, hplain, hrecorded, h.fresh,
        fun m _ => fileName_ne_index m, h.keeps, h.written⟩
  | ok done =>
      obtain ⟨modules, h⟩ := h
      exact ⟨.ok done, after, written, modules, hplain, hrecorded, h.fresh,
        fun m _ => fileName_ne_index m, h.indexed⟩

/-- Two schemas, one of which includes the other, and a file that has been edited since it was
written. -/
def editedFiles : FileTree Artifact :=
  { entries := [
      (["work", "lines.xsd"],
        .file (.text "<schema><include schemaLocation='points.xsd'/></schema>")),
      (["work", "points.xsd"], .file (.text "<schema/>")),
      (["work", "out", "points.rs"], .file (.text "// edited"))] }

/-- The package of a schema. -/
def linesOptions : Options := { package := "out", processXsd := true, input := "lines.xsd" }

/-- The run gives code for both schemas.  The edited file stays and is listed. -/
theorem schemas_keep_files_edited : ∃ after,
    (run (.ofTree ["work"] fun _ => none) linesOptions).run.run editedFiles = (.ok ⟨⟩, after) ∧
    after.file? ["work", "out", "points.rs"] = some (.text "// edited") ∧
    (after.fileUnder? ["work"] "out/mod.rs").map Artifact.content =
      some "pub mod lines;\npub mod points;\n" := by
  have hresult : (match (run (.ofTree ["work"] fun _ => none) linesOptions).run.run editedFiles with
      | (.ok _, after) => (after.fileUnder? ["work"] "out/mod.rs").map Artifact.content
      | (.error _, _) => none) = some "pub mod lines;\npub mod points;\n" := by
    decide +kernel
  obtain ⟨answer, after, written, modules, hrun, -, -, -, h⟩ :=
    schemas_keep_files ["work"] (fun _ => none) editedFiles linesOptions rfl
  rw [hrun] at hresult
  cases answer with
  | error e => cases hresult
  | ok done =>
      obtain ⟨parent, stems, -, -, -, -, hfiles⟩ := h
      refine ⟨after, hrun, hfiles _ _ rfl fun hplace => ?_, hresult⟩
      have hlast := congrArg List.getLast? hplace
      rw [List.getLast?_concat] at hlast
      exact absurd hlast (by decide)

end SoapBindings.Command
