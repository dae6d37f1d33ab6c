/-
# `SoapBindings.Proofs.Command.Recording` — runs with all writing on record

The files that a run leaves do not tell how often they were written.  So a workspace is given a
record of what is written to it, in order.  A run in it does what it does without, and writes down
what it has written.

`Follows` says of a part of a run that the record makes no difference to it, together with what
holds of files and record when it is done.  A run may fail anywhere, so there is one property for
that.
-/
import SoapBindings.Command.Run
import SoapBindings.Proofs.Document.Answers

namespace SoapBindings.Command

/-- What has been written and where to, in order. -/
abbrev Written := List (String × Artifact)

variable {σ α β : Type}

/-- Do something beside a record. -/
def besides (x : StateM σ α) : StateM (σ × Written) α :=
  fun s => ((x s.1).1, (x s.1).2, s.2)

theorem besides_eq {x : StateM σ α} {s : σ × Written} {a : α} {t : σ} (h : x s.1 = (a, t)) :
    besides x s = (a, t, s.2) := by
  show ((x s.1).1, (x s.1).2, s.2) = (a, t, s.2)
  rw [h]

/-- A workspace with a record of what is written to it. -/
def Workspace.recorded (w : Workspace (StateM σ)) : Workspace (StateM (σ × Written)) where
  canonicalPath? path := besides (w.canonicalPath? path)
  fileAt? path := besides (w.fileAt? path)
  download? url := besides (w.download? url)
  names? path := besides (w.names? path)
  filesBelow? path := besides (w.filesBelow? path)
  isOccupied path := besides (w.isOccupied path)
  makeFolder path := besides (w.makeFolder path)
  write path artifact := do
    let done ← besides (w.write path artifact)
    if done then modify fun s => (s.1, s.2 ++ [(path, artifact)])
    return done

/-- From a state, part of a run does with a record what it does without.  Then `failed` holds if it
fails, and otherwise `done` of its result. -/
def Follows (failed : σ × Written → Prop) (s : σ × Written) (x : ExceptT Failure (StateM σ) α)
    (y : ExceptT Failure (StateM (σ × Written)) α) (done : α → σ × Written → Prop) : Prop :=
  ∃ answer after, y.run.run s = (answer, after) ∧ x.run.run s.1 = (answer, after.1) ∧
    match answer with
    | .ok a => done a after
    | .error _ => failed after

namespace Follows

variable {failed : σ × Written → Prop} {s : σ × Written} {done : α → σ × Written → Prop}

theorem pure {a : α} (h : done a s) : Follows failed s (Pure.pure a) (Pure.pure a) done :=
  ⟨.ok a, s, rfl, rfl, h⟩

theorem throw {e : Failure} (h : failed s) :
    Follows failed s (throwThe Failure e) (throwThe Failure e) done :=
  ⟨.error e, s, rfl, rfl, h⟩

theorem mono {x : ExceptT Failure (StateM σ) α} {y : ExceptT Failure (StateM (σ × Written)) α}
    {done' : α → σ × Written → Prop} (h : Follows failed s x y done)
    (hdone : ∀ a after, done a after → done' a after) : Follows failed s x y done' := by
  obtain ⟨answer, after, hrecorded, hplain, hafter⟩ := h
  refine ⟨answer, after, hrecorded, hplain, ?_⟩
  cases answer with
  | ok a => exact hdone a after hafter
  | error e => exact hafter

/-- An action on the workspace. -/
theorem act {x : StateM σ α} {y : StateM (σ × Written) α} {a : α} {after : σ × Written}
    (hy : y s = (a, after)) (hx : x s.1 = (a, after.1)) :
    Follows failed s (ExceptT.lift x) (ExceptT.lift y) fun b t => b = a ∧ t = after := by
  refine ⟨.ok a, after, ?_, ?_, rfl, rfl⟩
  · exact congrArg (fun r : α × (σ × Written) => (Except.ok r.1, r.2)) hy
  · exact congrArg (fun r : α × σ => (Except.ok r.1, r.2)) hx

theorem bind {x : ExceptT Failure (StateM σ) α} {y : ExceptT Failure (StateM (σ × Written)) α}
    {f : α → ExceptT Failure (StateM σ) β} {g : α → ExceptT Failure (StateM (σ × Written)) β}
    {finished : β → σ × Written → Prop} (h : Follows failed s x y done)
    (hf : ∀ a after, done a after → Follows failed after (f a) (g a) finished) :
    Follows failed s (x >>= f) (y >>= g) finished := by
  have hy : (y >>= g).run.run s = (ExceptT.bindCont g (y.run.run s).1).run (y.run.run s).2 := rfl
  have hx : (x >>= f).run.run s.1 =
      (ExceptT.bindCont f (x.run.run s.1).1).run (x.run.run s.1).2 := rfl
  obtain ⟨answer, after, hrecorded, hplain, hafter⟩ := h
  rw [hrecorded] at hy
  rw [hplain] at hx
  unfold Follows
  rw [hx, hy]
  cases answer with
  | error e => exact ⟨.error e, after, rfl, rfl, hafter⟩
  | ok a => exact hf a after hafter

/-- What every step of a loop keeps holds when the loop is done, and where it fails. -/
theorem forM {I : σ × Written → Prop} {f : α → ExceptT Failure (StateM σ) PUnit}
    {g : α → ExceptT Failure (StateM (σ × Written)) PUnit}
    (h : ∀ a s, I s → Follows I s (f a) (g a) fun _ => I) (items : List α) (hs : I s) :
    Follows I s (items.forM f) (items.forM g) fun _ => I := by
  induction items generalizing s with
  | nil => exact .pure hs
  | cons item items ih => exact (h item s hs).bind fun _ after hafter => ih hafter

end Follows

/-! ## Trees of files -/

section Trees

variable (workingFolder : List String) (download? : Url → Option Document.Source)
  {failed : FileTree Artifact × Written → Prop} {s : FileTree Artifact × Written}

/-- The code of a document is the same, and to generate it changes nothing. -/
theorem generateFrom_follows (hs : failed s) (location : String) (kind : DocumentKind)
    (operations : String) :
    Follows failed s (generateFrom (.ofTree workingFolder download?) location kind operations)
      (generateFrom (Workspace.ofTree workingFolder download?).recorded location kind operations)
      fun _ after => after = s := by
  let store := fun tree : FileTree Artifact =>
    Document.Store.ofTree (tree.map Artifact.content) workingFolder download?
  have hplain := Document.load_answers store s.1 maxDepth location kind
  have hrecorded := Document.load_answers (fun s : FileTree Artifact × Written => store s.1) s
    maxDepth location kind
  unfold generateFrom
  refine Follows.bind (.act hrecorded hplain) ?_
  rintro loaded _ ⟨-, rfl⟩
  cases loaded with
  | error e => exact .throw hs
  | ok d =>
      dsimp only
      cases d.generate operations with
      | error e => exact .throw hs
      | ok generated => exact .pure rfl

theorem schemasBelow_follows (hs : failed s) (folder : String) :
    Follows failed s (schemasBelow (.ofTree workingFolder download?) folder)
      (schemasBelow (Workspace.ofTree workingFolder download?).recorded folder)
      fun _ after => after = s := by
  unfold schemasBelow
  refine Follows.bind (.act rfl rfl) ?_
  rintro paths? _ ⟨-, rfl⟩
  cases paths? with
  | none => exact .throw hs
  | some paths => exact .pure rfl

theorem lift_bind (x : StateM σ α) (f : α → StateM σ β) :
    (ExceptT.lift (x >>= f) : ExceptT Failure (StateM σ) β) =
      ExceptT.lift x >>= fun a => ExceptT.lift (f a) :=
  rfl

theorem isSameFile_follows (a b : String) :
    Follows failed s (ExceptT.lift (isSameFile (.ofTree workingFolder download?) a b))
      (ExceptT.lift (isSameFile (Workspace.ofTree workingFolder download?).recorded a b))
      fun _ after => after = s := by
  unfold isSameFile
  rw [lift_bind, lift_bind]
  refine Follows.bind (.act rfl rfl) ?_
  rintro first _ ⟨-, rfl⟩
  rw [lift_bind, lift_bind]
  refine Follows.bind (.act rfl rfl) ?_
  rintro second _ ⟨-, rfl⟩
  split
  · exact Follows.mono (.act rfl rfl) fun _ _ h => h.2
  · exact Follows.mono (.act rfl rfl) fun _ _ h => h.2

end Trees

end SoapBindings.Command
