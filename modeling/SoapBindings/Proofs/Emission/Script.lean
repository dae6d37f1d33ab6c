/-
# `SoapBindings.Proofs.Emission.Script` — what an expansion does, as data

Expansion runs in a state: what has been declared decides which anonymous types are still to be
declared, and three stacks decide what may be expanded at all.  Only the first of these depends on
what happened before.  The stacks are the same whenever a task is done, so all that a task does can
be written down as a script of actions before anything is done: `script` is that script, and
`Proofs.Emission.Expansion` shows that `expand` does it.

A script has two readings, and they do not mix.  `Script.fields` says what it adds to the record at
hand, which needs no state; `Script.emit` says what it leaves in the state, where the fields of
the record at hand do not matter.
-/
import SoapBindings.Emission.Expansion

namespace SoapBindings

/-! ## Stacks and changes of the state -/

namespace Emission

/-- What is being expanded. -/
structure Stacks where
  groups : List String := []
  attributeGroups : List String := []
  expanding : List String := []

namespace Stacks

/-- Inside a base that is expanded in place. -/
def inBase (k : Stacks) (name : String) : Stacks := { k with expanding := name :: k.expanding }

/-- Inside a record that is declared on its own. -/
def inRecord (k : Stacks) (name : String) : Stacks := { k with expanding := [name] }

def inGroup (k : Stacks) (name : String) : Stacks := { k with groups := name :: k.groups }

def inAttributeGroup (k : Stacks) (name : String) : Stacks :=
  { k with attributeGroups := name :: k.attributeGroups }

end Stacks

def toStacks (s : Emission) : Stacks :=
  { groups := s.groups, attributeGroups := s.attributeGroups, expanding := s.expanding }

def withStacks (s : Emission) (k : Stacks) : Emission :=
  { s with groups := k.groups, attributeGroups := k.attributeGroups, expanding := k.expanding }

def noted (s : Emission) (type : TypeRef) : Emission :=
  { s with context := s.context.note type }

def marked (s : Emission) (name : String) : Emission :=
  { s with context := s.context.markEmitted name }

def listed (s : Emission) (declaration : Option Code.Declaration) : Emission :=
  { s with declarations := s.declarations ++ [declaration] }

/-- Declare under a name, unless it is taken. -/
def claiming (s : Emission) (name : String) (declare : Emission → Emission) : Emission :=
  if s.context.isEmitted name then s.listed none else declare (s.marked name)

@[simp] theorem toStacks_withStacks (s : Emission) (k : Stacks) :
    (s.withStacks k).toStacks = k := rfl

@[simp] theorem withStacks_toStacks (s : Emission) : s.withStacks s.toStacks = s := rfl

@[simp] theorem listed_context (s : Emission) (declaration : Option Code.Declaration) :
    (s.listed declaration).context = s.context := rfl

@[simp] theorem withStacks_context (s : Emission) (k : Stacks) :
    (s.withStacks k).context = s.context := rfl

end Emission

theorem Context.note_package (c : Context) (t : TypeRef) : (c.note t).package = c.package := by
  cases t <;> rfl

theorem Context.note_emitted (c : Context) (t : TypeRef) : (c.note t).emitted = c.emitted := by
  cases t <;> rfl

theorem Context.markEmitted_package (c : Context) (name : String) :
    (c.markEmitted name).package = c.package := by
  unfold markEmitted
  split <;> rfl

theorem Context.markEmitted_imports (c : Context) (name : String) :
    (c.markEmitted name).imports = c.imports := by
  unfold markEmitted
  split <;> rfl

theorem mem_insertSorted (xs : List String) (x y : String) :
    y ∈ insertSorted xs x ↔ y = x ∨ y ∈ xs := by
  induction xs with
  | nil => simp [insertSorted]
  | cons z xs ih =>
      unfold insertSorted
      split
      · next hx => subst hx; simp
      · split
        · simp
        · rw [List.mem_cons, ih, List.mem_cons, or_left_comm]

/-- Names stay taken, and packages stay in use. -/
structure Context.Grown (c c' : Context) : Prop where
  emitted : c.emitted ⊆ c'.emitted
  imports : c.imports ⊆ c'.imports

theorem Context.Grown.refl (c : Context) : c.Grown c := ⟨fun _ h => h, fun _ h => h⟩

theorem Context.Grown.trans {c c' c'' : Context} (h : c.Grown c') (h' : c'.Grown c'') :
    c.Grown c'' :=
  ⟨fun _ hx => h'.emitted (h.emitted hx), fun _ hx => h'.imports (h.imports hx)⟩

theorem Context.note_grown (c : Context) (t : TypeRef) : c.Grown (c.note t) := by
  cases t with
  | foreign package name kind =>
      exact ⟨fun _ h => h, fun q hq => (mem_insertSorted _ package q).mpr (.inr hq)⟩
  | _ => exact .refl c

theorem Context.markEmitted_grown (c : Context) (name : String) : c.Grown (c.markEmitted name) := by
  unfold markEmitted
  split
  · exact .refl c
  · exact ⟨fun _ h => List.mem_cons_of_mem _ h, fun _ h => h⟩

namespace Emission

theorem claiming_package {s : Emission} {name : String} {declare : Emission → Emission}
    (h : ∀ s, (declare s).context.package = s.context.package) :
    (s.claiming name declare).context.package = s.context.package := by
  unfold claiming
  split
  · rfl
  · exact (h _).trans (Context.markEmitted_package ..)

theorem claiming_withStacks {s : Emission} {k : Stacks} {name : String}
    {declare : Emission → Emission}
    (h : ∀ s, declare (s.withStacks k) = (declare s).withStacks k) :
    (s.withStacks k).claiming name declare = (s.claiming name declare).withStacks k := by
  unfold claiming
  rw [withStacks_context]
  split
  · rfl
  · exact h (s.marked name)

/-- What happens under a name only matters where the name is free. -/
theorem claiming_congr {s : Emission} {name : String} {declare declare' : Emission → Emission}
    (h : name ∉ s.context.emitted → declare (s.marked name) = declare' (s.marked name)) :
    s.claiming name declare = s.claiming name declare' := by
  unfold claiming
  split
  · rfl
  · next hfree => exact h (by simpa [Context.isEmitted] using hfree)

theorem claiming_exhausted {s : Emission} {name : String} {declare : Emission → Emission}
    (h : name ∉ s.context.emitted → (declare (s.marked name)).exhausted = s.exhausted) :
    (s.claiming name declare).exhausted = s.exhausted := by
  unfold claiming
  split
  · rfl
  · next hfree => exact h (by simpa [Context.isEmitted] using hfree)

/-! ### Growth -/

theorem noted_grown (s : Emission) (type : TypeRef) : s.context.Grown (s.noted type).context :=
  s.context.note_grown type

theorem marked_grown (s : Emission) (name : String) : s.context.Grown (s.marked name).context :=
  s.context.markEmitted_grown name

theorem marked_emitted (s : Emission) (name : String) :
    name ∈ (s.marked name).context.emitted := by
  unfold marked Context.markEmitted
  split
  · next h => simpa [Context.isEmitted] using h
  · exact List.mem_cons_self

theorem noted_imports {s : Emission} {t : TypeRef} {package : String} :
    package ∈ (s.noted t).context.imports ↔
      package ∈ s.context.imports ∨ ∃ name kind, t = .foreign package name kind := by
  cases t with
  | foreign other name kind =>
      change package ∈ insertSorted s.context.imports other ↔ _
      rw [mem_insertSorted, or_comm]
      simp [eq_comm]
  | builtin | own => simp [noted, Context.note]

theorem marked_imports (s : Emission) (name : String) :
    (s.marked name).context.imports = s.context.imports := Context.markEmitted_imports ..

theorem claiming_grown {s : Emission} {name : String} {declare : Emission → Emission}
    (h : ∀ s : Emission, s.context.Grown (declare s).context) :
    s.context.Grown (s.claiming name declare).context := by
  unfold claiming
  split
  · exact .refl s.context
  · exact (marked_grown s name).trans (h _)

/-- A name that was claimed is taken, by whichever definition. -/
theorem claiming_emitted {s : Emission} {name : String} {declare : Emission → Emission}
    (h : ∀ s : Emission, s.context.Grown (declare s).context) :
    name ∈ (s.claiming name declare).context.emitted := by
  unfold claiming
  split
  · next htaken =>
      change name ∈ s.context.emitted
      simpa [Context.isEmitted] using htaken
  · exact (h _).emitted (marked_emitted s name)

end Emission

/-! ## Scripts -/

namespace Emission

/-- Actions in order. -/
inductive Script where
  | done
  /-- List a definition that is skipped. -/
  | skip (rest : Script)
  /-- Take note of a type that is not written. -/
  | refer (type : TypeRef) (rest : Script)
  /-- Add a field, whose type is taken note of. -/
  | field (name : String) (documentation : Option String) (content : Code.Content)
      (rest : Script)
  /-- Add a field for text, whose type is taken note of. -/
  | text (type : TypeRef) (rest : Script)
  /-- Declare a synonym, unless its name is taken. -/
  | synonym (synonym : Code.Synonym) (rest : Script)
  /-- Declare a record with the fields of `inner`, unless its name is taken. -/
  | record (name xmlName : String) (documentation : Option String) (inner rest : Script)
  /-- The bound on the depth is reached. -/
  | cut (rest : Script)

namespace Script

def append : Script → Script → Script
  | done, q => q
  | skip rest, q => skip (rest.append q)
  | refer type rest, q => refer type (rest.append q)
  | field name documentation content rest, q => field name documentation content (rest.append q)
  | text type rest, q => text type (rest.append q)
  | synonym a rest, q => synonym a (rest.append q)
  | record name xmlName documentation inner rest, q =>
    record name xmlName documentation inner (rest.append q)
  | cut rest, q => cut (rest.append q)

instance : Append Script := ⟨append⟩

/-- One script after the other, one to an item of a list. -/
def each {α : Type} (items : List α) (script : α → Script) : Script :=
  items.foldr (fun item rest => script item ++ rest) done

/-- The script of something that may be missing. -/
def ofOption {α : Type} (item : Option α) (script : α → Script) : Script :=
  match item with
  | some a => script a
  | none => done

/-- The fields of the record at hand, after the actions. -/
def fields : Script → Fields → Fields
  | done, fs => fs
  | skip rest, fs => rest.fields fs
  | refer _ rest, fs => rest.fields fs
  | field name documentation content rest, fs => rest.fields (fs.add name documentation content)
  | text type rest, fs => rest.fields (fs.addText type)
  | synonym _ rest, fs => rest.fields fs
  | record _ _ _ _ rest, fs => rest.fields fs
  | cut rest, fs => rest.fields fs

/-- The state after the actions. -/
def emit : Script → Emission → Emission
  | done, s => s
  | skip rest, s => rest.emit (s.listed none)
  | refer type rest, s => rest.emit (s.noted type)
  | field _ _ content rest, s => rest.emit (s.noted content.type)
  | text type rest, s => rest.emit (s.noted type)
  | synonym a rest, s =>
    rest.emit (s.claiming a.name fun s => (s.noted a.target).listed (some (.synonym a)))
  | record name xmlName documentation inner rest, s =>
    rest.emit (s.claiming name fun s =>
      (inner.emit s).listed (some (Emission.record name xmlName documentation (inner.fields {}))))
  | cut rest, s => rest.emit { s with exhausted := true }

/-! ### Scripts in a row -/

@[simp] theorem append_done (p : Script) : p ++ done = p := by
  change p.append done = p
  induction p with
  | done => rfl
  | _ => simp_all [append]

@[simp] theorem done_append (p : Script) : done ++ p = p := rfl

@[simp] theorem skip_append (p q : Script) : skip p ++ q = skip (p ++ q) := rfl

@[simp] theorem refer_append (type : TypeRef) (p q : Script) :
    refer type p ++ q = refer type (p ++ q) := rfl

@[simp] theorem field_append (name : String) (documentation : Option String)
    (content : Code.Content) (p q : Script) :
    field name documentation content p ++ q = field name documentation content (p ++ q) := rfl

@[simp] theorem text_append (type : TypeRef) (p q : Script) :
    text type p ++ q = text type (p ++ q) := rfl

@[simp] theorem synonym_append (a : Code.Synonym) (p q : Script) :
    synonym a p ++ q = synonym a (p ++ q) := rfl

@[simp] theorem record_append (name xmlName : String) (documentation : Option String)
    (inner p q : Script) :
    record name xmlName documentation inner p ++ q =
      record name xmlName documentation inner (p ++ q) := rfl

@[simp] theorem cut_append (p q : Script) : cut p ++ q = cut (p ++ q) := rfl

@[simp] theorem each_nil {α : Type} (script : α → Script) : each [] script = done := rfl

@[simp] theorem each_cons {α : Type} (item : α) (items : List α) (script : α → Script) :
    each (item :: items) script = script item ++ each items script := rfl

@[simp] theorem fields_append (p q : Script) (fs : Fields) :
    (p ++ q).fields fs = q.fields (p.fields fs) := by
  induction p generalizing fs with
  | done => rfl
  | _ => simp_all [fields]

@[simp] theorem emit_append (p q : Script) (s : Emission) :
    (p ++ q).emit s = q.emit (p.emit s) := by
  induction p generalizing s with
  | done => rfl
  | _ => simp_all [emit]

theorem append_assoc (p q q' : Script) : p ++ q ++ q' = p ++ (q ++ q') := by
  change (p.append q).append q' = p.append (q.append q')
  induction p with
  | done => rfl
  | _ => simp_all [append]

/-- Between other actions, a script does another one for the same record. -/
def Contains (p q : Script) : Prop := ∃ before after, p = before ++ q ++ after

namespace Contains

theorem refl (p : Script) : p.Contains p := ⟨done, done, by simp⟩

theorem left {p q : Script} (h : p.Contains q) (p' : Script) : (p ++ p').Contains q := by
  obtain ⟨before, after, rfl⟩ := h
  exact ⟨before, after ++ p', by simp only [append_assoc]⟩

theorem right {p q : Script} (h : p.Contains q) (p' : Script) : (p' ++ p).Contains q := by
  obtain ⟨before, after, rfl⟩ := h
  exact ⟨p' ++ before, after, by simp only [append_assoc]⟩

theorem trans {p q q' : Script} (h : p.Contains q) (h' : q.Contains q') : p.Contains q' := by
  obtain ⟨before, after, rfl⟩ := h
  exact (h'.right before).left after

theorem each {α : Type} {items : List α} {item : α} (h : item ∈ items) (p : α → Script) :
    (each items p).Contains (p item) := by
  induction items with
  | nil => cases h
  | cons other items ih =>
      obtain rfl | h := List.mem_cons.mp h
      · exact (refl _).left _
      · exact (ih h).right _

end Contains

/-! ### What a script leaves alone -/

@[simp] theorem emit_package (p : Script) (s : Emission) :
    (p.emit s).context.package = s.context.package := by
  induction p generalizing s with
  | done => rfl
  | skip rest ih => exact ih _
  | refer _ rest ih => exact (ih _).trans (Context.note_package ..)
  | field _ _ _ rest ih => exact (ih _).trans (Context.note_package ..)
  | text _ rest ih => exact (ih _).trans (Context.note_package ..)
  | synonym a rest ih =>
      refine (ih _).trans (claiming_package fun s => ?_)
      exact Context.note_package ..
  | record _ _ _ inner rest ihInner ih => exact (ih _).trans (claiming_package ihInner)
  | cut rest ih => exact ih _

/-- A script neither reads the stacks nor changes them. -/
theorem emit_withStacks (p : Script) (s : Emission) (k : Stacks) :
    p.emit (s.withStacks k) = (p.emit s).withStacks k := by
  induction p generalizing s with
  | done => rfl
  | skip rest ih => exact ih (s.listed none)
  | refer type rest ih => exact ih (s.noted type)
  | field _ _ content rest ih => exact ih (s.noted content.type)
  | text type rest ih => exact ih (s.noted type)
  | synonym a rest ih =>
      simp only [emit]
      rw [claiming_withStacks fun s => rfl]
      exact ih _
  | record name xmlName documentation inner rest ihInner ih =>
      simp only [emit]
      rw [claiming_withStacks fun s => congrArg (listed · _) (ihInner s)]
      exact ih _
  | cut rest ih => exact ih { s with exhausted := true }

@[simp] theorem emit_toStacks (p : Script) (s : Emission) : (p.emit s).toStacks = s.toStacks := by
  have h := emit_withStacks p s s.toStacks
  rw [withStacks_toStacks] at h
  rw [h, toStacks_withStacks]

theorem emit_grown (p : Script) (s : Emission) : s.context.Grown (p.emit s).context := by
  induction p generalizing s with
  | done => exact .refl s.context
  | skip rest ih => exact ih (s.listed none)
  | refer type rest ih => exact (noted_grown s type).trans (ih _)
  | field name documentation content rest ih => exact (noted_grown s content.type).trans (ih _)
  | text type rest ih => exact (noted_grown s type).trans (ih _)
  | synonym a rest ih =>
      refine (claiming_grown fun s => ?_).trans (ih _)
      exact noted_grown s a.target
  | record name xmlName documentation inner rest ihInner ih =>
      refine (claiming_grown fun s => ?_).trans (ih _)
      exact ihInner s
  | cut rest ih => exact ih { s with exhausted := true }

end Script

end Emission

end SoapBindings
