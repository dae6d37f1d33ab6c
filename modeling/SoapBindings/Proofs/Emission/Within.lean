/-
# `SoapBindings.Proofs.Emission.Within` — all that is done for one record

The fields of a record come from one task and the tasks inside it, however deep.  `Within` lists
them without a bound on the depth.  A script to some depth does every one of them, unless a field is
missing for want of depth; and a script in which none is missing has the same fields at every
greater depth.
-/
import SoapBindings.Proofs.Emission.Declared
import SoapBindings.Proofs.Emission.Parts

namespace SoapBindings.Emission

open Xsd

/-! ## Tasks within a task -/

/-- A task that is done for the same record as the first one. -/
inductive Within (r : Resolver) (k : Stacks) (task : Task) : Stacks → Task → Prop
  | refl : Within r k task k task
  | step {k' k'' : Stacks} {task' task'' : Task} : Within r k task k' task' →
      Subtask r k' task' k'' task'' → Within r k task k'' task''

theorem Within.standsIn {d : Document} {k k' : Stacks} {task task' : Task}
    (h : Within (.ofDocument d) k task k' task') (htask : task.StandsIn d) : task'.StandsIn d := by
  induction h with
  | refl => exact htask
  | step _ hsub ih => exact hsub.standsIn ih

section Contains

variable {r : Resolver} {package : Option String} {scripts : Scripting} {k k' : Stacks}
  {task task' : Task}

/-- A derivation adds its own content after what it takes over. -/
theorem contentScript_contains {parent : String} {t : ComplexType} {d : Derivation}
    (hd : d ∈ t.derivations) :
    ∃ first, (contentScript r package scripts k parent t).Contains
        (first ++ additionScript scripts k parent d) ∧
      ∀ declared type, d.kind = .extension → d.base.bind r.baseType? = some (declared, type) →
        Naming.typeName declared ∉ k.expanding →
        first = scripts (k.inBase (Naming.typeName declared))
          (.content (Naming.typeName declared) type) := by
  unfold contentScript
  obtain hd | hd := List.mem_append.mp hd
  · rw [Option.mem_toList.mp hd]
    refine ⟨_, ((((((Script.Contains.refl _).left _).left _).left _).left _).left _).left _, ?_⟩
    intro declared type hkind hbase hopen
    simp [hkind, hbase, inlineScript, hopen]
  · rw [Option.mem_toList.mp hd]
    refine ⟨_, ((((((Script.Contains.refl _).right _).left _).left _).left _).left _).left _, ?_⟩
    intro declared type hkind hbase hopen
    simp [hkind, hbase, inlineScript, hopen]

/-- A script does the tasks inside its own. -/
theorem Subtask.contains (h : Subtask r k task k' task') :
    (stepScript r package scripts k task).Contains (scripts k' task') := by
  cases h with
  | @element parent t e he =>
      obtain he | he := List.mem_append.mp he
      · obtain ⟨d, hd, he⟩ := List.mem_flatMap.mp he
        obtain ⟨first, hcontains, -⟩ := contentScript_contains hd
        refine hcontains.trans (.right ?_ first)
        exact (((Script.Contains.each he _).left _).left _).left _
      · exact (((((Script.Contains.each he _).right _).left _).left _).left _).left _
  | @group parent reference t hreference =>
      obtain hreference | hreference := List.mem_append.mp hreference
      · obtain ⟨d, hd, hreference⟩ := List.mem_flatMap.mp hreference
        obtain ⟨first, hcontains, -⟩ := contentScript_contains hd
        refine hcontains.trans (.right ?_ first)
        exact (((Script.Contains.each hreference _).right _).left _).left _
      · exact ((((Script.Contains.each hreference _).right _).left _).left _).left _
  | @attributes parent t part hpart =>
      obtain hpart | hpart := List.mem_append.mp hpart
      · obtain ⟨d, hd, rfl⟩ := List.mem_map.mp hpart
        obtain ⟨first, hcontains, -⟩ := contentScript_contains hd
        exact hcontains.trans (.right (.right (.refl _) _) first)
      · rw [List.mem_singleton.mp hpart]
        exact (Script.Contains.right (.refl _) _).left _
  | base hd hkind hbase hopen =>
      obtain ⟨first, hcontains, hfirst⟩ := contentScript_contains hd
      rw [hfirst _ _ hkind hbase hopen] at hcontains
      exact hcontains.trans (.left (.refl _) _)
  | groupElement hg hopen he =>
      simp only [stepScript, groupScript, hg]
      rw [if_neg (by simpa using hopen)]
      exact (Script.Contains.each he _).left _
  | groupReference hg hopen hnested =>
      simp only [stepScript, groupScript, hg]
      rw [if_neg (by simpa using hopen)]
      exact (Script.Contains.each hnested _).right _
  | attributeGroup hreference hg hopen =>
      refine ((Script.Contains.each hreference _).right _).trans ?_
      simp only [attributeGroupScript, hg]
      rw [if_neg (by simpa using hopen)]
      exact .refl _

/-- A script without a gap does every task that is within its own. -/
theorem Within.contains (h : Within r k task k' task') {depth : Nat}
    (hwhole : (script r package depth k task).whole) :
    ∃ depth', (script r package depth k task).Contains
      (stepScript r package (script r package depth') k' task') := by
  have hstep {depth : Nat} {k : Stacks} {task : Task}
      (hwhole : (script r package depth k task).whole) :
      ∃ depth',
        script r package depth k task = stepScript r package (script r package depth') k task := by
    cases depth with
    | zero => exact absurd hwhole id
    | succ depth => exact ⟨depth, rfl⟩
  induction h with
  | refl =>
      obtain ⟨depth', hscript⟩ := hstep hwhole
      exact ⟨depth', hscript ▸ .refl _⟩
  | step _ hsub ih =>
      obtain ⟨depth', hcontains⟩ := ih
      have hinside := hcontains.trans hsub.contains
      obtain ⟨depth'', hscript⟩ := hstep (hinside.whole hwhole)
      exact ⟨depth'', hscript ▸ hinside⟩

end Contains

/-! ## Fields -/

/-- Fields are only added, behind those that are there. -/
theorem Script.fields_prefix (p : Script) (fs : Fields) : fs.fields <+: (p.fields fs).fields := by
  induction p generalizing fs with
  | done => exact List.prefix_rfl
  | skip rest ih | refer _ rest ih | synonym _ rest ih | record _ _ _ _ rest _ ih | cut rest ih =>
      exact ih fs
  | field name documentation content rest ih =>
      exact (List.prefix_append fs.fields _).trans (ih (fs.add name documentation content))
  | text type rest ih => exact (fs.prefix_addText type).trans (ih (fs.addText type))

/-- A field that is there stays there. -/
theorem Script.fields_subset (p : Script) (fs : Fields) : fs.fields ⊆ (p.fields fs).fields :=
  (p.fields_prefix fs).subset

theorem Script.Contains.mem_fields {p : Script} {name : String} {documentation : Option String}
    {content : Code.Content} (h : p.Contains (.field name documentation content .done))
    (fs : Fields) : ∃ f ∈ (p.fields fs).fields, f.content = content := by
  obtain ⟨before, after, rfl⟩ := h
  rw [fields_append, fields_append]
  exact ⟨_, after.fields_subset _ (List.mem_append_right _ List.mem_cons_self), rfl⟩

/-! ## Greater depths -/

/-- Where no field is missing from the one script, the other has the same fields. -/
def Settles (p q : Script) : Prop := p.whole → q.whole ∧ ∀ fs, q.fields fs = p.fields fs

namespace Settles

theorem refl (p : Script) : Settles p p := fun h => ⟨h, fun _ => rfl⟩

theorem append {p q p' q' : Script} (h : Settles p q) (h' : Settles p' q') :
    Settles (p ++ p') (q ++ q') := by
  intro hwhole
  obtain ⟨hp, hp'⟩ := (Script.whole_append _ _).mp hwhole
  obtain ⟨hq, hfields⟩ := h hp
  obtain ⟨hq', hfields'⟩ := h' hp'
  refine ⟨(Script.whole_append _ _).mpr ⟨hq, hq'⟩, fun fs => ?_⟩
  rw [Script.fields_append, Script.fields_append, hfields, hfields']

theorem piecewise : Piecewise Settles := ⟨refl _, append, refl _, refl _⟩

variable {r : Resolver} {package : Option String} {scripts scripts' : Scripting} {k : Stacks}

/-- What a record inside holds is not a field of the record at hand. -/
theorem element (parent : String) (e : Element) :
    Settles (elementScript r package scripts k parent e)
      (elementScript r package scripts' k parent e) := by
  obtain ⟨form, hform, hscript⟩ := elementScript_form r package k parent e
  rw [hscript, hscript]
  cases hform with
  | complexType _ _ _ _ => exact append (fun _ => ⟨trivial, fun _ => rfl⟩) (refl _)
  | missing | field _ | simpleType _ _ _ _ _ => exact refl _

/-- A task settles as the tasks inside it do. -/
theorem step {task : Task}
    (h : ∀ {k' task'}, Subtask r k task k' task' → Settles (scripts k' task') (scripts' k' task')) :
    Settles (stepScript r package scripts k task) (stepScript r package scripts' k task) := by
  cases task with
  | content parent t =>
      exact piecewise.content _ _
        ⟨fun _ he => h (.element he), fun _ hg => h (.group hg),
          fun _ hpart => h (.attributes hpart)⟩
        (fun _ hd hkind _ _ hbase hopen => h (.base hd hkind hbase hopen)) fun _ _ _ => .refl _
  | element parent e => exact .element parent e
  | group parent reference =>
      exact piecewise.group _ _ fun _ hg hopen =>
        ⟨fun _ he => h (.groupElement hg hopen he), fun _ hn => h (.groupReference hg hopen hn)⟩
  | attributes parent attributes groups =>
      exact piecewise.attributes _ _ (fun _ _ => .refl _)
        fun _ hreference _ hg hopen => h (.attributeGroup hreference hg hopen)

end Settles

theorem script_settles (r : Resolver) (package : Option String) {depth depth' : Nat}
    (hdepth : depth ≤ depth') (k : Stacks) (task : Task) :
    Settles (script r package depth k task) (script r package depth' k task) := by
  induction depth generalizing depth' k task with
  | zero => exact fun hwhole => absurd hwhole id
  | succ depth ih =>
      obtain ⟨depth', rfl⟩ : ∃ n, depth' = n + 1 := ⟨depth' - 1, by omega⟩
      exact Settles.step fun _ => ih (Nat.le_of_succ_le_succ hdepth) _ _

end SoapBindings.Emission
