/-
# `SoapBindings.Proofs.Document.Locality` — what an element does, wherever it stands

The reader of a document keeps one frame for each open element.  A step looks at the frames on top
of the stack and at nothing else (`Effect`): what is below them stays as it is, and the service
description only gains entries, from parts of one that are on top.  So do the steps of a whole
element taken together, whatever is in it (`passage_effect`).  Entries are never gained where there
is no service description to gain them, since no part of one is open before one is set up
(`readToken_fits`).
-/
import Mathlib.Data.List.Basic
import SoapBindings.Proofs.Document.Faults
import SoapBindings.Proofs.Markup.Rows

namespace SoapBindings

/-! ## Entries -/

namespace Wsdl.Definitions

/-- A service description with more entries of each kind.  Its name is its own. -/
def append (d gained : Definitions) : Definitions :=
  { d with
    imports := d.imports ++ gained.imports
    schemas := d.schemas ++ gained.schemas
    messages := d.messages ++ gained.messages
    portTypes := d.portTypes ++ gained.portTypes
    bindings := d.bindings ++ gained.bindings
    services := d.services ++ gained.services }

@[simp] theorem append_empty (d : Definitions) : d.append {} = d := by
  simp [append]

theorem append_append (d e gained : Definitions) :
    (d.append e).append gained = d.append (e.append gained) := by
  simp [append]

end Wsdl.Definitions

namespace Document

open Markup Xsd Wsdl

namespace Assembly

theorem update_push (a : Assembly) (change : Definitions → Definitions) (child : Frame) :
    (a.update change >>= fun a => pure (a.push child)) =
      update { a with stack := child :: a.stack } change := by
  rw [update, update]
  cases a.definitions <;> rfl

/-- If one of the frames belongs to a service description, there is one. -/
def Ready (a : Assembly) (frames : List Frame) : Prop :=
  ∀ frame ∈ frames, frame.isService → a.definitions.isSome

/-- The assembly with entries gained, and another stack. -/
def gaining (a : Assembly) (gained : Definitions) (stack : List Frame) : Assembly :=
  { a with definitions := a.definitions.map (·.append gained), stack }

theorem gaining_nothing (a : Assembly) (stack : List Frame) :
    a.gaining {} stack = { a with stack } := by
  cases hdefinitions : a.definitions <;> simp [gaining, hdefinitions]

theorem update_eq_gaining {a : Assembly} (hready : a.definitions.isSome) (gained : Definitions)
    {change : Definitions → Definitions} (hchange : ∀ d, change d = d.append gained) :
    a.update change = .ok (a.gaining gained a.stack) := by
  obtain ⟨d, hd⟩ := Option.isSome_iff_exists.mp hready
  simp [update, gaining, hd, hchange]

end Assembly

open Assembly

/-! ## Steps that look at the top of the stack -/

/-- A step that takes the frames on top for others, `size` of them, or fails for what it reads.
Nothing else of the assembly matters to it.  Without a part of a service description on top, it
gains no entries and no such part. -/
inductive Effect (top : List Frame) (size : Nat) (f : Assembly → Except LoadError Assembly) : Prop
  | fails (e : LoadError) (he : OfToken e)
      (h : ∀ a below, a.stack = top ++ below → a.Ready top → f a = .error e)
  | moves (next : List Frame) (gained : Definitions) (hsize : next.length = size)
      (hplain : (∀ frame ∈ top, frame.isService = false) →
        gained = {} ∧ ∀ frame ∈ next, frame.isService = false)
      (h : ∀ a below, a.stack = top ++ below → a.Ready top →
        f a = .ok (a.gaining gained (next ++ below)))

namespace Effect

variable {top : List Frame} {n m : Nat} {f g : Assembly → Except LoadError Assembly}

/-- A part of a service description in place of the frames on top comes from one among them. -/
theorem ready_gaining {next : List Frame} {gained : Definitions} {stack : List Frame}
    (hplain : (∀ frame ∈ top, frame.isService = false) → ∀ frame ∈ next, frame.isService = false)
    {a : Assembly} (hready : a.Ready top) : (a.gaining gained stack).Ready next := by
  intro frame hframe hservice
  cases hdefinitions : a.definitions with
  | some d => simp [gaining, hdefinitions]
  | none =>
      have htop : ∀ other ∈ top, other.isService = false := by
        intro other hother
        rw [← Bool.not_eq_true]
        intro hservice
        have hsome := hready other hother hservice
        rw [hdefinitions] at hsome
        cases hsome
      rw [hplain htop frame hframe] at hservice
      cases hservice

/-- One step behind the other. -/
theorem bind (hf : Effect top n f) (hg : ∀ next : List Frame, next.length = n → Effect next m g) :
    Effect top m fun a => f a >>= g := by
  cases hf with
  | fails e he h =>
      refine .fails e he ?_
      intro a below hstack hready
      rw [h a below hstack hready]
      rfl
  | moves next gained hsize hplain h =>
      have hnext {a : Assembly} (stack : List Frame) (hready : a.Ready top) :
          (a.gaining gained stack).Ready next := ready_gaining (fun htop => (hplain htop).2) hready
      cases hg next hsize with
      | fails e he h' =>
          refine .fails e he ?_
          intro a below hstack hready
          rw [h a below hstack hready]
          exact h' _ below rfl (hnext _ hready)
      | moves last more hsize' hplain' h' =>
          refine .moves last (gained.append more) hsize' ?_ ?_
          · intro htop
            obtain ⟨rfl, hnextPlain⟩ := hplain htop
            obtain ⟨rfl, hlast⟩ := hplain' hnextPlain
            exact ⟨rfl, hlast⟩
          · intro a below hstack hready
            rw [h a below hstack hready]
            show g _ = _
            rw [h' _ below rfl (hnext _ hready)]
            simp [gaining, Function.comp_def, Definitions.append_append]

/-- What is below the frames on top may as well be counted among them. -/
theorem frame (hf : Effect top n f) (more : List Frame) :
    Effect (top ++ more) (n + more.length) f := by
  have htop {a : Assembly} (hready : a.Ready (top ++ more)) : a.Ready top :=
    fun frame hframe => hready frame (List.mem_append_left more hframe)
  cases hf with
  | fails e he h =>
      refine .fails e he ?_
      intro a below hstack hready
      exact h a (more ++ below) (by rw [hstack, List.append_assoc]) (htop hready)
  | moves next gained hsize hplain h =>
      refine .moves (next ++ more) gained (by rw [List.length_append, hsize]) ?_ ?_
      · intro hall
        obtain ⟨htop, hmore⟩ := List.forall_mem_append.mp hall
        obtain ⟨hgained, hnext⟩ := hplain htop
        exact ⟨hgained, List.forall_mem_append.mpr ⟨hnext, hmore⟩⟩
      · intro a below hstack hready
        rw [h a (more ++ below) (by rw [hstack, List.append_assoc]) (htop hready),
          List.append_assoc]

/-- What has been read first is read alike in any assembly. -/
theorem ofValue {β : Type} {x : Except LoadError β} {Q : β → Prop} (hx : Yields OfToken Q x)
    {f : Assembly → β → Except LoadError Assembly} (hf : ∀ b, Q b → Effect top n (f · b)) :
    Effect top n fun a => x >>= f a := by
  cases x with
  | error e => exact .fails e hx fun _ _ _ _ => rfl
  | ok b => exact hf b hx

/-- A step that is the same on every assembly that has these frames on top. -/
theorem congr (hg : Effect top n g)
    (h : ∀ a below, a.stack = top ++ below → f a = g a) : Effect top n f := by
  cases hg with
  | fails e he hg =>
      exact .fails e he fun a below hstack hready =>
        (h a below hstack).trans (hg a below hstack hready)
  | moves next gained hsize hplain hg =>
      exact .moves next gained hsize hplain fun a below hstack hready =>
        (h a below hstack).trans (hg a below hstack hready)

end Effect

variable {α : Type} [DecidableEq α] [TextUnit α]

/-! ## Single tokens -/

/-- A step that puts these frames in the place of those on top, and gains nothing. -/
theorem effect_of_stack {top : List Frame} (next : List Frame)
    {f : Assembly → Except LoadError Assembly}
    (hnext : (∀ frame ∈ top, frame.isService = false) → ∀ frame ∈ next, frame.isService = false)
    (h : ∀ a below, a.stack = top ++ below → f a = .ok { a with stack := next ++ below }) :
    Effect top next.length f := by
  refine .moves next {} rfl (fun htop => ⟨rfl, hnext htop⟩) ?_
  intro a below hstack _
  rw [h a below hstack, gaining_nothing]

/-- A step that adds to the service description, which must be there. -/
theorem effect_of_update {top : List Frame} (next : List Frame) (gained : Definitions)
    {f : Assembly → Except LoadError Assembly} (change : Definitions → Definitions)
    (htop : ∃ frame ∈ top, frame.isService) (hchange : ∀ d, change d = d.append gained)
    (h : ∀ a below, a.stack = top ++ below →
      f a = update { a with stack := next ++ below } change) : Effect top next.length f := by
  obtain ⟨frame, hframe, hservice⟩ := htop
  refine .moves next gained rfl ?_ ?_
  · intro hplain
    rw [hplain frame hframe] at hservice
    cases hservice
  · intro a below hstack hready
    rw [h a below hstack]
    exact update_eq_gaining (a := { a with stack := next ++ below }) (hready frame hframe hservice)
      gained hchange

/-- A child is opened, and its parent stays as it is. -/
theorem push_effect (parent : Frame) {child : Frame} (hchild : child.isService → parent.isService) :
    Effect [parent] 2 fun a => pure (a.push child) := by
  refine effect_of_stack [child, parent] ?_ ?_
  · intro hparent
    have hparent := hparent parent List.mem_cons_self
    simpa [hparent] using hchild
  · intro a below hstack
    simp only [push, hstack]
    rfl

theorem openInDefinitions_effect (name : String) (tag : List α) :
    Effect [.definitions] 2 (·.openInDefinitions name tag) := by
  have hopen (child : Frame) : Effect [.definitions] 2 fun a => pure (a.push child) :=
    push_effect .definitions fun _ => rfl
  have hrequired {f : Values → String → Assembly → Except LoadError Assembly} (names : List String)
      (element key : String) (hf : ∀ v value, Effect [.definitions] 2 (f v value)) :
      Effect [.definitions] 2 fun a =>
        readValues names tag >>= fun v => required element key v >>= fun value => f v value a :=
    .ofValue (readValues_yields names tag) fun v _ =>
      .ofValue (required_yields element key v) fun value _ => hf v value
  unfold openInDefinitions
  split
  · refine hrequired _ _ _ fun v location => ?_
    refine effect_of_update [.other "import", .definitions]
      { imports := [⟨v.lookup "namespace", location⟩] }
      (fun d => { d with imports := d.imports ++ [⟨v.lookup "namespace", location⟩] })
      ⟨.definitions, List.mem_cons_self, rfl⟩ ?_ ?_
    · intro d
      simp [Definitions.append]
    · intro a below hstack
      exact (update_push a _ _).trans (by rw [hstack]; rfl)
  · exact hopen _
  · exact hrequired _ _ _ fun _ _ => hopen _
  · exact hrequired _ _ _ fun _ _ => hopen _
  · exact hrequired _ _ _ fun v _ => .ofValue (required_yields _ _ v) fun _ _ => hopen _
  · exact hrequired _ _ _ fun _ _ => hopen _
  · exact hopen _

section OpenNamed

variable (parent : Frame) (name : String) (tag : List α)

/-- Below an unknown element nothing has a meaning, and below any other the elements of annotations
have theirs. -/
theorem openNamed_plain
    (h : (∃ unknown, parent = .other unknown) ∨ name = "annotation" ∨ name = "documentation") :
    ∃ child : Frame, child.isService = false ∧
      ∀ (a : Assembly) (below : List Frame), a.stack = [parent] ++ below →
        a.openNamed name tag = pure (a.push child) := by
  by_cases hother : ∃ unknown, parent = .other unknown
  · obtain ⟨unknown, rfl⟩ := hother
    refine ⟨.other name, rfl, ?_⟩
    rintro ⟨definitions, schema, stack⟩ below rfl
    rfl
  · have hname := h.resolve_left hother
    have hknown (unknown : String) : parent ≠ .other unknown := fun h => hother ⟨unknown, h⟩
    rcases hname with rfl | rfl
    · refine ⟨.annotated none, rfl, ?_⟩
      rintro ⟨definitions, schema, stack⟩ below rfl
      cases parent with
      | other unknown => exact absurd rfl (hknown unknown)
      | _ => rfl
    · refine ⟨.documentation "", rfl, ?_⟩
      rintro ⟨definitions, schema, stack⟩ below rfl
      cases parent with
      | other unknown => exact absurd rfl (hknown unknown)
      | _ => rfl

theorem openNamed_child (hother : ∀ unknown, parent ≠ .other unknown) (hnote : name ≠ "annotation")
    (htext : name ≠ "documentation") (hdefinitions : parent ≠ .definitions)
    (a : Assembly) (below : List Frame) (hstack : a.stack = [parent] ++ below) :
    a.openNamed name tag = parent.openChild name tag >>= fun opened =>
      pure { a with stack := opened.2 :: opened.1 :: below } := by
  obtain ⟨definitions, schema, stack⟩ := a
  obtain rfl : stack = parent :: below := hstack
  cases parent with
  | other unknown => exact absurd rfl (hother unknown)
  | definitions => exact absurd rfl hdefinitions
  | _ => simp [openNamed]

/-- How an element is opened is for its parent to say. -/
theorem openNamed_effect : Effect [parent] 2 (·.openNamed name tag) := by
  by_cases hplain : (∃ unknown, parent = .other unknown) ∨ name = "annotation" ∨
      name = "documentation"
  · obtain ⟨child, hchild, hopen⟩ := openNamed_plain parent name tag hplain
    exact (push_effect parent (by simp [hchild])).congr hopen
  · have hother (unknown : String) : parent ≠ .other unknown := fun h => hplain (.inl ⟨unknown, h⟩)
    have hnote : name ≠ "annotation" := fun h => hplain (.inr (.inl h))
    have htext : name ≠ "documentation" := fun h => hplain (.inr (.inr h))
    by_cases hdefinitions : parent = .definitions
    · subst hdefinitions
      refine (openInDefinitions_effect name tag).congr ?_
      rintro ⟨definitions, schema, stack⟩ below rfl
      simp [openNamed]
    · have hopen : Effect [parent] 2 fun a => parent.openChild name tag >>= fun opened =>
          pure { a with stack := opened.2 :: opened.1 :: a.stack.drop 1 } := by
        refine .ofValue (openChild_opens parent name tag) ?_
        rintro ⟨kept, child⟩ ⟨hkept, hchild⟩
        refine effect_of_stack [child, kept] ?_ ?_
        · intro hparent
          have hparent := hparent parent List.mem_cons_self
          simp_all
        · rintro ⟨definitions, schema, stack⟩ below rfl
          rfl
      refine hopen.congr ?_
      intro a below hstack
      rw [openNamed_child parent name tag hother hnote htext hdefinitions a below hstack,
        hstack]
      rfl

end OpenNamed

theorem openElement_effect (parent : Frame) (tag : List α) :
    Effect [parent] 2 (·.openElement tag) := by
  unfold openElement
  split
  · exact openNamed_effect parent _ tag
  · exact .fails .badEncoding .badEncoding fun _ _ _ _ => rfl

theorem closeChild_isService (parent child : Frame) :
    (parent.closeChild child).isService = parent.isService := by
  unfold Frame.closeChild
  split
  all_goals first | rfl | skip
  all_goals
    cases parent with
    | definitions | types => exact show true = true from rfl
    | _ => exact show false = false from rfl

section CloseElement

variable {child parent : Frame}

theorem closeElement_effect_of_update (gained : Definitions) (change : Definitions → Definitions)
    (hparent : parent.isService) (hchange : ∀ d, change d = d.append gained)
    (h : ∀ definitions schema below, closeElement ⟨definitions, schema, child :: parent :: below⟩ =
      update ⟨definitions, schema, parent :: below⟩ change) :
    Effect [child, parent] 1 closeElement := by
  refine effect_of_update [parent] gained change ⟨parent, by simp, hparent⟩ hchange ?_
  rintro ⟨definitions, schema, stack⟩ below rfl
  exact h definitions schema below

theorem closeElement_effect_of_child
    (h : ∀ definitions schema below, closeElement ⟨definitions, schema, child :: parent :: below⟩ =
      .ok ⟨definitions, schema, parent.closeChild child :: below⟩) :
    Effect [child, parent] 1 closeElement := by
  refine effect_of_stack [parent.closeChild child] ?_ ?_
  · intro htop
    simpa [closeChild_isService] using htop parent (by simp)
  · rintro ⟨definitions, schema, stack⟩ below rfl
    exact h definitions schema below

end CloseElement

/-- A child that is closed adds to the service description, or to its parent. -/
theorem closeElement_effect (child parent : Frame) : Effect [child, parent] 1 closeElement := by
  cases child with
  | schema s =>
      cases parent with
      | types =>
          exact closeElement_effect_of_update { schemas := [s] }
            (fun d => { d with schemas := d.schemas ++ [s] }) rfl (by simp [Definitions.append])
            fun _ _ _ => rfl
      | _ => exact closeElement_effect_of_child fun _ _ _ => rfl
  | message m =>
      cases parent with
      | definitions =>
          exact closeElement_effect_of_update { messages := [m] }
            (fun d => { d with messages := d.messages ++ [m] }) rfl (by simp [Definitions.append])
            fun _ _ _ => rfl
      | _ => exact closeElement_effect_of_child fun _ _ _ => rfl
  | portType p =>
      cases parent with
      | definitions =>
          exact closeElement_effect_of_update { portTypes := [p] }
            (fun d => { d with portTypes := d.portTypes ++ [p] }) rfl (by simp [Definitions.append])
            fun _ _ _ => rfl
      | _ => exact closeElement_effect_of_child fun _ _ _ => rfl
  | binding b =>
      cases parent with
      | definitions =>
          exact closeElement_effect_of_update { bindings := [b] }
            (fun d => { d with bindings := d.bindings ++ [b] }) rfl (by simp [Definitions.append])
            fun _ _ _ => rfl
      | _ => exact closeElement_effect_of_child fun _ _ _ => rfl
  | service s =>
      cases parent with
      | definitions =>
          exact closeElement_effect_of_update { services := [s] }
            (fun d => { d with services := d.services ++ [s] }) rfl (by simp [Definitions.append])
            fun _ _ _ => rfl
      | _ => exact closeElement_effect_of_child fun _ _ _ => rfl
  | _ => exact closeElement_effect_of_child fun _ _ _ => rfl

/-- Text is for documentation elements, and the rest of what stands between tags for no one. -/
theorem readToken_effect (frame : Frame) {token : Token α} (h : token.isTag = false) :
    Effect [frame] 1 (·.readToken token) := by
  have hkept : Effect [frame] 1 fun a => .ok a :=
    effect_of_stack [frame] id fun a below hstack => by rw [← hstack]
  have htext (text : String) : Effect [frame] 1 fun a => .ok (a.addText text) := by
    cases frame with
    | documentation before =>
        refine effect_of_stack [.documentation (before ++ text)] (by simp) ?_
        rintro ⟨definitions, schema, stack⟩ below rfl
        rfl
    | _ =>
        refine hkept.congr ?_
        rintro ⟨definitions, schema, stack⟩ below rfl
        rfl
  have hfault {e : LoadError} (he : OfToken e) : Effect [frame] 1 fun _ => .error e :=
    .fails e he fun _ _ _ _ => rfl
  cases token with
  | start _ | empty _ | stop _ => cases h
  | comment _ | instruction _ | doctype _ => exact hkept
  | text content =>
      cases hcontent : Text.stripWhile isSpace content with
      | nil => exact hkept.congr fun _ _ _ => by simp only [readToken, hcontent]
      | cons x kept =>
          cases hdecoded : TextUnit.decode? (x :: kept) with
          | none =>
              exact (hfault (.malformed .undecodable)).congr fun _ _ _ => by
                simp only [readToken, hcontent, hdecoded]
          | some text =>
              cases hread : unescape? text with
              | none =>
                  exact (hfault (.malformed .badReference)).congr fun _ _ _ => by
                    simp only [readToken, hcontent, hdecoded, hread]
              | some text =>
                  exact (htext (String.ofList text)).congr fun _ _ _ => by
                    simp only [readToken, hcontent, hdecoded, hread]
  | cdata content =>
      simp only [readToken]
      cases TextUnit.decode? content with
      | none => exact hfault .badEncoding
      | some text => exact htext _

/-! ## Whole elements -/

theorem readTokens_append (a : Assembly) (ts us : List (Token α)) :
    a.readTokens (ts ++ us) = a.readTokens ts >>= (·.readTokens us) := List.foldlM_append ..

theorem readTokens_cons (a : Assembly) (t : Token α) (ts : List (Token α)) :
    a.readTokens (t :: ts) = a.readToken t >>= (·.readTokens ts) := List.foldlM_cons ..

theorem readTokens_singleton (a : Assembly) (t : Token α) : a.readTokens [t] = a.readToken t := by
  rw [readTokens_cons]
  cases a.readToken t <;> rfl

/-- What a tag that is start and end in one does. -/
theorem readToken_empty_effect (frame : Frame) (tag : List α) :
    Effect [frame] 1 (·.readToken (.empty tag)) := by
  refine (openElement_effect frame tag).bind ?_
  intro next hnext
  obtain ⟨child, parent, rfl⟩ := List.length_eq_two.mp hnext
  exact closeElement_effect child parent

mutual

/-- **What an element does depends on its parent alone**, and it does it to its parent alone. -/
theorem passage_effect (frame : Frame) :
    ∀ p : Passage α, Effect [frame] 1 (·.readTokens (p.lexemes.map (·.token)))
  | .between l plain => by
      simp only [Passage.lexemes, List.map_cons, List.map_nil, readTokens_singleton]
      exact readToken_effect frame plain
  | .empty tag source => by
      simp only [Passage.lexemes, List.map_cons, List.map_nil, readTokens_singleton]
      exact readToken_empty_effect frame tag
  | .element tag opening content closing => by
      simp only [Passage.lexemes, List.map_cons, List.map_append, List.map_nil, readTokens_cons,
        readTokens_append]
      refine (openElement_effect frame tag).bind ?_
      intro next hnext
      obtain ⟨child, parent, rfl⟩ := List.length_eq_two.mp hnext
      -- The content works on the child, and the end tag on what has become of it.
      refine ((passages_effect child content).frame [parent]).bind ?_
      intro next hnext
      obtain ⟨child, parent, rfl⟩ := List.length_eq_two.mp hnext
      exact (closeElement_effect child parent).congr fun a _ _ =>
        readTokens_singleton a (.stop (tagName tag))

theorem passages_effect (frame : Frame) :
    ∀ ps : List (Passage α), Effect [frame] 1 (·.readTokens ((lexemesOf ps).map (·.token)))
  | [] => effect_of_stack [frame] id fun a below hstack => by rw [← hstack]; rfl
  | p :: ps => by
      simp only [lexemesOf, List.map_append, readTokens_append]
      refine (passage_effect frame p).bind ?_
      intro next hnext
      obtain ⟨frame, rfl⟩ := List.length_eq_one_iff.mp hnext
      exact passages_effect frame ps

end

/-! ## Whole documents -/

/-- The assembly has a frame for each open element,
and a service description if one of them is a part of one. -/
structure Assembly.Fits (a : Assembly) (openTags : List (List α)) : Prop where
  height : a.stack.length = openTags.length
  ready : a.Ready a.stack

/-- What goes wrong is not that a part of a service description stands outside of one. -/
def Placed (e : LoadError) : Prop := e ≠ .invalid .outsideDefinitions

theorem OfToken.placed {e : LoadError} (h : OfToken e) : Placed e := by
  rintro rfl
  cases h

/-- A step that looks at the top of the stack keeps what is below ready. -/
theorem Effect.yields {top below : List Frame} {n : Nat} {f : Assembly → Except LoadError Assembly}
    (hf : Effect top n f) {a : Assembly} (hstack : a.stack = top ++ below)
    (hready : a.Ready a.stack) :
    Yields Placed (fun b => b.stack.length = n + below.length ∧ b.Ready b.stack) (f a) := by
  have htop : a.Ready top := by
    intro frame hframe
    exact hready frame (by rw [hstack]; exact List.mem_append_left below hframe)
  cases hf with
  | fails e he h =>
      rw [h a below hstack htop]
      exact he.placed
  | moves next gained hsize hplain h =>
      rw [h a below hstack htop]
      refine ⟨by simp [gaining, hsize], ?_⟩
      intro frame hframe hservice
      rcases List.mem_append.mp hframe with hnext | hbelow
      · exact ready_gaining (fun htop => (hplain htop).2) htop frame hnext hservice
      · have hsome := hready frame (by rw [hstack]; exact List.mem_append_right top hbelow) hservice
        simpa [gaining] using hsome

/-- The root opens, as a service description or as a schema. -/
theorem openElement_root {a : Assembly} (hstack : a.stack = []) (tag : List α) :
    Yields Placed (fun b => ∃ root, b.stack = [root] ∧ b.Ready [root]) (a.openElement tag) := by
  obtain ⟨definitions, schema, stack⟩ := a
  obtain rfl : stack = [] := hstack
  have hplaced {β : Type} {Q : β → Prop} {x : Except LoadError β}
      (hx : Yields OfToken (fun _ => True) x)
      (hQ : ∀ b, Q b) : Yields Placed Q x := hx.mono OfToken.placed fun _ => hQ _
  unfold openElement
  split
  · show Yields _ _ (openRoot _ _ tag)
    unfold openRoot
    split
    · refine Yields.bind_iff.mpr (hplaced (readValues_yields _ tag) fun v => ?_)
      exact ⟨.definitions, rfl, fun _ _ _ => rfl⟩
    · refine Yields.bind_iff.mpr (hplaced (by simp [readSchema]) fun schema => ?_)
      refine ⟨.schema schema, rfl, ?_⟩
      intro frame hframe hservice
      obtain rfl := List.mem_singleton.mp hframe
      cases hservice
    · show Placed _
      simp [Placed]
  · exact OfToken.placed .badEncoding

/-- The root closes, and leaves nothing open. -/
theorem closeElement_root {a : Assembly} {root : Frame} (hstack : a.stack = [root]) :
    ∃ b : Assembly, a.closeElement = .ok b ∧ b.stack = [] := by
  obtain ⟨definitions, schema, stack⟩ := a
  obtain rfl : stack = [root] := hstack
  cases root <;> exact ⟨_, rfl, rfl⟩

/-- Outside of the root nothing but its tags matters. -/
theorem readToken_outside {a : Assembly} (hstack : a.stack = []) {token : Token α}
    (h : token.isTag = false) : Yields Placed (fun b => b.stack = []) (a.readToken token) := by
  have htext (text : String) : (a.addText text).stack = [] := by
    rw [addText, hstack]
    exact hstack
  unfold readToken
  split
  · cases h
  · cases h
  · cases h
  · split
    · exact hstack
    · split
      · simp [Placed]
      · split
        · simp [Placed]
        · exact htext _
  · split
    · simp [Placed]
    · exact htext _
  · exact hstack
  · exact hstack
  · exact hstack

omit [DecidableEq α] [TextUnit α] in
theorem fits_of_empty {b : Assembly} (hstack : b.stack = []) : b.Fits ([] : List (List α)) :=
  ⟨by rw [hstack]; rfl, by rw [hstack]; exact fun frame hframe => nomatch hframe⟩

/-- **A token that fits leaves the assembly fitting.** -/
theorem readToken_fits {a : Assembly} {openTags next : List (List α)} (h : a.Fits openTags)
    {token : Token α} (hnest : nest openTags token = some next) :
    Yields Placed (fun b => b.Fits next) (a.readToken token) := by
  cases hstack : a.stack with
  | nil =>
      obtain rfl : openTags = [] := by
        have hheight := h.height
        rw [hstack] at hheight
        exact List.length_eq_zero_iff.mp hheight.symm
      cases token with
      | start tag =>
          obtain rfl := Option.some.inj hnest
          refine (openElement_root hstack tag).mono id ?_
          rintro b ⟨root, hroot, hready⟩
          exact ⟨by rw [hroot]; rfl, by rw [hroot]; exact hready⟩
      | empty tag =>
          obtain rfl := Option.some.inj hnest
          refine Yields.bind_iff.mpr ((openElement_root hstack tag).mono id ?_)
          rintro b ⟨root, hroot, -⟩
          obtain ⟨c, hclose, hempty⟩ := closeElement_root hroot
          rw [hclose]
          exact fits_of_empty hempty
      | stop name => cases hnest
      | text _ | comment _ | cdata _ | instruction _ | doctype _ =>
          obtain rfl := Option.some.inj hnest
          exact (readToken_outside hstack rfl).mono id fits_of_empty
  | cons parent below =>
      have hheight : openTags.length = below.length + 1 := by
        rw [← h.height, hstack, List.length_cons]
      have hfits {n : Nat} {f : Assembly → Except LoadError Assembly} {top rest : List Frame}
          (hf : Effect top n f) (htop : a.stack = top ++ rest)
          (hnext : next.length = n + rest.length) : Yields Placed (fun b => b.Fits next) (f a) :=
        (hf.yields htop h.ready).mono id fun hb => ⟨hb.1.trans hnext.symm, hb.2⟩
      cases htag : token.isTag with
      | false =>
          rw [nest_of_plain htag] at hnest
          obtain rfl := Option.some.inj hnest
          refine hfits (readToken_effect parent htag) hstack ?_
          omega
      | true =>
          cases token with
          | start tag =>
              obtain rfl := Option.some.inj hnest
              refine hfits (openElement_effect parent tag) hstack ?_
              rw [List.length_cons, hheight]
              omega
          | empty tag =>
              obtain rfl := Option.some.inj hnest
              refine hfits (readToken_empty_effect parent tag) hstack ?_
              omega
          | stop name =>
              obtain rfl := nest_stop_eq_some hnest
              cases below with
              | nil =>
                  obtain rfl : next = [] := by simpa using hheight
                  obtain ⟨b, hclose, hempty⟩ := closeElement_root hstack
                  rw [readToken, hclose]
                  exact fits_of_empty hempty
              | cons outer below =>
                  refine hfits (closeElement_effect parent outer) hstack ?_
                  rw [List.length_cons, List.length_cons] at hheight
                  omega
          | _ => cases htag

theorem readTokens_fits {a : Assembly} {openTags after : List (List α)} (h : a.Fits openTags)
    {tokens : List (Token α)} (hnest : nestAll openTags tokens = some after) :
    Yields Placed (fun b => b.Fits after) (a.readTokens tokens) := by
  induction tokens generalizing a openTags with
  | nil =>
      obtain rfl := Option.some.inj hnest
      exact h
  | cons token tokens ih =>
      rw [nestAll_cons] at hnest
      obtain ⟨next, hnext, hrest⟩ := Option.bind_eq_some_iff.mp hnest
      rw [readTokens_cons]
      exact Yields.bind_iff.mpr ((readToken_fits h hnext).mono id fun hb => ih hb hrest)

/-- **No document fails for want of a service description** to put its parts into: the scanner lets
no end tag through that does not match. -/
theorem parse_placed (source : Source) : Yields Placed (fun _ => True) (parse source) := by
  have hscan {β : Type} [DecidableEq β] [TextUnit β] (content : List β) :
      Yields Placed (fun _ => True) (parseScan (scan content)) := by
    obtain ⟨-, openTags, -, -, hnest⟩ := scan_row content
    refine Yields.bind_iff.mpr ((readTokens_fits (fits_of_empty (b := {}) rfl) hnest).mono id ?_)
    intro a _
    split
    · simp [Placed]
    · unfold Assembly.result
      split <;> simp [Placed]
  cases source with
  | text content => exact hscan content
  | octets content => exact hscan content

/-- **Reading is compositional.**  Behind tokens whose tags match there is a frame for each open
element, and a service description if one of them is a part of one, so that nothing is ever added to
a service description that is not there.  What an element does from there on is for its parent's
frame and its own tokens to say: it leaves another frame in the place of that one, and everything
below as it is, and the service description gains entries, if its parent is a part of it. -/
theorem reading_compositional :
    (∀ (tokens : List (Token α)) (openTags : List (List α)) (a : Assembly),
      nestAll [] tokens = some openTags → readTokens {} tokens = .ok a →
        a.stack.length = openTags.length ∧
        (∀ frame ∈ a.stack, frame.isService → a.definitions.isSome) ∧
        ∀ token next, nest openTags token = some next →
          a.readToken token ≠ .error (.invalid .outsideDefinitions)) ∧
    ∀ (parent : Frame) (p : Passage α), p.isElement →
      ∃ outcome : Except LoadError (Frame × Definitions),
        (parent.isService = false → ∀ left, outcome = .ok left → left.2 = {}) ∧
        ∀ (tokens : List (Token α)) (openTags : List (List α)) (a : Assembly) (below : List Frame),
          nestAll [] tokens = some openTags → readTokens {} tokens = .ok a →
            a.stack = parent :: below →
              a.readTokens (p.lexemes.map (·.token)) = outcome.map fun left =>
                { a with definitions := a.definitions.map (·.append left.2)
                         stack := left.1 :: below } := by
  have hfits {tokens : List (Token α)} {openTags : List (List α)} {a : Assembly}
      (hnest : nestAll [] tokens = some openTags) (hread : readTokens {} tokens = .ok a) :
      a.Fits openTags := by
    have hyields := readTokens_fits (fits_of_empty (b := {}) rfl) hnest
    rw [hread] at hyields
    exact hyields
  constructor
  · intro tokens openTags a hnest hread
    have h := hfits hnest hread
    refine ⟨h.height, h.ready, ?_⟩
    intro token next hnext hmisplaced
    have hyields := readToken_fits h hnext
    rw [hmisplaced] at hyields
    exact hyields rfl
  · intro parent p _
    cases passage_effect parent p with
    | fails e he h =>
        refine ⟨.error e, fun _ _ hleft => (nomatch hleft), ?_⟩
        intro tokens openTags a below hnest hread hstack
        have hready := (hfits hnest hread).ready
        refine h a below hstack fun frame hframe => hready frame ?_
        rw [hstack]
        exact List.mem_append_left below hframe
    | moves next gained hsize hplain h =>
        obtain ⟨left, rfl⟩ := List.length_eq_one_iff.mp hsize
        refine ⟨.ok (left, gained), ?_, ?_⟩
        · rintro hparent _ ⟨⟩
          refine (hplain ?_).1
          intro frame hframe
          rw [List.mem_singleton.mp hframe, hparent]
        · intro tokens openTags a below hnest hread hstack
          have hready := (hfits hnest hread).ready
          refine h a below hstack fun frame hframe => hready frame ?_
          rw [hstack]
          exact List.mem_append_left below hframe

theorem reading_compositional_types : ∃ a : Assembly,
    readTokens {} [Token.start "definitions".toList, .start "w:types".toList] = .ok a ∧
      a.stack.length = 2 ∧ a.definitions.isSome ∧
      a.readToken (.empty "schema".toList) ≠ .error (.invalid .outsideDefinitions) ∧
      ∃ outcome : Except LoadError (Frame × Definitions),
        a.readTokens [.empty "schema".toList] = outcome.map fun left =>
          { a with definitions := a.definitions.map (·.append left.2)
                   stack := left.1 :: [.definitions] } := by
  have hnest : nestAll [] [Token.start "definitions".toList, .start "w:types".toList] =
      some ["w:types".toList, "definitions".toList] := by decide +kernel
  have hread : readTokens {} [Token.start "definitions".toList, .start "w:types".toList] =
      .ok ⟨some {}, none, [.types, .definitions]⟩ := by rfl
  have hp : (Passage.empty "schema".toList "<schema/>".toList).isElement := rfl
  obtain ⟨hbehind, hlocal⟩ := @reading_compositional Char _ _
  obtain ⟨hheight, hready, hplaced⟩ := hbehind _ _ _ hnest hread
  obtain ⟨outcome, -, houtcome⟩ := hlocal .types _ hp
  exact ⟨_, hread, hheight, hready .types (by simp) rfl, hplaced _ _ rfl,
    outcome, houtcome _ _ _ _ hnest hread rfl⟩

end Document

end SoapBindings
