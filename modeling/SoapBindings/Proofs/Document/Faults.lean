/-
# `SoapBindings.Proofs.Document.Faults` — what can go wrong while a document is read

Reading a document looks at nothing but its content, and so it only fails for its content.  What
other errors there are has its cause elsewhere: in a location, in the store, or in the depth limit.
A token by itself can only be malformed or lack an attribute; whether it fits where it stands is for
the document as a whole to say.
-/
import SoapBindings.Document.Loading

namespace SoapBindings.Document

open Markup Xsd Wsdl

/-- An error in the content of a document. -/
inductive OfContent : LoadError → Prop
  | malformed (error : MarkupError) : OfContent (.malformed error)
  | badEncoding : OfContent .badEncoding
  | missingAttribute (element key : String) : OfContent (.missingAttribute element key)
  | invalid (misfit : Misfit) : OfContent (.invalid misfit)

attribute [simp] OfContent.malformed OfContent.badEncoding OfContent.missingAttribute
  OfContent.invalid

/-- An error in a token, wherever that stands. -/
inductive OfToken : LoadError → Prop
  | malformed (error : MarkupError) : OfToken (.malformed error)
  | badEncoding : OfToken .badEncoding
  | missingAttribute (element key : String) : OfToken (.missingAttribute element key)

attribute [simp] OfToken.malformed OfToken.badEncoding OfToken.missingAttribute

theorem OfToken.ofContent {e : LoadError} (h : OfToken e) : OfContent e := by
  cases h <;> simp

/-- What this yields: an error of the one kind, or a result of the other. -/
def Yields {β : Type} (P : LoadError → Prop) (Q : β → Prop) : Except LoadError β → Prop
  | .error e => P e
  | .ok b => Q b

namespace Yields

variable {β γ : Type} {P P' : LoadError → Prop} {Q Q' : β → Prop} {R : γ → Prop}

@[simp] theorem ok_iff {b : β} : Yields P Q (.ok b) ↔ Q b := .rfl

@[simp] theorem pure_iff {b : β} : Yields P Q (pure b) ↔ Q b := .rfl

@[simp] theorem error_iff {e : LoadError} : Yields P Q (.error e) ↔ P e := .rfl

@[simp] theorem throw_iff {e : LoadError} : Yields P Q (throw e) ↔ P e := .rfl

@[simp] theorem bind_iff {x : Except LoadError β} {f : β → Except LoadError γ} :
    Yields P R (x >>= f) ↔ Yields P (fun b => Yields P R (f b)) x := by
  cases x <;> rfl

@[simp] theorem map_iff {x : Except LoadError β} {f : β → γ} :
    Yields P R (x.map f) ↔ Yields P (fun b => R (f b)) x := by
  cases x <;> rfl

@[simp] theorem functor_map_iff {x : Except LoadError β} {f : β → γ} :
    Yields P R (f <$> x) ↔ Yields P (fun b => R (f b)) x := map_iff

@[simp] theorem ite_iff {c : Prop} [Decidable c] {x y : Except LoadError β} :
    Yields P Q (if c then x else y) ↔ (c → Yields P Q x) ∧ (¬ c → Yields P Q y) := by
  split <;> simp [*]

theorem mono {x : Except LoadError β} (h : Yields P Q x) (hP : ∀ {e}, P e → P' e)
    (hQ : ∀ {b}, Q b → Q' b) : Yields P' Q' x := by
  cases x with
  | error e => exact hP h
  | ok b => exact hQ h

theorem foldlM {f : β → γ → Except LoadError β} (hf : ∀ b c, Yields P (fun _ => True) (f b c))
    (cs : List γ) (b : β) : Yields P (fun _ => True) (cs.foldlM f b) := by
  induction cs generalizing b with
  | nil => exact trivial
  | cons c cs ih => exact bind_iff.mpr ((hf b c).mono id fun _ => ih _)

end Yields

/-- If this fails, it does so for the content of a document. -/
abbrev Reads {β : Type} (x : Except LoadError β) : Prop := Yields OfContent (fun _ => True) x

theorem Reads.of_error {β : Type} {x : Except LoadError β} (h : Reads x) {e : LoadError}
    (he : x = .error e) : OfContent e := by
  subst he
  exact h

variable {α : Type} [DecidableEq α] [TextUnit α]

/-! ## Attributes -/

@[simp] theorem readValues_yields (names : List String) (tag : List α) :
    Yields OfToken (fun _ => True) (readValues names tag) := by
  refine Yields.foldlM (fun found item => ?_) _ _
  unfold takeValue
  repeat' split
  all_goals simp

@[simp] theorem required_yields (element name : String) (values : Values) :
    Yields OfToken (fun _ => True) (required element name values) := by
  unfold required
  split <;> simp

@[simp] theorem readElement_yields (tag : List α) :
    Yields OfToken (fun _ => True) (readElement tag) := by
  simp [readElement]

/-! ## Elements -/

/-- The frame is of a part of a service description that schemas or other parts are put into. -/
def Frame.isService : Frame → Bool
  | .definitions | .types => true
  | _ => false

@[simp] theorem Frame.isService_eq_false {f : Frame} (hdefinitions : f ≠ .definitions)
    (htypes : f ≠ .types) : f.isService = false := by
  cases f <;> first | rfl | contradiction

@[simp] theorem openAttributes_yields (name : String) (tag : List α) :
    Yields OfToken (fun child => child.isService = false) (openAttributes name tag) := by
  unfold openAttributes
  split <;> simp [readAttribute, openAttributeGroup]

@[simp] theorem openContent_yields (name : String) (tag : List α) :
    Yields OfToken (fun child => child.isService = false) (openContent name tag) := by
  unfold openContent
  split
  · simp [openGroup]
  · split <;> simp

/-- An element is opened that is no such part, and its parent stays what it was in this respect. -/
def Opens (parent : Frame) (x : Except LoadError (Frame × Frame)) : Prop :=
  Yields OfToken
    (fun opened => opened.1.isService = parent.isService ∧ opened.2.isService = false) x

theorem opens_keep {parent : Frame} {x : Except LoadError Frame}
    (h : Yields OfToken (fun child => child.isService = false) x) :
    Opens parent (x.map fun child => (parent, child)) := by
  simpa [Opens] using h

theorem openInSchema_opens (s : Schema) (name : String) (tag : List α) :
    Opens (.schema s) (openInSchema s name tag) := by
  unfold openInSchema Opens
  split <;> simp [readComplexType, openSimpleType, openGroup]

theorem openInCompositor_opens (kind : CompositorKind) (p : Particles) (name : String)
    (tag : List α) : Opens (.compositor kind p) (openInCompositor kind p name tag) := by
  unfold openInCompositor Opens
  split
  · simp
  · simp [openGroup]
  · simp [readWildcard]
  · split <;> simp

theorem openInRestriction_opens (r : Restriction) (name : String) (tag : List α) :
    Opens (.restriction r) (openInRestriction r name tag) := by
  unfold openInRestriction Opens
  refine Yields.bind_iff.mpr ((readValues_yields _ _).mono id fun _ => ?_)
  split
  · simp
  · split <;> simp

/-- A child of any element is opened, or its tag is at fault. -/
theorem openChild_opens (parent : Frame) (name : String) (tag : List α) :
    Opens parent (parent.openChild name tag) := by
  unfold Frame.openChild
  cases parent with
  | types => exact opens_keep (by simp [openInTypes, readSchema])
  | schema s => exact openInSchema_opens s name tag
  | element _ =>
      refine opens_keep ?_
      unfold openInElement
      split <;> simp [readComplexType, openSimpleType]
  | complexType t =>
      show Opens _ (openInComplexType t name tag)
      unfold openInComplexType Opens
      split <;> simp [readWildcard]
  | compositor kind p => exact openInCompositor_opens kind p name tag
  | complexContent _ | simpleContent _ =>
      refine opens_keep ?_
      unfold openInContent
      split <;> simp
  | derivation d => simp [Opens, openInDerivation, readWildcard]
  | simpleType t =>
      show Opens _ (openInSimpleType t name tag)
      unfold openInSimpleType Opens
      split <;> simp [readUnion]
  | restriction r => exact openInRestriction_opens r name tag
  | union _ | attr _ => exact opens_keep (by simp [openSimpleType])
  | attributeGroup _ => exact opens_keep (openAttributes_yields name tag)
  | group _ =>
      refine opens_keep ?_
      unfold openInGroup
      split <;> simp
  | binding b =>
      show Opens _ (openInBinding b name tag)
      unfold openInBinding Opens
      split <;> simp
  | message m => simp [Opens, openInMessage]
  | portType _ => exact opens_keep (by simp [openInPortType])
  | operation o => simp [Opens, openInOperation]
  | bindingOperation o => simp [Opens, openInBindingOperation]
  | service _ => exact opens_keep (by simp [openInService])
  | port p => simp [Opens, openInPort]
  | definitions | enumeration _ | annotated _ | documentation _ | other _ =>
      exact opens_keep (by simp)

/-! ## Documents -/

@[simp] theorem readValues_reads (names : List String) (tag : List α) :
    Reads (readValues names tag) := (readValues_yields names tag).mono OfToken.ofContent id

@[simp] theorem required_reads (element name : String) (values : Values) :
    Reads (required element name values) :=
  (required_yields element name values).mono OfToken.ofContent id

@[simp] theorem openChild_reads (parent : Frame) (name : String) (tag : List α) :
    Reads (parent.openChild name tag) :=
  (openChild_opens parent name tag).mono OfToken.ofContent fun _ => trivial

namespace Assembly

@[simp] theorem update_reads (a : Assembly) (change : Definitions → Definitions) :
    Reads (a.update change) := by
  unfold update
  split <;> simp

theorem openNamed_reads (a : Assembly) (name : String) (tag : List α) :
    Reads (a.openNamed name tag) := by
  unfold openNamed
  split
  · unfold openRoot
    split <;> simp [readSchema]
  · simp
  · split
    · simp
    · simp
    · unfold openInDefinitions
      split <;> simp
    · simp

@[simp] theorem openElement_reads (a : Assembly) (tag : List α) : Reads (a.openElement tag) := by
  unfold openElement
  split
  · exact openNamed_reads _ _ _
  · simp

@[simp] theorem closeElement_reads (a : Assembly) : Reads a.closeElement := by
  unfold closeElement
  repeat' split
  all_goals simp

theorem readToken_reads (a : Assembly) (token : Token α) : Reads (a.readToken token) := by
  unfold readToken
  repeat' split
  all_goals simp

end Assembly

/-- **A document that cannot be read has itself to blame.** -/
theorem parse_reads (source : Source) : Reads (parse source) := by
  have hscan {α : Type} [DecidableEq α] [TextUnit α] (scanned : Scan α) :
      Reads (parseScan scanned) := by
    refine Yields.bind_iff.mpr
      ((Yields.foldlM Assembly.readToken_reads _ _).mono id fun {a} _ => ?_)
    split
    · simp
    · unfold Assembly.result
      split <;> simp
  cases source with
  | text content => exact hscan _
  | octets content => exact hscan _

theorem rootDefinitions_reads (kind : DocumentKind) (base : Option Url) (parsed : Parsed) :
    Reads (rootDefinitions kind base parsed) := by
  cases kind <;> cases parsed <;> simp [rootDefinitions]

/-! ## Locations -/

theorem ownUrl_error {location : String} {e : LoadError} (h : ownUrl? location = .error e) :
    ∃ error, e = .badUrl error := by
  unfold ownUrl? at h
  split at h <;> cases h
  exact ⟨_, rfl⟩

/-- A location that leads nowhere is wrong itself, or where it stands. -/
theorem resolveLocation_error {location referrer : String} {base : Option Url} {e : LoadError}
    (h : resolveLocation location base referrer = .error e) :
    (∃ error, e = .badUrl error) ∨ e = .unresolvedReference location referrer := by
  unfold resolveLocation at h
  cases hown : ownUrl? location with
  | error e' =>
      rw [hown] at h
      cases h
      exact .inl (ownUrl_error hown)
  | ok own =>
      rw [hown] at h
      refine .inr ?_
      cases own with
      | some url => cases h
      | none =>
          simp only [bind, Except.bind, pure, Except.pure, throw, throwThe,
            MonadExceptOf.throw] at h
          split at h <;> split at h <;> cases h <;> rfl

end SoapBindings.Document
