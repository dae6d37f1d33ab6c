/-
# `SoapBindings.Proofs.Document.Unknown` — elements that mean nothing

An element whose name means nothing anywhere gets a frame that takes in whatever is below it,
elements with a meaning of their own included, and leaves no mark on its parent when it closes.  So
it can be put into a document without a change to what is read (`unknown_transparent`).

Two parents do not go by names.  A restriction takes every element for a facet, and documentation is
a text, which an element inside it cuts in two.

Nothing is passed over unread, though.  A text has to be readable where it does not count, and so
have the names of elements, so the element that is put in can still be an error.

Nor is everything that a document may hold taken for what it is.  The scanner ends an instruction at
the first bracket, so an instruction that holds one never gets to the reader, and no row of lexemes
stands for it (`Spelled`).  Such an instruction is an error, whatever it stands in.
-/
import SoapBindings.Proofs.Document.Compositors
import SoapBindings.Proofs.Document.Resuming

namespace SoapBindings

open Markup Xsd Wsdl

variable {α : Type} [DecidableEq α] [TextUnit α]

/-! ## What the reader can read -/

namespace Markup

/-- What the reader reads of the token stands for characters: a text without the white space at its
ends, a marked section, the local name of a tag. -/
def Token.isReadable : Token α → Bool
  | .text content => Markup.isReadable content
  | .cdata content => (TextUnit.decode? content).isSome
  | .start tag | .empty tag => (TextUnit.decode? (localPart (tagName tag))).isSome
  | _ => true

def Passage.isReadable (p : Passage α) : Bool := p.lexemes.all (·.token.isReadable)

end Markup

namespace Document

/-- The names that mean something in some place. -/
def knownNames : List String :=
  ["definitions", "schema", "annotation", "documentation", "import", "types", "message", "portType",
    "binding", "service", "include", "element", "complexType", "simpleType", "attribute",
    "attributeGroup", "group", "sequence", "choice", "all", "any", "complexContent",
    "simpleContent", "extension", "restriction", "union", "list", "enumeration", "part",
    "operation", "input", "output", "fault", "port", "address"]

/-- Whatever stands in the element counts. -/
def Frame.heedsAll : Frame → Bool
  | .restriction _ | .documentation _ => true
  | _ => false

namespace Assembly

/-! ## Elements without a meaning -/

/-- The tag opens an element that means nothing, if its name can be read. -/
def Skips (a : Assembly) (tag : List α) : Prop :=
  ∀ cs, TextUnit.decode? (localPart (tagName tag)) = some cs →
    a.openElement tag = .ok (a.push (.other (String.ofList cs)))

section Opening

variable {a : Assembly} {below : List Frame}

/-- Below an element that means nothing, none means anything. -/
theorem skips_below {unknown : String} (hstack : a.stack = .other unknown :: below) (tag : List α) :
    a.Skips tag := by
  obtain ⟨definitions, schema, stack⟩ := a
  obtain rfl : stack = .other unknown :: below := hstack
  intro cs hcs
  simp only [openElement, hcs]
  rfl

theorem compositorKind?_unknown {name : String} (hname : name ∉ knownNames) :
    compositorKind? name = none := by
  cases hkind : compositorKind? name with
  | none => rfl
  | some kind =>
      rcases mem_of_compositorKind? hkind with rfl | rfl | rfl
      all_goals exact absurd (by decide) hname

theorem openChild_unknown {parent : Frame} (hparent : parent.heedsAll = false) {name : String}
    (hname : name ∉ knownNames) (tag : List α) :
    parent.openChild name tag = .ok (parent, .other name) := by
  have hkind := compositorKind?_unknown hname
  simp only [knownNames, List.mem_cons, List.not_mem_nil, not_or] at hname
  have hattributes : openAttributes name tag = .ok (.other name) := by
    simp [openAttributes, hname, pure, Except.pure]
  have hcontent : openContent name tag = .ok (.other name) := by
    simp [openContent, hname, hkind, hattributes]
  cases parent with
  | restriction _ | documentation _ => cases hparent
  | _ =>
    simp [Frame.openChild, openInTypes, openInSchema, openInElement, openInComplexType,
      openInDerivation, openInCompositor, openInGroup, openInContent, openInSimpleType,
      openInMessage, openInPortType, openInOperation, openInBinding, openInBindingOperation,
      openInService, openInPort, hattributes, hcontent, hkind, hname, bind, Except.bind, pure,
      Except.pure, Except.map]

/-- An unknown name means nothing below any element that goes by names. -/
theorem skips_unknown {frame : Frame} (hstack : a.stack = frame :: below)
    (hframe : frame.heedsAll = false) {p : Passage α} {name : String} {tag : List α}
    (hp : p.Opens name tag) (hname : name ∉ knownNames) : a.Skips tag := by
  intro cs hcs
  have hnamed := hp.named
  rw [hcs] at hnamed
  obtain rfl : String.ofList cs = name := Option.some.inj hnamed
  obtain ⟨definitions, schema, stack⟩ := a
  obtain rfl : stack = frame :: below := hstack
  simp only [openElement, hcs]
  by_cases hother : ∃ unknown, frame = .other unknown
  · obtain ⟨unknown, rfl⟩ := hother
    rfl
  by_cases hdefinitions : frame = .definitions
  · subst hdefinitions
    simp only [knownNames, List.mem_cons, List.not_mem_nil, not_or] at hname
    simp [openNamed, openInDefinitions, hname]
    rfl
  · have hnote : String.ofList cs ≠ "annotation" := fun h => hname (by rw [h]; decide)
    have htext : String.ofList cs ≠ "documentation" := fun h => hname (by rw [h]; decide)
    rw [openNamed_child frame _ tag (fun unknown h => hother ⟨unknown, h⟩) hnote htext hdefinitions
      _ below rfl, openChild_unknown hframe hname]
    rfl

end Opening

/-! ## Passing over -/

/-- The tokens leave the assembly as it is if all of them can be read,
and are an error otherwise. -/
def PassesOver (a : Assembly) (ts : List (Token α)) : Prop :=
  Yields (fun _ => ts.all (·.isReadable) = false) (fun b => b = a ∧ ts.all (·.isReadable))
    (a.readTokens ts)

namespace PassesOver

variable {a : Assembly} {ts us : List (Token α)}

theorem nil (a : Assembly) : a.PassesOver ([] : List (Token α)) := ⟨rfl, rfl⟩

theorem append (h : a.PassesOver ts) (h' : a.PassesOver us) : a.PassesOver (ts ++ us) := by
  rw [PassesOver, readTokens_append, List.all_append]
  refine Yields.bind_iff.mpr (h.mono (fun hts => by simp [hts]) ?_)
  rintro b ⟨rfl, hts⟩
  exact h'.mono (fun hus => by simp [hus]) fun hus => ⟨hus.1, by simp [hts, hus.2]⟩

/-- What stands between tags matters to documentation only. -/
theorem plain [LawfulTextUnit α] (houtside : a.inDocumentation = false) {token : Token α}
    (h : token.isTag = false) : a.PassesOver [token] := by
  rw [PassesOver, readTokens_singleton]
  cases token with
  | start _ | empty _ | stop _ => cases h
  | comment _ | instruction _ | doctype _ => exact ⟨rfl, rfl⟩
  | text content =>
      refine (readToken_text_outside houtside content).mono ?_ ?_
      · intro _ h
        simp [Token.isReadable, h]
      · intro b h
        simp [Token.isReadable, h]
  | cdata content =>
      cases hdecode : TextUnit.decode? content with
      | none => simp [readToken, Token.isReadable, hdecode]
      | some text => simp [readToken, Token.isReadable, hdecode, addText_outside houtside]

variable {frame : Frame} {below : List Frame}

theorem empty (hstack : a.stack = frame :: below) {tag : List α} (hskips : a.Skips tag) :
    a.PassesOver [.empty tag] := by
  obtain ⟨definitions, schema, stack⟩ := a
  obtain rfl : stack = frame :: below := hstack
  rw [PassesOver, readTokens_singleton]
  cases hname : TextUnit.decode? (localPart (tagName tag)) with
  | none => simp [readToken, openElement, Token.isReadable, hname]
  | some cs =>
      simp only [readToken, hskips cs hname]
      exact ⟨rfl, by simp [Token.isReadable, hname]⟩

/-- An element that means nothing is passed over if what is in it is. -/
theorem element (hstack : a.stack = frame :: below) {tag : List α} (hskips : a.Skips tag)
    {content : List (Token α)} (hcontent : ∀ name, (a.push (.other name)).PassesOver content)
    (stopName : List α) : a.PassesOver (.start tag :: (content ++ [.stop stopName])) := by
  obtain ⟨definitions, schema, stack⟩ := a
  obtain rfl : stack = frame :: below := hstack
  simp only [PassesOver, readTokens_cons, readTokens_append]
  cases hname : TextUnit.decode? (localPart (tagName tag)) with
  | none => simp [readToken, openElement, Token.isReadable, hname]
  | some cs =>
      have hstart : (Token.start tag).isReadable := by simp [Token.isReadable, hname]
      have hstop : (Token.stop stopName).isReadable := rfl
      simp only [readToken, hskips cs hname]
      show Yields _ _ (readTokens _ content >>= _)
      refine Yields.bind_iff.mpr ((hcontent (String.ofList cs)).mono ?_ ?_)
      · intro _ h
        simp [h]
      · rintro b ⟨rfl, h⟩
        refine ⟨rfl, ?_⟩
        rw [List.all_cons, List.all_append, hstart, h, List.all_cons, hstop]
        rfl

end PassesOver

mutual

/-- **Below an element that means nothing, everything is passed over.** -/
theorem passesOver_passage [LawfulTextUnit α] (a : Assembly) {unknown : String} {below : List Frame}
    (hstack : a.stack = .other unknown :: below) :
    ∀ p : Passage α, a.PassesOver (p.lexemes.map (·.token))
  | .between l plain => .plain (by rw [inDocumentation, hstack]) plain
  | .empty tag source => .empty hstack (skips_below hstack tag)
  | .element tag opening content closing => by
      simp only [Passage.lexemes, List.map_cons, List.map_append, List.map_nil]
      exact .element hstack (skips_below hstack tag)
        (fun name => passesOver_passages (a.push (.other name)) rfl content) _

theorem passesOver_passages [LawfulTextUnit α] (a : Assembly) {unknown : String}
    {below : List Frame} (hstack : a.stack = .other unknown :: below) :
    ∀ ps : List (Passage α), a.PassesOver ((lexemesOf ps).map (·.token))
  | [] => .nil a
  | p :: ps => by
      simp only [lexemesOf, List.map_append]
      exact .append (passesOver_passage a hstack p) (passesOver_passages a hstack ps)

end

/-- An element that means nothing is passed over, whatever is in it. -/
theorem passesOver_unknown [LawfulTextUnit α] {a : Assembly} {frame : Frame} {below : List Frame}
    (hstack : a.stack = frame :: below) {p : Passage α} {tag : List α} (hp : p.tag? = some tag)
    (hskips : a.Skips tag) : a.PassesOver (p.lexemes.map (·.token)) := by
  cases p with
  | between l plain => cases hp
  | empty tag' source =>
      obtain rfl := Option.some.inj hp
      exact .empty hstack hskips
  | element tag' opening content closing =>
      obtain rfl := Option.some.inj hp
      simp only [Passage.lexemes, List.map_cons, List.map_append, List.map_nil]
      exact .element hstack hskips
        (fun name => passesOver_passages (a.push (.other name)) rfl content) _

end Assembly

open Assembly

/-! ## Unknown elements in documents -/

/-- **Unknown elements are transparent.**  In a document that can be read, an element whose name
means nothing anywhere can be put at any place inside the root, unless the element around that place
heeds all that is in it: what is read stays the same, whatever is in the new element, if all of it
can be read, and the document is an error otherwise.  It is one as well if an instruction in the
element holds a bracket. -/
theorem unknown_transparent [ContentUnit α] {before after : List α} {a : Assembly} {frame : Frame}
    {below : List Frame} {p : Passage α} {name : String} {tag : List α} {parsed : Parsed}
    (hparse : parse (ContentUnit.source (before ++ after)) = .ok parsed) (hplace : ReadsTo before a)
    (hstack : a.stack = frame :: below) (hframe : frame.heedsAll = false) (hp : p.Opens name tag)
    (hspelled : Spelled p.lexemes) (hname : name ∉ knownNames) :
    (p.isReadable → parse (ContentUnit.source (before ++ p.text ++ after)) = .ok parsed) ∧
    (p.isReadable = false →
      ∃ e, parse (ContentUnit.source (before ++ p.text ++ after)) = .error e) ∧
    ∀ inside content behind : List α, endsOutside (before ++ inside) →
      (∀ x ∈ content, is '>' x = false) → (∀ x ∈ content.getLast?, is '?' x = false) →
      ∃ e, parse (ContentUnit.source (before ++ inside ++
        (ascii "<?" ++ (content ++ ascii ">" ++ behind)))) = .error e := by
  have helement : p.isElement := by
    cases p with
    | between l plain => cases hp.tagged
    | empty _ _ | element _ _ _ _ => rfl
  have houtside : a.inDocumentation = false := by
    rw [inDocumentation, hstack]
    cases frame with
    | documentation text => cases hframe
    | _ => rfl
  have hresume := hplace.resume_eq (by simp [hstack]) houtside hparse
  have hpassed := passesOver_unknown hstack hp.tagged (skips_unknown hstack hframe hp hname)
  have hreadable : (p.lexemes.map (·.token)).all (·.isReadable) = p.isReadable := by
    rw [List.all_map]
    rfl
  rw [PassesOver, hreadable] at hpassed
  refine and_assoc.mp ⟨?_, fun _ _ behind houtside hplain hlast =>
    parse_instruction houtside hplain hlast behind⟩
  rw [hplace.parse_insert helement hspelled after]
  cases hread : a.readTokens (p.lexemes.map (·.token)) with
  | error e =>
      rw [hread] at hpassed
      exact ⟨fun h => absurd h (by simpa using hpassed), fun _ => ⟨e, rfl⟩⟩
  | ok b =>
      rw [hread] at hpassed
      obtain ⟨rfl, h⟩ := hpassed
      exact ⟨fun _ => hresume, fun hunreadable => absurd h (by simp [hunreadable])⟩

/-- A note cuts a text in two, and holds an element that would have a meaning around it.  An
instruction in the note must not hold a bracket. -/
theorem unknown_transparent_note : ∃ parsed,
    parse (.text "<schema>be hind<element name='a'/></schema>".toList) = .ok parsed ∧
      "note" ∉ knownNames ∧
      parse (.text ("<schema>be <note of='b'><element/>t &amp; u</note>hind" ++
        "<element name='a'/></schema>").toList) = .ok parsed ∧
      ∃ e, parse (.text ("<schema>be <note of='b'><?keep a>b?></note>hind" ++
        "<element name='a'/></schema>").toList) = .error e := by
  let before := "<schema>be ".toList
  let after := "hind<element name='a'/></schema>".toList
  let p : Passage Char := .tagged "note of='b'".toList
    [.empty "element".toList "<element/>".toList,
      .between ⟨.text "t &amp; u".toList, "t &amp; u".toList⟩ rfl]
  have hparse : parse (.text (before ++ after)) =
      .ok (.schema { elements := [{ name := some "a" }] }) := by rfl
  have hplace : ReadsTo before ⟨none, none, [.schema {}]⟩ := ⟨by decide +kernel, by rfl⟩
  have hp : p.Opens "note" "note of='b'".toList := ⟨rfl, by decide +kernel⟩
  have hspelled : Spelled p.lexemes := by
    have hscan : (scan p.text).lexemes = p.lexemes := by decide +kernel
    rw [← hscan]
    exact (scan_of_endsOutside (by decide +kernel)).1
  obtain ⟨hread, -, hinstruction⟩ :=
    unknown_transparent hparse hplace rfl rfl hp hspelled (by decide)
  refine ⟨_, hparse, by decide, hread (by decide +kernel), ?_⟩
  exact hinstruction "<note of='b'>".toList "keep a".toList ("b?></note>".toList ++ after)
    (by decide +kernel) (by simp [is, TextUnit.ofAscii]) (by simp [is, TextUnit.ofAscii])

/-- A number may be written with any number of digits.  The reader does not take more than seven of
them for one, even where the character that they stand for does not count. -/
theorem unknown_refused : ∃ p : Passage Char, p.Opens "x" "x".toList ∧ Spelled p.lexemes ∧
    "x" ∉ knownNames ∧ p.text = "<x>&#00000065;</x>".toList ∧
    Decimal.readDigits? "00000065".toList = some 'A'.toNat ∧
    parse (.text "<schema></schema>".toList) = .ok (.schema {}) ∧
    parse (.text "<schema><x>&#00000065;</x></schema>".toList) =
      .error (.malformed .badReference) := by
  let p : Passage Char := .tagged "x".toList
    [.between ⟨.text "&#00000065;".toList, "&#00000065;".toList⟩ rfl]
  have hspelled : Spelled p.lexemes := by
    have hscan : (scan p.text).lexemes = p.lexemes := by decide +kernel
    rw [← hscan]
    exact (scan_of_endsOutside (by decide +kernel)).1
  exact ⟨p, ⟨rfl, by decide +kernel⟩, hspelled, by decide, by decide +kernel, by decide +kernel,
    by rfl, by rfl⟩

end Document

end SoapBindings
