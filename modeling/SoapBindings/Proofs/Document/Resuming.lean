/-
# `SoapBindings.Proofs.Document.Resuming` — documents read on from a place in the middle

A document is read in one pass, so what comes behind a place in it meets an assembly, and of all
that stands before that place nothing else counts (`ReadsTo.parse_append`).  This is how two
documents are compared that differ in one place: they have come to the same assembly there, or come
to the same behind it.
-/
import SoapBindings.Proofs.Document.Locality
import SoapBindings.Proofs.Markup.Insertion

namespace SoapBindings.Document

open Markup Xsd Wsdl

theorem exists_of_bind {β γ : Type} {x : Except LoadError β} {f : β → Except LoadError γ} {c : γ}
    (h : x >>= f = .ok c) : ∃ b, x = .ok b ∧ f b = .ok c := by
  cases x with
  | error e => cases h
  | ok b => exact ⟨b, rfl, h⟩

/-- Units that the content of documents comes in: characters, or octets that need not spell any. -/
class ContentUnit (α : Type) [DecidableEq α] [TextUnit α] extends LawfulTextUnit α where
  source : List α → Source
  parse_source (content : List α) : parse (source content) = parseScan (scan content)

instance : ContentUnit Char where
  source := .text
  parse_source _ := rfl

instance : ContentUnit UInt8 where
  source := .octets
  parse_source _ := rfl

variable {α : Type} [DecidableEq α] [TextUnit α]

/-! ## Reading on -/

namespace Assembly

/-- Go on with what the scanner makes of the rest of a document. -/
def resume (a : Assembly) (scanned : Scan α) : Except LoadError Parsed := do
  let a ← a.readTokens (scanned.lexemes.map (·.token))
  match scanned.fault with
  | some fault => throw (.malformed fault)
  | none => a.result

theorem resume_behind (a : Assembly) (scanned : Scan α) (found : List (Lexeme α)) :
    a.resume (scanned.behind found) =
      a.readTokens (found.map (·.token)) >>= (·.resume scanned) := by
  show a.readTokens ((found ++ scanned.lexemes).map (·.token)) >>= _ = _
  rw [List.map_append, readTokens_append, bind_assoc]
  rfl

theorem resume_fault (a : Assembly) {scanned : Scan α} {fault : MarkupError}
    (h : scanned.fault = some fault) : ∃ e, a.resume scanned = .error e := by
  simp only [resume, h]
  cases a.readTokens (scanned.lexemes.map (·.token)) with
  | error e => exact ⟨e, rfl⟩
  | ok b => exact ⟨.malformed fault, rfl⟩

end Assembly

open Assembly

/-- An instruction that holds a bracket is an error, wherever it stands. -/
theorem parse_instruction [ContentUnit α] {before content : List α} (houtside : endsOutside before)
    (hplain : ∀ x ∈ content, is '>' x = false) (hlast : ∀ x ∈ content.getLast?, is '?' x = false)
    (behind : List α) : ∃ e, parse (ContentUnit.source
      (before ++ (ascii "<?" ++ (content ++ ascii ">" ++ behind)))) = .error e := by
  rw [ContentUnit.parse_source, scan_cut houtside (markupNext_instruction _)]
  exact resume_fault {} (scanWithin_instruction hplain hlast (openBehind before) behind)

/-- The text ends outside of markup, and has been read up to its end with this assembly. -/
structure ReadsTo (before : List α) (a : Assembly) : Prop where
  outside : endsOutside before
  read : readTokens {} ((scan before).lexemes.map (·.token)) = .ok a

namespace ReadsTo

variable {before : List α} {a : Assembly}

/-- **Of what stands before markup, only the assembly counts.** -/
theorem parse_append [ContentUnit α] (h : ReadsTo before a) {rest : List α}
    (hnext : MarkupNext rest) : parse (ContentUnit.source (before ++ rest)) =
      a.resume (scanWithin (openBehind before) rest) := by
  rw [ContentUnit.parse_source, scan_cut h.outside hnext]
  show Assembly.resume {} _ = _
  rw [resume_behind, h.read]
  rfl

/-- An element is only open behind a tag. -/
theorem bracket_mem (h : ReadsTo before a) (hstack : a.stack ≠ []) :
    TextUnit.ofAscii '<' ∈ before := by
  by_contra hplain
  have hkept : ∀ x ∈ dropMark before, is '<' x = false := by
    intro x hx
    have hmem : x ∈ before := by
      simp only [dropMark] at hx
      split at hx
      · exact List.mem_of_mem_drop hx
      · exact hx
    rw [Bool.eq_false_iff]
    intro hbracket
    exact hplain (is_iff.mp hbracket ▸ hmem)
  have hend : MarkupNext ([] : List α) := by simp [MarkupNext]
  have hscan := scanWithin_stretch hkept hend []
  rw [List.append_nil] at hscan
  have hlexemes : (scan before).lexemes = stretch (dropMark before) ++ [] :=
    congrArg Scan.lexemes hscan
  have hnest : nestAll [] ((scan before).lexemes.map (·.token)) = some ([] : List (List α)) := by
    rw [hlexemes, List.append_nil]
    unfold stretch
    split <;> rfl
  have hfits := readTokens_fits (fits_of_empty (b := {}) rfl) hnest
  rw [h.read] at hfits
  exact hstack (List.length_eq_zero_iff.mp hfits.height)

end ReadsTo

/-! ## Texts that do not count -/

namespace Assembly

/-- The element on top is one that texts are for. -/
def inDocumentation (a : Assembly) : Bool :=
  match a.stack with
  | .documentation _ :: _ => true
  | _ => false

theorem inDocumentation_addText (a : Assembly) (text : String) :
    (a.addText text).inDocumentation = a.inDocumentation := by
  obtain ⟨definitions, schema, stack⟩ := a
  rcases stack with _ | ⟨frame, below⟩
  · rfl
  · cases frame <;> rfl

theorem addText_outside {a : Assembly} (h : a.inDocumentation = false) (text : String) :
    a.addText text = a := by
  obtain ⟨definitions, schema, stack⟩ := a
  rcases stack with _ | ⟨frame, below⟩
  · rfl
  · cases frame with
    | documentation before => cases h
    | _ => rfl

theorem addText_empty (a : Assembly) : a.addText "" = a := by
  obtain ⟨definitions, schema, stack⟩ := a
  rcases stack with _ | ⟨frame, below⟩
  · rfl
  · cases frame with
    | documentation before => simp [addText]
    | _ => rfl

variable [LawfulTextUnit α]

/-- A text is taken for the characters that it stands for. -/
theorem readToken_text (a : Assembly) {content : List α} {cs : List Char}
    (h : characters? (Text.stripWhile isSpace content) = some cs) :
    a.readToken (.text content) = .ok (a.addText (String.ofList cs)) := by
  cases hkept : Text.stripWhile isSpace content with
  | nil =>
      rw [hkept, characters?_nil] at h
      obtain rfl := Option.some.inj h
      simp only [readToken, hkept]
      exact congrArg Except.ok (addText_empty a).symm
  | cons x kept =>
      rw [hkept] at h
      obtain ⟨text, hdecode, hread⟩ := Option.bind_eq_some_iff.mp h
      simp only [readToken, hkept, hdecode, hread]

theorem readToken_text_error (a : Assembly) {content : List α} (h : isReadable content = false) :
    ∃ e, a.readToken (.text content) = .error e := by
  cases hkept : Text.stripWhile isSpace content with
  | nil =>
      rw [isReadable, hkept, characters?_nil] at h
      cases h
  | cons x kept =>
      rw [isReadable, hkept] at h
      simp only [readToken, hkept]
      cases hdecode : TextUnit.decode? (x :: kept) with
      | none => exact ⟨_, rfl⟩
      | some text =>
          have hread : unescape? text = none := by
            rw [characters?, hdecode] at h
            exact Option.isNone_iff_eq_none.mp (Option.isSome_eq_false_iff.mp h)
          simp only [hread]
          exact ⟨_, rfl⟩

/-- Outside of documentation, a text only has to be readable. -/
theorem readToken_text_outside {a : Assembly} (houtside : a.inDocumentation = false)
    (content : List α) : Yields (fun _ => isReadable content = false)
      (fun b => b = a ∧ isReadable content) (a.readToken (.text content)) := by
  cases hreadable : isReadable content with
  | true =>
      obtain ⟨cs, hcs⟩ := Option.isSome_iff_exists.mp hreadable
      rw [readToken_text a hcs, addText_outside houtside]
      exact ⟨rfl, rfl⟩
  | false =>
      obtain ⟨e, he⟩ := readToken_text_error a hreadable
      rw [he]
      exact rfl

theorem readTokens_stretch {a : Assembly} (houtside : a.inDocumentation = false)
    (content : List α) :
    Yields (fun _ => isReadable content = false) (fun b => b = a ∧ isReadable content)
      (a.readTokens ((stretch content).map (·.token))) := by
  cases content with
  | nil =>
      have hempty : isReadable ([] : List α) := by
        rw [isReadable, show Text.stripWhile isSpace ([] : List α) = [] from rfl, characters?_nil]
        rfl
      exact ⟨rfl, hempty⟩
  | cons x content =>
      show Yields _ _ (a.readTokens [.text (x :: content)])
      rw [readTokens_singleton]
      exact readToken_text_outside houtside (x :: content)

theorem inDocumentation_stretch {a b : Assembly} {content : List α}
    (h : a.readTokens ((stretch content).map (·.token)) = .ok b) :
    a.inDocumentation = b.inDocumentation := by
  cases content with
  | nil => exact congrArg inDocumentation (Except.ok.inj h)
  | cons x content =>
      change a.readTokens [.text (x :: content)] = .ok b at h
      rw [readTokens_singleton] at h
      cases hcs : characters? (Text.stripWhile isSpace (x :: content)) with
      | some cs =>
          rw [readToken_text a hcs] at h
          rw [← Except.ok.inj h, inDocumentation_addText]
      | none =>
          have hunreadable : isReadable (x :: content) = false := by
            rw [isReadable, hcs]
            rfl
          obtain ⟨e, he⟩ := readToken_text_error a hunreadable
          rw [he] at h
          cases h

end Assembly

namespace ReadsTo

variable [ContentUnit α] {before more rest : List α} {a b : Assembly}

/-- A document that can be read can be read up to any place in front of markup,
and on from there. -/
theorem of_parse (houtside : endsOutside before) (hnext : MarkupNext rest) {parsed : Parsed}
    (h : parse (ContentUnit.source (before ++ rest)) = .ok parsed) : ∃ a, ReadsTo before a ∧
      a.resume (scanWithin (openBehind before) rest) = .ok parsed := by
  rw [ContentUnit.parse_source, scan_cut houtside hnext] at h
  change Assembly.resume {} _ = _ at h
  rw [resume_behind] at h
  obtain ⟨a, ha, hrest⟩ := exists_of_bind h
  exact ⟨a, ⟨houtside, ha⟩, hrest⟩

/-- Where a text goes on, the reader has come no further,
but what is added to the text is readable. -/
theorem text (h : ReadsTo before a) (hstack : a.stack ≠ []) (hplace : a.inDocumentation = false)
    (hplain : ∀ x ∈ more, is '<' x = false) (h' : ReadsTo (before ++ more) b) :
    b = a ∧ isReadable more := by
  obtain ⟨found, content, hlexemes, hlonger, -, -⟩ :=
    scan_stretch h.outside (h.bracket_mem hstack) hplain
  have hread := h.read
  have hread' := h'.read
  rw [hlexemes, List.map_append, readTokens_append] at hread
  rw [hlonger, List.map_append, readTokens_append] at hread'
  obtain ⟨c, hc, ha⟩ := exists_of_bind hread
  obtain ⟨c', hc', hb⟩ := exists_of_bind hread'
  obtain rfl := Except.ok.inj (hc.symm.trans hc')
  have houtside : c.inDocumentation = false := (inDocumentation_stretch ha).trans hplace
  have hshort := readTokens_stretch houtside content
  have hlong := readTokens_stretch houtside (content ++ more)
  rw [ha] at hshort
  rw [hb] at hlong
  exact ⟨hlong.1.trans hshort.1.symm, isReadable_of_append hshort.2 hlong.2⟩

/-- **A text may be cut in two** where it does not count: the reader goes on behind the cut as it
would have gone on anyway. -/
theorem resume_eq (h : ReadsTo before a) (hstack : a.stack ≠ [])
    (hplace : a.inDocumentation = false) {after : List α} {parsed : Parsed}
    (hparse : parse (ContentUnit.source (before ++ after)) = .ok parsed) :
    a.resume (scanWithin (openBehind before) after) = .ok parsed := by
  obtain ⟨more, rest, rfl, hplain, hnext⟩ := exists_cut after
  obtain ⟨-, -, -, -, houtside, hopen⟩ := scan_stretch h.outside (h.bracket_mem hstack) hplain
  rw [← List.append_assoc] at hparse
  obtain ⟨b, hb, hresume⟩ := of_parse houtside hnext hparse
  obtain ⟨rfl, hreadable⟩ := h.text hstack hplace hplain hb
  have hpassed := readTokens_stretch hplace more
  rw [scanWithin_stretch hplain hnext, resume_behind]
  cases hread : b.readTokens ((stretch more).map (·.token)) with
  | error e =>
      rw [hread] at hpassed
      exact absurd hreadable (by simp [show isReadable more = false from hpassed])
  | ok c =>
      rw [hread] at hpassed
      rw [hpassed.1, ← hopen]
      exact hresume

/-- Markup is taken, and the reader goes on inside the elements that are open behind it. -/
theorem parse_markup (h : ReadsTo before a) {l : Lexeme α} (hl : l.IsSpelled)
    (htext : l.token.isText = false) {inside : List (List α)}
    (hnest : nest (openBehind before) l.token = some inside) (after : List α) :
    parse (ContentUnit.source (before ++ l.source ++ after)) =
      a.readToken l.token >>= (·.resume (scanWithin inside after)) := by
  have hspelled : Spelled ([] ++ [l]) := ⟨by simpa using hl, .singleton l⟩
  have hscan : scanWithin (openBehind before) (sources ([] ++ [l]) ++ after) =
      (scanWithin inside after).behind ([] ++ [l]) :=
    hspelled.scanWithin htext (by simpa using hnest) after
  have hsource : sources ([] ++ [l]) = l.source := by simp
  rw [hsource] at hscan
  rw [List.append_assoc, h.parse_append (markupNext_spelled hl htext after), hscan, resume_behind,
    List.nil_append, List.map_singleton, readTokens_singleton]

/-- What is made of an element is for the element to say, and for what follows it. -/
theorem parse_insert (h : ReadsTo before a) {p : Passage α} (hp : p.isElement)
    (hspelled : Spelled p.lexemes) (after : List α) :
    parse (ContentUnit.source (before ++ p.text ++ after)) =
      a.readTokens (p.lexemes.map (·.token)) >>=
        (·.resume (scanWithin (openBehind before) after)) := by
  rw [List.append_assoc, h.parse_append (markupNext_element hp hspelled after),
    scanWithin_element hp hspelled, resume_behind]

end ReadsTo

end SoapBindings.Document
