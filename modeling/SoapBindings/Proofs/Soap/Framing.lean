/-
# `SoapBindings.Proofs.Soap.Framing` — what is put into an envelope comes out of it

An envelope is written by putting texts between tags, and read by counting elements.  The message
that was put in comes out again, whatever the header holds (`content_envelope`), if either text is
complete by itself.  A header that needs its end to be complete, as an end tag without its bracket
does, finds the tags of the envelope in the place of its end, and there is nothing to be read.
-/
import SoapBindings.Proofs.Soap.Content

namespace SoapBindings.Soap

open Markup

/-! ## The envelope as a tree -/

/-- The instruction that an envelope begins with. -/
def declaration : Lexeme Char :=
  .ofToken (.instruction "xml version=\"1.0\" encoding=\"utf-8\"".toList)

def envelopeTag : List Char :=
  "soap:Envelope xmlns:soap=\"".toList ++ envelopeNamespace.toList ++ "\"".toList

def headerTag : List Char := "soap:Header".toList

def bodyTag : List Char := "soap:Body".toList

theorem elementName_envelopeTag : elementName envelopeTag = "Envelope" := by rfl

theorem elementName_headerTag : elementName headerTag = "Header" := by rfl

theorem elementName_bodyTag : elementName bodyTag = "Body" := by rfl

/-- The tree of an envelope. -/
def framed (header : Option (List (Passage Char))) (message : List (Passage Char)) : Passage Char :=
  .tagged envelopeTag ((header.map (.tagged headerTag)).toList ++ [.tagged bodyTag message])

/-- The envelope as a row of passages. -/
def document (header : Option (List (Passage Char))) (message : List (Passage Char)) :
    List (Passage Char) := [.between declaration rfl, framed header message]

/-- The end tag of an element. -/
def endOf (tag : List Char) : Lexeme Char := .ofToken (.stop (tagName tag))

/-- The lexemes up to the content of an element in the envelope. -/
def front (tag : List Char) : List (Lexeme Char) :=
  [declaration, .ofToken (.start envelopeTag), .ofToken (.start tag)]

/-- The lexemes between the content of the header and that of the body. -/
def middle : List (Lexeme Char) :=
  [endOf headerTag, .ofToken (.start bodyTag)]

/-- The lexemes behind the content of the body. -/
def back : List (Lexeme Char) := [endOf bodyTag, endOf envelopeTag]

theorem lexemesOf_document_none (message : List (Passage Char)) :
    lexemesOf (document none message) = front bodyTag ++ (lexemesOf message ++ back) := by
  simp [document, framed, front, back, endOf, lexemesOf, Passage.lexemes_tagged, Passage.lexemes]

theorem lexemesOf_document_some (header message : List (Passage Char)) :
    lexemesOf (document (some header) message) =
      front headerTag ++ (lexemesOf header ++ (middle ++ (lexemesOf message ++ back))) := by
  simp [document, framed, front, middle, back, endOf, lexemesOf, Passage.lexemes_tagged,
    Passage.lexemes]

theorem spelled_of_scan {ls : List (Lexeme Char)} (hend : endsOutside (sources ls))
    (hscan : (scan (sources ls)).lexemes = ls) : Spelled ls := by
  obtain ⟨hspelled, -, -⟩ := scan_of_endsOutside hend
  rwa [hscan] at hspelled

theorem spelled_around_header : Spelled (front headerTag ++ (middle ++ back)) :=
  spelled_of_scan (by decide +kernel) (by decide +kernel)

theorem spelled_around_message : Spelled (front bodyTag ++ back) :=
  spelled_around_header.sublist (.cons_cons _ (.cons_cons _ (.cons _ (.cons _ (.refl _)))))
    (by decide)

/-- Complete texts are read in an envelope as they would be read anywhere. -/
theorem spelled_document {header : Option (List (Passage Char))} {message : List (Passage Char)}
    (hheader : ∀ ps ∈ header, Spelled (lexemesOf ps)) (hmessage : Spelled (lexemesOf message)) :
    Spelled (lexemesOf (document header message)) := by
  cases header with
  | none =>
      rw [lexemesOf_document_none]
      exact spelled_around_message.insert hmessage (by decide) (by decide)
  | some ps =>
      have hframe := spelled_around_header
      rw [← List.append_assoc] at hframe
      have hbehind := hframe.insert hmessage (by decide) (by decide)
      rw [List.append_assoc] at hbehind
      have hborder : ∀ l ∈ (middle ++ (lexemesOf message ++ back)).head?,
          l.token.isText = false := by
        rintro _ ⟨⟩
        rfl
      rw [lexemesOf_document_some]
      exact hbehind.insert (hheader ps rfl) (by decide) hborder

/-- What an envelope begins with. -/
def preamble : List Char :=
  "<?xml version=\"1.0\" encoding=\"utf-8\"?><soap:Envelope xmlns:soap=\"".toList ++
    escape envelopeNamespace.toList ++ "\">".toList

theorem sources_front (tag : List Char) :
    sources (front tag) = preamble ++ (ascii "<" ++ tag ++ ascii ">") := by
  have hpreamble : sources [declaration, .ofToken (.start envelopeTag)] = preamble := by rfl
  rw [← hpreamble]
  simp [front, Lexeme.ofToken, Token.render]

theorem sources_front_body :
    sources (front bodyTag) = preamble ++ ("<soap:" ++ "Body" ++ ">").toList :=
  sources_front bodyTag

theorem sources_front_header :
    sources (front headerTag) = preamble ++ ("<soap:" ++ "Header" ++ ">").toList :=
  sources_front headerTag

theorem sources_middle : sources middle =
    ("</soap:" ++ "Header" ++ ">").toList ++ ("<soap:" ++ "Body" ++ ">").toList := by
  rfl

theorem sources_back :
    sources back = ("</soap:" ++ "Body" ++ ">").toList ++ "</soap:Envelope>".toList := by
  rfl

theorem envelope_none (message : List Char) :
    envelope (some message) none = sources (front bodyTag) ++ (message ++ sources back) := by
  rw [show envelope (some message) none =
    preamble ++ [] ++ wrapped "Body" message ++ "</soap:Envelope>".toList from rfl]
  simp only [sources_front_body, sources_back, wrapped, List.append_assoc, List.nil_append]

theorem envelope_some (message header : List Char) : envelope (some message) (some header) =
    sources (front headerTag) ++ (header ++ (sources middle ++ (message ++ sources back))) := by
  rw [show envelope (some message) (some header) =
    preamble ++ wrapped "Header" header ++ wrapped "Body" message ++
      "</soap:Envelope>".toList from rfl]
  simp only [sources_front_header, sources_middle, sources_back, wrapped, List.append_assoc]

/-- The tree is written as the envelope around its two parts. -/
theorem sources_document (header : Option (List (Passage Char))) (message : List (Passage Char)) :
    sources (lexemesOf (document header message)) =
      envelope (some (sources (lexemesOf message)))
        (header.map fun ps => sources (lexemesOf ps)) := by
  cases header with
  | none =>
      rw [lexemesOf_document_none, Option.map_none, envelope_none]
      simp only [sources_append]
  | some ps =>
      rw [lexemesOf_document_some, Option.map_some, envelope_some]
      simp only [sources_append]

/-- The payload of the tree is the first element of the message, whatever the header holds. -/
theorem payload_framed (header : Option (List (Passage Char))) (message : List (Passage Char)) :
    payload (framed header message) = .ok (elements message).head? := by
  have hname : nameOf (framed header message) = "Envelope" := elementName_envelopeTag
  have hheader (ps : List (Passage Char)) : nameOf (.tagged headerTag ps) = "Header" :=
    elementName_headerTag
  have hbody : nameOf (.tagged bodyTag message) = "Body" := elementName_bodyTag
  have hfound : body? (framed header message) = some (.tagged bodyTag message) := by
    cases header with
    | none =>
        show List.find? _ [Passage.tagged bodyTag message] = _
        rw [List.find?_cons_of_pos (by simp [hbody])]
    | some ps =>
        show List.find? _ [Passage.tagged headerTag ps, .tagged bodyTag message] = _
        rw [List.find?_cons_of_neg (by simp [hheader]), List.find?_cons_of_pos (by simp [hbody])]
  rw [payload, if_neg (not_not_intro hname), hfound]
  rfl

/-- What is put into an envelope comes out of it. -/
theorem content_document {header : Option (List (Passage Char))} {message : List (Passage Char)}
    (hheader : ∀ ps ∈ header, Spelled (lexemesOf ps)) (hmessage : Spelled (lexemesOf message)) :
    content (sources (lexemesOf (document header message))) =
      .ok ((elements message).head?.map fun child => ⟨nameOf child, child.text⟩) := by
  have hmark : (sources (lexemesOf (document header message))).head? ≠ some '\uFEFF' := by
    show some '<' ≠ some '\uFEFF'
    decide
  have hread : ReadAs (sources (lexemesOf (document header message))) (document header message) :=
    (spelled_document hheader hmessage).scan (nestAll_lexemesOf [] _) (dropMark_of_head hmark)
  rw [content_eq_payload hmark hread rfl, payload_framed]
  rfl

/-! ## Texts in an envelope -/

/-- A text that begins with a byte order mark loses it when it is read, and in an envelope the mark
is text like any other. -/
theorem exists_row {cs rest : List Char} {ls : List (Lexeme Char)} (hls : Spelled ls)
    (hcs : dropMark cs = sources ls ++ rest) : ∃ ms, Spelled ms ∧ cs = sources ms ++ rest ∧
      ∀ openTags, nestAll openTags (ms.map (·.token)) = nestAll openTags (ls.map (·.token)) := by
  by_cases hmark : cs.head? = some '\uFEFF'
  · obtain ⟨inner, rfl⟩ := List.head?_eq_some_iff.mp hmark
    have hplain : ∀ c ∈ ['\uFEFF'], is '<' c = false := by
      intro c hc
      rw [List.mem_singleton.mp hc]
      rfl
    obtain ⟨ms, hms, hsources, hnest⟩ := hls.withText (List.cons_ne_nil _ _) hplain
    have hinner : inner = sources ls ++ rest := hcs
    exact ⟨ms, hms, by rw [hsources, hinner]; rfl, hnest⟩
  · rw [dropMark_of_head hmark] at hcs
    exact ⟨ls, hls, hcs, fun _ => rfl⟩

/-- A text that is read without a fault, and ends outside of markup, is a row of passages. -/
theorem exists_complete {cs : List Char} {ps : List (Passage Char)} (hread : ReadAs cs ps)
    (hend : endsOutside cs) : ∃ qs, Spelled (lexemesOf qs) ∧ cs = sources (lexemesOf qs) := by
  have hread : scan cs = ⟨lexemesOf ps, none⟩ := hread
  obtain ⟨hspelled, hsources, -⟩ := scan_of_endsOutside hend
  rw [hread] at hspelled hsources
  have hcs : dropMark cs = sources (lexemesOf ps) ++ [] := by rw [List.append_nil, hsources]
  obtain ⟨ms, hms, hcs, hnest⟩ := exists_row hspelled hcs
  obtain ⟨qs, rfl⟩ := exists_passages_iff.mpr ((hnest []).trans (nestAll_lexemesOf [] ps))
  exact ⟨qs, hms, by rw [hcs, List.append_nil]⟩

/-- Inside the header, or deeper, there is no body to be found. -/
theorem locate_within (fault : Option MarkupError) {openTags after : List (List Char)}
    {ls : List (Lexeme Char)} (h : nestAll openTags (ls.map (·.token)) = some after)
    (place behind : Nat) : locate fault (openTags.length + 2) false place behind ls =
      match fault with
      | some error => .error (.malformed error)
      | none => .error .missingBody := by
  induction ls generalizing openTags place behind with
  | nil => rfl
  | cons l ls ih =>
      obtain ⟨token, source⟩ := l
      rw [List.map_cons, nestAll_cons] at h
      obtain ⟨next, hnext, hrest⟩ := Option.bind_eq_some_iff.mp h
      cases token with
      | start tag =>
          obtain rfl := Option.some.inj hnext
          simpa [locate] using ih hrest _ _
      | stop name =>
          obtain rfl := nest_stop_eq_some hnext
          simpa [locate] using ih hrest _ _
      | empty tag =>
          obtain rfl := Option.some.inj hnext
          simpa [locate] using ih hrest _ _
      | text _ | comment _ | cdata _ | instruction _ | doctype _ =>
          obtain rfl := Option.some.inj hnext
          simpa [locate] using ih hrest _ _

/-- A fault behind a header that has not ended is all that is found. -/
theorem content_of_fault {cs : List Char} {ls : List (Lexeme Char)} {e : MarkupError}
    (hscan : scan cs = ⟨front headerTag ++ ls, some e⟩) {after : List (List Char)}
    (hnest : nestAll [] (ls.map (·.token)) = some after) : content cs = .error (.malformed e) := by
  have hlocate : locate (some e) 0 false 0 0 (front headerTag ++ ls) = .error (.malformed e) := by
    have hother : (decide (1 = 1) && elementName headerTag == "Body") = false := by
      rw [elementName_headerTag]
      rfl
    show locateFrom (some e) 0 false [] (declaration :: ⟨.start envelopeTag, _⟩ ::
      ⟨.start headerTag, _⟩ :: ls) = _
    rw [locateFrom_between _ _ _ _ _ rfl, locateFrom_start _ _ _ (.inr elementName_envelopeTag),
      show (decide (0 = 1) && elementName envelopeTag == "Body") = false from rfl,
      locateFrom_start _ _ _ (.inl Nat.one_ne_zero), hother]
    exact locate_within (some e) hnest _ _
  rw [content, hscan]
  simp only [hlocate]
  rfl

/-- A fault that the scanner meets before the header has ended. -/
theorem content_of_failed {before behind : List Char} {ls : List (Lexeme Char)}
    {after : List (List Char)} {e : MarkupError} {tags : List (List Char)}
    (hrun : Scanner.run {} (sources (front headerTag) ++ before) =
      ⟨.failed e, tags, (front headerTag ++ ls).reverse⟩)
    (hnest : nestAll [] (ls.map (·.token)) = some after) :
    content (sources (front headerTag) ++ (before ++ behind)) = .error (.malformed e) := by
  have hmark : (sources (front headerTag) ++ (before ++ behind)).head? ≠ some '\uFEFF' := by
    show some '<' ≠ some '\uFEFF'
    decide
  refine content_of_fault ?_ hnest
  rw [← List.append_assoc] at hmark ⊢
  simp only [scan, dropMark_of_head hmark]
  rw [Scanner.run_append, hrun, Scanner.run_failed rfl]
  simp [Scanner.finish]

/-- The name in an end tag is no longer than what the tag holds. -/
theorem length_endName_le (content : List Char) :
    (Scanner.endName content).length ≤ content.length := by
  have hsuffix := (List.dropWhile_suffix Scanner.isTrailing (l := content)).length_le
  simp only [Scanner.endName]
  cases hkept : content.dropWhile Scanner.isTrailing with
  | nil => simp
  | cons x kept =>
      rw [hkept] at hsuffix
      simpa using hsuffix

/-- The end tag of the header, behind an end tag that has not ended: together they name something
else. -/
theorem run_endTag (content : List Char) (outer : List (List Char)) (ls : List (Lexeme Char)) :
    Scanner.run ⟨.endTag content, Scanner.endName content :: outer, ls⟩ "</soap:Header>".toList =
      ⟨.failed .mismatchedEnd, Scanner.endName content :: outer, ls⟩ := by
  show Scanner.addEndTag ⟨.endTag ("redaeH:paos/<".toList ++ content),
    Scanner.endName content :: outer, ls⟩ ("redaeH:paos/<".toList ++ content) ['>'] = _
  have hname : Scanner.endName ("redaeH:paos/<".toList ++ content) =
      content.reverse ++ "</soap:Header".toList := by
    show ("redaeH:paos/<".toList ++ content).reverse = _
    rw [List.reverse_append]
    rfl
  have hlonger : content.reverse ++ "</soap:Header".toList ≠ Scanner.endName content := by
    intro hsame
    have hlength := congrArg List.length hsame
    have hle := length_endName_le content
    rw [List.length_append, List.length_reverse, show "</soap:Header".toList.length = 13 from rfl]
      at hlength
    omega
  rw [Scanner.addEndTag_eq_put, hname, Scanner.put, nest, if_neg hlonger]
  rfl

/-- The end tag of the header, behind an instruction that has not ended. -/
theorem run_instruction (content : List Char) (tags : List (List Char)) (ls : List (Lexeme Char)) :
    Scanner.run ⟨.instruction content, tags, ls⟩ "</soap:Header>".toList =
      ⟨.failed .unclosedInstruction, tags, ls⟩ := by
  rfl

theorem nestAll_front (ls : List (Lexeme Char)) :
    nestAll [] ((front headerTag ++ ls).map (·.token)) =
    nestAll [headerTag, tagName envelopeTag] (ls.map (·.token)) := by
  have hfront : nestAll [] ((front headerTag).map (·.token)) =
      some [headerTag, tagName envelopeTag] := by rfl
  rw [List.map_append, nestAll_append, hfront, Option.bind_some]

/-- What a bracket in front of them makes of the lexemes between the contents: the end tag becomes a
start tag. -/
def openedMiddle : List (Lexeme Char) :=
  [.ofToken (.start "</soap:Header".toList), .ofToken (.start bodyTag)]

/-- A bracket at the end of the header opens an element that
is still open where the envelope ends. -/
theorem run_opened {row : List (Lexeme Char)} (hrow : Spelled row) {openTags : List (List Char)}
    (hnest : nestAll [] (row.map (·.token)) = some openTags) {message : List (Passage Char)}
    (hmessage : Spelled (lexemesOf message)) : ∃ ls after tags,
      Scanner.run {} (sources (front headerTag) ++ (sources row ++ (['<'] ++ (sources middle ++
        (sources (lexemesOf message) ++ sources back))))) =
          ⟨.failed .mismatchedEnd, tags, (front headerTag ++ ls).reverse⟩ ∧
      nestAll [] (ls.map (·.token)) = some after := by
  have hopened : Spelled [Lexeme.ofToken (.start "</soap:Header".toList)] :=
    spelled_of_scan (by decide +kernel) (by decide +kernel)
  have hframe : Spelled (front headerTag ++ (openedMiddle ++ [endOf bodyTag])) := by
    refine (spelled_around_header.insert hopened (by decide) (by decide)).sublist ?_ (by decide)
    refine (List.Sublist.refl _).append (.cons_cons _ (.cons _ ?_))
    exact .cons_cons _ (.cons_cons _ (.cons _ (.refl _)))
  have hls : Spelled (front headerTag ++
      (row ++ (openedMiddle ++ (lexemesOf message ++ [endOf bodyTag])))) := by
    rw [← List.append_assoc] at hframe
    have hinserted := hframe.insert hmessage (by decide) (by decide)
    rw [List.append_assoc] at hinserted
    refine hinserted.insert hrow (by decide) ?_
    rintro _ ⟨⟩
    rfl
  have htags (outer : List (List Char)) : nestAll outer
      ((row ++ (openedMiddle ++ (lexemesOf message ++ [endOf bodyTag]))).map (·.token)) =
        some ("</soap:Header".toList :: openTags ++ outer) := by
    have hinner := nestAll_outer hnest outer
    have hopened (inner : List (List Char)) : nestAll inner (openedMiddle.map (·.token)) =
        some (tagName bodyTag :: "</soap:Header".toList :: inner) := rfl
    rw [List.nil_append] at hinner
    simp only [List.map_append, nestAll_append, hinner, Option.bind_some, hopened,
      nestAll_lexemesOf]
    exact nest_stop (tagName bodyTag) _
  have hlast : (endOf envelopeTag).IsSpelled := spelled_around_message.each _ (by simp [back])
  refine ⟨_, _, "</soap:Header".toList :: openTags ++ [headerTag, tagName envelopeTag], ?_,
    htags []⟩
  cases hlast with
  | stretch htoken _ _ => cases htoken
  | markup _ _ hread =>
      have hrun := hls.run_then ((nestAll_front _).trans (htags _))
        (f := (·.put (endOf envelopeTag))) hread
      have hopened : ['<'] ++ sources middle = sources openedMiddle := by rfl
      have hback : sources back = sources [endOf bodyTag] ++ (endOf envelopeTag).source := by
        simp [back]
      rw [← List.append_assoc ['<'], hopened, hback]
      simp only [sources_append, List.append_assoc] at hrun ⊢
      rw [hrun]
      rfl

/-- **A header that needs its end to be complete spoils the envelope.** -/
theorem content_of_unfinished {header : List Char} {ps message : List (Passage Char)}
    (hread : ReadAs header ps) (hend : ¬ endsOutside header)
    (hmessage : Spelled (lexemesOf message)) :
    ∃ e, content (envelope (some (sources (lexemesOf message))) (some header)) =
      .error (.malformed e) := by
  have hfault : (scan header).fault = none := by
    rw [show scan header = _ from hread]
  obtain ⟨ls, openTags, m, hheader, hls, hnest, hstands, hmode⟩ := exists_unfinished hfault hend
  obtain ⟨row, hrow, hheader, htags⟩ := exists_row hls hheader
  have hnest : nestAll [] (row.map (·.token)) = some openTags := (htags []).trans hnest
  have hframe : Spelled (front headerTag ++ row) := by
    have hinserted := spelled_around_header.insert hrow (by decide) (by decide)
    rw [← List.append_assoc] at hinserted
    exact hinserted.of_append.1
  have hopen : nestAll [] ((front headerTag ++ row).map (·.token)) =
      some (openTags ++ [headerTag, tagName envelopeTag]) := by
    rw [nestAll_front]
    exact nestAll_outer hnest _
  have hrun : Scanner.run {} (sources (front headerTag) ++ (sources row ++ m.pending)) =
      ⟨m, openTags ++ [headerTag, tagName envelopeTag], (front headerTag ++ row).reverse⟩ := by
    rw [← List.append_assoc, ← sources_append]
    exact hframe.run_then hopen (f := fun s => { s with mode := m }) hstands
  -- A fault that the end tag of the header is ends the search, which has found nothing.
  have hstopped {e : MarkupError} (hstop : ∀ ls, Scanner.run
      ⟨m, openTags ++ [headerTag, tagName envelopeTag], ls⟩ "</soap:Header>".toList =
        ⟨.failed e, openTags ++ [headerTag, tagName envelopeTag], ls⟩) :
      content (sources (front headerTag) ++
        ((sources row ++ m.pending ++ "</soap:Header>".toList) ++
        ("<soap:Body>".toList ++ (sources (lexemesOf message) ++ sources back)))) =
          .error (.malformed e) := by
    have hfailed : Scanner.run {} (sources (front headerTag) ++
        (sources row ++ m.pending ++ "</soap:Header>".toList)) = ⟨.failed e, openTags ++
          [headerTag, tagName envelopeTag], (front headerTag ++ row).reverse⟩ := by
      rw [← List.append_assoc, Scanner.run_append, hrun, hstop]
    exact content_of_failed hfailed hnest
  have hcs : envelope (some (sources (lexemesOf message))) (some header) =
      sources (front headerTag) ++ ((sources row ++ m.pending ++ "</soap:Header>".toList) ++
        ("<soap:Body>".toList ++ (sources (lexemesOf message) ++ sources back))) := by
    rw [envelope_some, hheader, show sources middle =
      "</soap:Header>".toList ++ "<soap:Body>".toList by rfl]
    simp only [List.append_assoc]
  rcases hmode with rfl | ⟨content, outer, rfl, rfl⟩ | ⟨content, rfl⟩
  · obtain ⟨ls, after, tags, hrun, hnest⟩ := run_opened hrow hnest hmessage
    refine ⟨.mismatchedEnd, ?_⟩
    have hfailed : content (sources (front headerTag) ++ (_ ++ [])) = _ :=
      content_of_failed hrun hnest
    rw [List.append_nil] at hfailed
    rw [envelope_some, hheader, List.append_assoc]
    exact hfailed
  · rw [hcs]
    exact ⟨_, hstopped (run_endTag content _)⟩
  · rw [hcs]
    exact ⟨_, hstopped (run_instruction content _)⟩

/-- What comes out of an envelope is the first element of the message exactly if the header is
complete. -/
theorem content_of_message {header : Option (List Char)} (hheader : ∀ h ∈ header, ∃ ps, ReadAs h ps)
    {message : List (Passage Char)} (hmessage : Spelled (lexemesOf message)) :
    content (envelope (some (sources (lexemesOf message))) header) =
      .ok ((elements message).head?.map fun child => ⟨nameOf child, child.text⟩) ↔
        ∀ h ∈ header, endsOutside h := by
  constructor
  · intro hcontent h hmem
    obtain rfl := hmem
    by_contra hend
    obtain ⟨ps, hread⟩ := hheader h rfl
    obtain ⟨e, herror⟩ := content_of_unfinished hread hend hmessage
    rw [herror] at hcontent
    cases hcontent
  · intro hends
    cases header with
    | none =>
        rw [show envelope _ none = _ from (sources_document none message).symm]
        exact content_document (fun _ h => nomatch h) hmessage
    | some h =>
        obtain ⟨ps, hread⟩ := hheader h rfl
        obtain ⟨qs, hqs, rfl⟩ := exists_complete hread (hends h rfl)
        rw [show envelope _ (some (sources (lexemesOf qs))) = _ from
          (sources_document (some qs) message).symm]
        refine content_document ?_ hmessage
        rintro _ ⟨⟩
        exact hqs

/-- **What is put into an envelope comes out of it**, character for character, and from an envelope
without a message comes nothing, whatever elements the header holds.  The header has to end outside
of markup, and that is all it has to do. -/
theorem content_envelope {header : Option (List Char)} (hheader : ∀ h ∈ header, ∃ ps, ReadAs h ps) :
    (∀ (message : List Char) (root : Passage Char), ReadAs message [root] → root.isElement →
      message.head? ≠ some '\uFEFF' → endsOutside message →
        (content (envelope (some message) header) = .ok (some ⟨nameOf root, message⟩) ↔
          ∀ h ∈ header, endsOutside h)) ∧
    (content (envelope none header) = .ok none ↔ ∀ h ∈ header, endsOutside h) := by
  constructor
  · intro message root hread hroot hmark hend
    have hread : scan message = ⟨lexemesOf [root], none⟩ := hread
    obtain ⟨hspelled, hsources, -⟩ := scan_of_endsOutside hend
    rw [hread] at hspelled hsources
    have hmessage : sources (lexemesOf [root]) = message := hsources.trans (dropMark_of_head hmark)
    have hchild : (elements [root]).head? = some root := by simp [elements, hroot]
    have htext : root.text = message := by
      rw [← hmessage]
      simp [lexemesOf, Passage.text]
    have hcontent := content_of_message hheader hspelled
    rwa [hmessage, hchild, Option.map_some, htext] at hcontent
  · exact @content_of_message _ hheader [] .nil

/-- A header that looks like what comes behind it. -/
def nestedHeader : List Char := "<soap:Body><Fault/></soap:Body><!-- > -->".toList

theorem content_envelope_nested :
    (∃ ps, ReadAs nestedHeader ps) ∧ endsOutside nestedHeader ∧
    content (envelope (some "<m:A b='>'><m:A/></m:A>".toList) (some nestedHeader)) =
      .ok (some ⟨"A", "<m:A b='>'><m:A/></m:A>".toList⟩) ∧
    content (envelope none (some nestedHeader)) = .ok none := by
  have hheader : ∃ ps, ReadAs nestedHeader ps :=
    ⟨[.tagged "soap:Body".toList [.empty "Fault".toList "<Fault/>".toList],
      .between (.ofToken (.comment " > ".toList)) rfl], by rfl⟩
  have hends : endsOutside nestedHeader := by rfl
  have hread : ReadAs "<m:A b='>'><m:A/></m:A>".toList
      [.tagged "m:A b='>'".toList [.empty "m:A".toList "<m:A/>".toList]] := by rfl
  obtain ⟨hmessage, hnone⟩ := @content_envelope (some nestedHeader) (by simpa using hheader)
  have hcontent := (hmessage _ _ hread rfl (by decide) (by rfl)).mpr (by simpa using hends)
  exact ⟨hheader, hends, hcontent, hnone.mpr (by simpa using hends)⟩

/-- An end tag that only the end of the text closes runs into the envelope, as header and as
message, and a byte order mark in front of a message is left behind. -/
theorem content_envelope_unfinished :
    ReadAs "<a></a".toList [.element "a".toList "<a>".toList [] "</a".toList] ∧
    content (envelope none (some "<a></a".toList)) = .error (.malformed .mismatchedEnd) ∧
    content (envelope (some "<a></a".toList) none) = .error (.malformed .mismatchedEnd) ∧
    ReadAs "\uFEFF<a/>".toList [.empty "a".toList "<a/>".toList] ∧
    content (envelope (some "\uFEFF<a/>".toList) none) = .ok (some ⟨"a", "<a/>".toList⟩) :=
  ⟨by decide +kernel, by decide +kernel, by decide +kernel, by decide +kernel, by decide +kernel⟩

end SoapBindings.Soap
