/-
# `SoapBindings.Proofs.Markup.Declaring` — a namespace declared in the root

A declaration is one attribute more at the end of a tag, and a tag that has it is as well-formed as
before.  What else there is in a document is written as it was read, so a document that is written
the one way in which tokens are written stays what it was, but for that tag (`withNamespace_root`).
-/
import Mathlib.Data.List.Nodup
import SoapBindings.Markup.Namespace
import SoapBindings.Proofs.Markup.Attributes
import SoapBindings.Proofs.Markup.Insertion

namespace SoapBindings.Markup

/-! ## Tags with attributes -/

section

variable {α : Type} [DecidableEq α] [TextUnit α]

/-- A tag as it is written: a name, and attributes behind it. -/
structure WrittenTag (α : Type) where
  name : List α
  attributes : List (WrittenAttribute α)

namespace WrittenTag

def text (t : WrittenTag α) : List α := t.name ++ t.attributes.flatMap (·.text)

def keys (t : WrittenTag α) : List (List α) := t.attributes.map (·.key)

/-- The tag with an attribute more at its end. -/
def add (t : WrittenTag α) (w : WrittenAttribute α) : WrittenTag α :=
  { t with attributes := t.attributes ++ [w] }

structure IsWellFormed (t : WrittenTag α) : Prop where
  name : ∀ x ∈ t.name, isSpace x = false
  attributes : ∀ w ∈ t.attributes, w.IsWellFormed
  distinct : t.keys.Nodup

variable {t : WrittenTag α} {w : WrittenAttribute α}

omit [DecidableEq α] in
theorem text_add : (t.add w).text = t.text ++ w.text := by
  simp [text, add]

omit [DecidableEq α] [TextUnit α] in
theorem keys_add : (t.add w).keys = t.keys ++ [w.key] := by
  simp [keys, add]

theorem IsWellFormed.add (h : t.IsWellFormed) (hw : w.IsWellFormed) (hnew : w.key ∉ t.keys) :
    (t.add w).IsWellFormed := by
  refine ⟨h.name, ?_, ?_⟩
  · intro v hv
    rcases List.mem_append.mp hv with hv | hv
    · exact h.attributes v hv
    · rwa [List.mem_singleton.mp hv]
  · rw [keys_add]
    refine List.nodup_append.mpr ⟨h.distinct, List.nodup_singleton _, ?_⟩
    rintro key hkey _ hlast rfl
    exact hnew (List.mem_singleton.mp hlast ▸ hkey)

/-- The name of a tag ends where its attributes begin. -/
theorem IsWellFormed.tagRest_text (h : t.IsWellFormed) :
    tagRest t.text = t.attributes.flatMap (·.text) := by
  have hplain : t.name.dropWhile (!isSpace ·) = [] := by
    rw [List.dropWhile_eq_nil_iff]
    intro x hx
    rw [h.name x hx]
    rfl
  rw [tagRest, text, List.dropWhile_append, hplain]
  cases hattributes : t.attributes with
  | nil => rfl
  | cons w ws =>
      have hhead := (h.attributes w (by simp [hattributes])).head_text (ws.flatMap (·.text))
      rw [List.flatMap_cons]
      cases hrow : w.text ++ ws.flatMap (·.text) with
      | nil => rfl
      | cons x xs =>
          have hx : isSpace x := by simpa [hrow] using hhead
          simp [hx]

variable [LawfulTextUnit α]

/-- Attributes with different keys are read as they are written. -/
theorem foldl_attributes {ws : List (WrittenAttribute α)} (hws : ∀ w ∈ ws, w.IsWellFormed)
    (keys : List (List α)) (found : List (Except AttributeFault (Attribute α)))
    (hdistinct : (keys.reverse ++ ws.map (·.key)).Nodup) :
    (ws.flatMap (·.text)).foldl AttributeReader.step ⟨.gap, keys, found⟩ =
      ⟨.gap, (ws.map (·.key)).reverse ++ keys, (ws.map (.ok ·.toAttribute)).reverse ++ found⟩ := by
  induction ws generalizing keys found with
  | nil => rfl
  | cons w ws ih =>
      obtain ⟨hw, hws⟩ := List.forall_mem_cons.mp hws
      have hnew : w.key ∉ keys := by
        intro hkey
        rw [List.map_cons] at hdistinct
        exact (List.nodup_middle.mp hdistinct).notMem
          (List.mem_append_left _ (List.mem_reverse.mpr hkey))
      have hrest : ((w.key :: keys).reverse ++ ws.map (·.key)).Nodup := by
        simpa using hdistinct
      rw [List.flatMap_cons, List.foldl_append, AttributeReader.foldl_text hw hnew,
        ih hws _ _ hrest]
      simp

theorem IsWellFormed.foldl_text (h : t.IsWellFormed) :
    (tagRest t.text).foldl AttributeReader.step {} =
      ⟨.gap, t.keys.reverse, (t.attributes.map (.ok ·.toAttribute)).reverse⟩ := by
  rw [h.tagRest_text]
  simpa [keys] using foldl_attributes h.attributes [] [] h.distinct

/-- **The attributes of a tag are those that it is written with.** -/
theorem IsWellFormed.attributes_text (h : t.IsWellFormed) :
    Markup.attributes t.text = t.attributes.map (.ok ·.toAttribute) := by
  rw [Markup.attributes, h.foldl_text]
  exact List.reverse_reverse _

/-- There is a place for one attribute more at the end of a tag. -/
theorem IsWellFormed.between (h : t.IsWellFormed) (hcontent : isTagContent t.text) :
    Between t.text [] := by
  refine ⟨?_, ?_, .inr rfl⟩
  · rw [h.foldl_text]
  · simpa using (Bool.and_eq_true_iff.mp hcontent).2

end WrittenTag

end

/-! ## The tag of an element -/

namespace Passage

variable {α : Type} [DecidableEq α] [TextUnit α]

/-- The tag that an element begins with. -/
def tag : Passage α → List α
  | .between _ _ => []
  | .empty tag _ | .element tag _ _ _ => tag

/-- The element with another first tag. -/
def withTag (tag : List α) : Passage α → Passage α
  | .between lexeme plain => .between lexeme plain
  | .empty _ _ => .empty tag (Token.empty tag).render
  | .element _ _ content closing => .element tag (Token.start tag).render content closing

/-- What is written behind the first tag of an element, with the delimiter of that tag. -/
def behindTag : Passage α → List α
  | .between _ _ => []
  | .empty _ _ => ascii "/>"
  | .element _ _ content closing => ascii ">" ++ sources (lexemesOf content) ++ closing

/-- Every piece of the passage is written in the one way in which its token is. -/
def IsRendered (p : Passage α) : Prop := ∀ l ∈ p.lexemes, l.source = l.token.render

instance (p : Passage α) : Decidable p.IsRendered :=
  inferInstanceAs (Decidable (∀ l ∈ p.lexemes, l.source = l.token.render))

variable {p : Passage α}

theorem text_withTag (h : p.isElement) (tag : List α) :
    (p.withTag tag).text = ascii "<" ++ (tag ++ p.behindTag) := by
  cases p with
  | between _ _ => cases h
  | empty _ _ => simp [withTag, text, lexemes, behindTag, Token.render]
  | element _ _ _ _ => simp [withTag, text, lexemes, behindTag, Token.render]

theorem IsRendered.withTag_tag (h : p.IsRendered) : p.withTag p.tag = p := by
  cases p with
  | between _ _ => rfl
  | empty tag source =>
      have hsource : source = (Token.empty tag).render := h ⟨.empty tag, source⟩ (by simp [lexemes])
      rw [hsource]
      rfl
  | element tag opening content closing =>
      have hopening : opening = (Token.start tag).render :=
        h ⟨.start tag, opening⟩ (by simp [lexemes])
      rw [hopening]
      rfl

/-- A tag of the same name is closed by the same end tag. -/
theorem IsRendered.withTag (h : p.IsRendered) {tag : List α} (hname : tagName tag = tagName p.tag) :
    (p.withTag tag).IsRendered := by
  cases p with
  | between _ _ => exact h
  | empty _ _ =>
      intro l hl
      rw [List.mem_singleton.mp hl]
  | element before opening content closing =>
      have hname : tagName tag = tagName before := hname
      intro l hl
      rw [Passage.withTag, lexemes, hname] at hl
      rcases List.mem_cons.mp hl with rfl | hl
      · rfl
      · exact h l (List.mem_cons_of_mem _ hl)

omit [DecidableEq α] in
theorem content_withTag (tag : List α) : (p.withTag tag).content = p.content := by
  cases p <;> rfl

omit [DecidableEq α] in
theorem tag_withTag (h : p.isElement) (tag : List α) : (p.withTag tag).tag = tag := by
  cases p with
  | between _ _ => cases h
  | _ => rfl

end Passage

/-! ## Texts that end in a bracket -/

/-- Behind a closing bracket the scanner is outside of markup, or in markup that the end of the text
does not complete. -/
theorem Scanner.finish_close (s : Scanner Char) :
    (∃ content, (s.step '>').mode = .text content) ∨ ∃ e, (s.step '>').finish.mode = .failed e := by
  obtain ⟨mode, openTags, lexemes⟩ := s
  have hput (s : Scanner Char) (l : Lexeme Char) :
      (∃ content, (s.put l).mode = .text content) ∨ ∃ e, (s.put l).finish.mode = .failed e := by
    unfold put
    split
    · exact .inl ⟨_, rfl⟩
    · exact .inr ⟨_, rfl⟩
  cases mode with
  | text content | opened => exact .inl ⟨_, rfl⟩
  | failed e | declaration => exact .inr ⟨_, rfl⟩
  | tag quote content =>
      cases quote with
      | some quote => exact .inr ⟨_, rfl⟩
      | none =>
          show (∃ _, (addTag _ content).mode = _) ∨ ∃ _, (addTag _ content).finish.mode = _
          unfold addTag
          dsimp only
          split
          · exact .inl ⟨_, rfl⟩
          · split <;> exact .inl ⟨_, rfl⟩
  | endTag content =>
      show (∃ _, (addEndTag _ content ['>']).mode = _) ∨
        ∃ _, (addEndTag _ content ['>']).finish.mode = _
      rw [addEndTag_eq_put]
      exact hput _ _
  | instruction content =>
      show (∃ _, (addInstruction _ content ['>']).mode = _) ∨
        ∃ _, (addInstruction _ content ['>']).finish.mode = _
      rcases addInstruction_eq content ['>'] with ⟨kept, hkept⟩ | hfail
      · rw [hkept]
        exact hput _ _
      · rw [hfail]
        exact .inr ⟨_, rfl⟩
  | comment content =>
      show (∃ _, (closeComment _ content).mode = _) ∨ ∃ _, (closeComment _ content).finish.mode = _
      unfold closeComment
      dsimp only
      repeat' split
      all_goals first | exact .inl ⟨_, rfl⟩ | exact .inr ⟨_, rfl⟩
  | cdata content =>
      show (∃ _, (closeCData _ content).mode = _) ∨ ∃ _, (closeCData _ content).finish.mode = _
      unfold closeCData
      dsimp only
      repeat' split
      all_goals first | exact .inl ⟨_, rfl⟩ | exact .inr ⟨_, rfl⟩
  | doctype depth content =>
      by_cases hdepth : depth = 0
      · have hstep : step ⟨.doctype depth content, openTags, lexemes⟩ '>' =
            closeDoctype ⟨.doctype depth content, openTags, lexemes⟩ content := by
          simp [step, is, TextUnit.ofAscii, hdepth]
        rw [hstep]
        unfold closeDoctype
        dsimp only
        repeat' split
        all_goals first | exact .inl ⟨_, rfl⟩ | exact .inr ⟨_, rfl⟩
      · have hstep : step ⟨.doctype depth content, openTags, lexemes⟩ '>' =
            ⟨.doctype (depth - 1) ('>' :: content), openTags, lexemes⟩ := by
          simp [step, is, TextUnit.ofAscii, hdepth]
        rw [hstep]
        exact .inr ⟨_, rfl⟩

/-- A text without a fault whose last character is a closing bracket ends outside of markup. -/
theorem endsOutside_of_close {cs before : List Char} (hfault : (scan cs).fault = none)
    (hclose : dropMark cs = before ++ ['>']) : endsOutside cs := by
  have hrun : Scanner.run {} (dropMark cs) = (Scanner.run {} before).step '>' := by
    rw [hclose, Scanner.run_append]
    rfl
  rw [endsOutside, hrun]
  rcases Scanner.finish_close (Scanner.run {} before) with ⟨content, hmode⟩ | ⟨e, hmode⟩
  · rw [hmode]
  · simp [scan, hrun, hmode] at hfault

/-! ## Elements as they are written -/

/-- A row can be read with other markup in front. -/
theorem Spelled.replaceHead {l m : Lexeme Char} {ls : List (Lexeme Char)} (h : Spelled (l :: ls))
    (hm : m.IsSpelled) (htext : m.token.isText = false) : Spelled (m :: ls) := by
  have h : Spelled ([l] ++ ls) := h
  have hm : Spelled [m] := ⟨by simpa using hm, .singleton m⟩
  refine hm.append h.of_append.2 ?_
  intro k hk _ _ hplain
  obtain rfl := Option.some.inj hk
  simp [htext] at hplain

/-- An element as messages are written: every piece in the one way in which its token is, and the
first tag with a name and attributes. -/
structure WrittenRoot (root : Passage Char) (tag : WrittenTag Char) : Prop where
  element : root.isElement
  read : ReadAs root.text [root]
  rendered : root.IsRendered
  begins : root.tag = tag.text
  wellFormed : tag.IsWellFormed

namespace WrittenRoot

variable {root : Passage Char} {tag : WrittenTag Char}

theorem text_eq (h : WrittenRoot root tag) : root.text = '<' :: (tag.text ++ root.behindTag) := by
  have htext := Passage.text_withTag h.element root.tag
  rw [h.rendered.withTag_tag, h.begins] at htext
  exact htext

theorem scan_eq (h : WrittenRoot root tag) : scan root.text = ⟨root.lexemes, none⟩ := by
  have hread : scan root.text = ⟨lexemesOf [root], none⟩ := h.read
  rw [hread, lexemesOf, lexemesOf, List.append_nil]

theorem behindTag_eq (h : WrittenRoot root tag) :
    root.behindTag = "/>".toList ∨ root.behindTag.head? = some '>' := by
  cases root with
  | between _ _ => cases h.element
  | empty _ _ => exact .inl rfl
  | element _ _ _ _ => exact .inr rfl

/-- The element begins and ends with a bracket. -/
theorem brackets (h : WrittenRoot root tag) : ∃ inner, root.text = '<' :: (inner ++ ['>']) := by
  rw [h.text_eq]
  have hrendered := h.rendered
  cases root with
  | between _ _ => cases h.element
  | empty _ _ => exact ⟨tag.text ++ ['/'], by simp [Passage.behindTag, ascii, TextUnit.ofAscii]⟩
  | element before opening content closing =>
      have hclosing : closing = (Token.stop (tagName before)).render :=
        hrendered ⟨.stop (tagName before), closing⟩ (by simp [Passage.lexemes])
      refine ⟨tag.text ++ (ascii ">" ++ sources (lexemesOf content) ++
        (ascii "</" ++ tagName before)), ?_⟩
      simp [Passage.behindTag, hclosing, Token.render, ascii, TextUnit.ofAscii]

/-- What was read of the element can be read anywhere. -/
theorem spelled (h : WrittenRoot root tag) : Spelled root.lexemes := by
  obtain ⟨inner, hinner⟩ := h.brackets
  have hmark : dropMark root.text = ('<' :: inner) ++ ['>'] := by
    rw [hinner]
    rfl
  have hfault : (scan root.text).fault = none := by rw [h.scan_eq]
  obtain ⟨hspelled, -, -⟩ := scan_of_endsOutside (endsOutside_of_close hfault hmark)
  rwa [h.scan_eq] at hspelled

theorem isWritten (h : WrittenRoot root tag) {l : Lexeme Char} (hl : l ∈ root.lexemes)
    (hopening : l.token.isOpening) : l.token.isWritten := by
  have hl : l ∈ (scan root.text).lexemes := by
    rw [h.scan_eq]
    exact hl
  exact isWritten_of_scan hl hopening

variable {w : WrittenAttribute Char}

/-- The first tag with one attribute more can be read where that tag stood. -/
theorem spelled_add (h : WrittenRoot root tag) (hw : w.IsWellFormed) :
    tagName (tag.add w).text = tagName root.tag ∧
      Spelled (root.withTag (tag.add w).text).lexemes := by
  have hspelled := h.spelled
  have hbegins := h.begins
  have hwritten (l : Lexeme Char) := h.isWritten (l := l)
  have hplace (hcontent : isTagContent tag.text) : Between tag.text [] :=
    h.wellFormed.between hcontent
  have hname (hcontent : isTagContent tag.text) : tagName (tag.add w).text = tagName tag.text := by
    have hinsert := tagName_insert (hplace hcontent) hw
    rwa [List.append_nil, List.append_nil, ← WrittenTag.text_add] at hinsert
  cases root with
  | between _ _ => cases h.element
  | empty before source =>
      obtain rfl : before = tag.text := hbegins
      have htag : (Token.empty tag.text).isWritten := hwritten ⟨.empty tag.text, source⟩
        (by simp [Passage.lexemes]) rfl
      have hcontent : isTagContent tag.text := (Bool.and_eq_true_iff.mp htag).1
      have hmore : (Token.empty (tag.add w).text).isWritten := by
        have hinsert := isWritten_empty_insert (by simpa using htag) (hplace hcontent) hw
        rwa [List.append_nil, ← WrittenTag.text_add] at hinsert
      exact ⟨hname hcontent, hspelled.replaceHead (Token.isSpelled_of_isWritten hmore) rfl⟩
  | element before opening content closing =>
      obtain rfl : before = tag.text := hbegins
      have htag : (Token.start tag.text).isWritten := hwritten ⟨.start tag.text, opening⟩
        (by simp [Passage.lexemes]) rfl
      have hcontent : isTagContent tag.text := (Bool.and_eq_true_iff.mp htag).1
      have hmore : (Token.start (tag.add w).text).isWritten := by
        have hinsert := isWritten_start_insert (by simpa using htag) (hplace hcontent) hw
        rwa [List.append_nil, ← WrittenTag.text_add] at hinsert
      refine ⟨hname hcontent, ?_⟩
      rw [Passage.withTag, Passage.lexemes, hname hcontent]
      exact hspelled.replaceHead (Token.isSpelled_of_isWritten hmore) rfl

/-- **One attribute more at the end of its first tag** leaves an element written as messages are. -/
theorem add (h : WrittenRoot root tag) (hw : w.IsWellFormed) (hnew : w.key ∉ tag.keys) :
    WrittenRoot (root.withTag (tag.add w).text) (tag.add w) := by
  obtain ⟨hname, hspelled⟩ := h.spelled_add hw
  have htext := Passage.text_withTag h.element (tag.add w).text
  have hmark : dropMark (root.withTag (tag.add w).text).text =
      (root.withTag (tag.add w).text).text := by
    rw [htext]
    rfl
  have hscan := hspelled.scan (nestAll_lexemes [] _) hmark
  refine ⟨?_, ?_, h.rendered.withTag hname, Passage.tag_withTag h.element _,
    h.wellFormed.add hw hnew⟩
  · have helement := h.element
    cases root with
    | between _ _ => cases helement
    | _ => rfl
  · rw [ReadAs, lexemesOf, lexemesOf, List.append_nil]
    exact hscan

end WrittenRoot

/-! ## The declaration -/

/-- No character that a reference stands for is left in a text. -/
theorem plain_of_mem_escape {c : Char} {cs : List Char} (hc : c ∈ escape cs) :
    c ∉ ['<', '>', '\'', '"'] := by
  obtain ⟨d, -, hd⟩ := List.mem_flatMap.mp hc
  unfold escapeChar at hd
  cases hlookup : namedCharacters.lookup d with
  | none =>
      rw [hlookup] at hd
      obtain rfl := List.mem_singleton.mp hd
      intro hspecial
      obtain ⟨name, hname⟩ : ∃ name, (c, name) ∈ namedCharacters := by
        have hall : ['<', '>', '\'', '"'].all (namedCharacters.map Prod.fst).contains := by decide
        have hmem := List.contains_iff_mem.mp (List.all_eq_true.mp hall c hspecial)
        obtain ⟨⟨_, name⟩, hname, rfl⟩ := List.mem_map.mp hmem
        exact ⟨name, hname⟩
      simpa using List.lookup_eq_none_iff.mp hlookup _ hname
  | some name =>
      rw [hlookup] at hd
      obtain ⟨before, after, htable, -⟩ := List.lookup_eq_some_iff.mp hlookup
      have hname : (d, name) ∈ namedCharacters := by simp [htable]
      have hall : namedCharacters.all fun p => ('&' :: p.2.toList ++ [';']).all fun c =>
          !(['<', '>', '\'', '"'].contains c) := by decide +kernel
      simpa using List.all_eq_true.mp (List.all_eq_true.mp hall _ hname) c hd

/-- A declaration of the default namespace as it is written. -/
def declaration (uri : List Char) : WrittenAttribute Char where
  lead := [' ']
  key := "xmlns".toList
  quote := '"'
  value := escape uri

theorem text_declaration (uri : List Char) :
    (declaration uri).text = " xmlns=\"".toList ++ escape uri ++ ['"'] := by
  simp [declaration, WrittenAttribute.text, TextUnit.ofAscii]

theorem isWellFormed_declaration (uri : List Char) : (declaration uri).IsWellFormed where
  apart := by simp [declaration]
  lead := by rfl
  named := by simp [declaration]
  key := by
    show "xmlns".toList.all _ = true
    decide
  beforeEquals := rfl
  behindEquals := rfl
  quote := by rfl
  value := fun h => plain_of_mem_escape h (by simp [declaration])

/-- The tag has the attribute that declares a default namespace. -/
theorem declaresNamespace_text {tag : WrittenTag Char} (h : tag.IsWellFormed) :
    declaresNamespace tag.text = decide ("xmlns".toList ∈ tag.keys) := by
  rw [declaresNamespace, h.attributes_text, Bool.eq_iff_iff]
  simp [WrittenTag.keys, WrittenAttribute.toAttribute]

theorem addNamespace_text {tag : WrittenTag Char} (h : tag.IsWellFormed) (uri : List Char) :
    addNamespace uri tag.text =
      if "xmlns".toList ∈ tag.keys then tag.text else (tag.add (declaration uri)).text := by
  rw [addNamespace, declaresNamespace_text h, WrittenTag.text_add, text_declaration]
  simp only [decide_eq_true_eq, List.append_assoc]

/-- Tokens are written as the lexemes that they were read from. -/
theorem flatMap_render {ls : List (Lexeme Char)} (h : ∀ l ∈ ls, l.source = l.token.render) :
    (ls.map (·.token)).flatMap Token.render = sources ls := by
  rw [List.flatMap_map, sources]
  exact (List.flatMap_congr h).symm

/-- What is read of an element is written again, but for its first tag. -/
theorem WrittenRoot.withNamespace_eq {root : Passage Char} {tag : WrittenTag Char}
    (h : WrittenRoot root tag) (uri : List Char) :
    withNamespace uri root.text = .ok (root.withTag (addNamespace uri tag.text)).text := by
  have hrendered := h.rendered
  have hbegins := h.begins
  rw [withNamespace, h.scan_eq]
  cases root with
  | between _ _ => cases h.element
  | empty before source =>
      obtain rfl : before = tag.text := hbegins
      simp [Passage.lexemes, declareIn, Passage.withTag, Passage.text]
  | element before opening content closing =>
      obtain rfl : before = tag.text := hbegins
      have hbehind := flatMap_render fun l hl => hrendered l (List.mem_cons_of_mem _ hl)
      rw [Passage.lexemes, List.map_cons, declareIn, List.flatMap_cons, hbehind]
      simp [Passage.withTag, Passage.text, Passage.lexemes]

/-- Where the first tag declares a namespace, nothing changes. -/
theorem WrittenRoot.withNamespace_declared {root : Passage Char} {tag : WrittenTag Char}
    (h : WrittenRoot root tag) (hdeclared : "xmlns".toList ∈ tag.keys) (uri : List Char) :
    withNamespace uri root.text = .ok root.text := by
  rw [h.withNamespace_eq, addNamespace_text h.wellFormed, if_pos hdeclared, ← h.begins,
    h.rendered.withTag_tag]

/-- **A default namespace is declared in the root, and once.**  It is put at the end of the first
tag, unless that tag has it already, and no other character changes.  So a second declaration
changes nothing, and the content of the root is what it was. -/
theorem withNamespace_root {root : Passage Char} {tag : WrittenTag Char} (h : WrittenRoot root tag)
    (uri : List Char) : ∃ behind result,
    root.text = '<' :: (tag.text ++ behind) ∧
      (behind = "/>".toList ∨ behind.head? = some '>') ∧
      result = (if "xmlns".toList ∈ tag.keys then root.text
        else '<' :: (tag.text ++ (" xmlns=\"".toList ++ escape uri ++ ['"'] ++ behind))) ∧
      withNamespace uri root.text = .ok result ∧
      (∀ other, withNamespace other result = .ok result) ∧
      ∃ root' tag',
        result = root'.text ∧ WrittenRoot root' tag' ∧ root'.content = root.content := by
  refine ⟨root.behindTag, _, h.text_eq, h.behindTag_eq, rfl, ?_⟩
  by_cases hdeclared : "xmlns".toList ∈ tag.keys
  · rw [if_pos hdeclared]
    exact ⟨h.withNamespace_declared hdeclared uri, h.withNamespace_declared hdeclared,
      root, tag, rfl, h, rfl⟩
  · have hadd := h.add (isWellFormed_declaration uri) hdeclared
    have htext : (root.withTag (tag.add (declaration uri)).text).text =
        '<' :: (tag.text ++ (" xmlns=\"".toList ++ escape uri ++ ['"'] ++ root.behindTag)) := by
      rw [Passage.text_withTag h.element, WrittenTag.text_add, text_declaration, List.append_assoc]
      rfl
    have hkey : "xmlns".toList ∈ (tag.add (declaration uri)).keys := by
      rw [WrittenTag.keys_add]
      exact List.mem_append_right _ (List.mem_singleton.mpr rfl)
    rw [if_neg hdeclared, ← htext]
    refine ⟨?_, hadd.withNamespace_declared hkey, _, _, rfl, hadd, Passage.content_withTag _⟩
    rw [h.withNamespace_eq, addNamespace_text h.wellFormed, if_neg hdeclared]

/-! ### An element with elements in it -/

/-- An element whose first tag has a bracket in an attribute. -/
def nestedTag : WrittenTag Char where
  name := "m:a".toList
  attributes := [{ lead := [' '], key := "b".toList, quote := '\'', value := ">".toList }]

def nestedRoot : Passage Char := .tagged nestedTag.text
  [.empty "n xmlns=\"urn:b\"".toList "<n xmlns=\"urn:b\"/>".toList,
    .between ⟨.text "1 &lt; 2".toList, "1 &lt; 2".toList⟩ rfl,
    .tagged "n".toList []]

theorem withNamespace_root_nested : WrittenRoot nestedRoot nestedTag ∧
    withNamespace "urn:a&b".toList
        "<m:a b='>'><n xmlns=\"urn:b\"/>1 &lt; 2<n></n></m:a>".toList =
      .ok "<m:a b='>' xmlns=\"urn:a&amp;b\"><n xmlns=\"urn:b\"/>1 &lt; 2<n></n></m:a>".toList := by
  have hname : nestedTag.name.all (!isSpace ·) := by decide +kernel
  have hwritten : WrittenRoot nestedRoot nestedTag :=
    { element := rfl
      read := by decide +kernel
      rendered := by decide +kernel
      begins := rfl
      wellFormed :=
        { name := by simpa using hname
          attributes := by
            intro w hw
            obtain rfl := List.mem_singleton.mp hw
            exact ⟨by simp, rfl, by decide +kernel, by decide +kernel, rfl, rfl, rfl,
              by decide +kernel⟩
          distinct := by decide +kernel } }
  refine ⟨hwritten, ?_⟩
  obtain ⟨behind, result, htext, -, hresult, hdeclare, -⟩ :=
    withNamespace_root hwritten "urn:a&b".toList
  have hbehind : behind = nestedRoot.behindTag :=
    List.append_cancel_left (List.cons.inj (htext.symm.trans hwritten.text_eq)).2
  rw [if_neg (by decide +kernel), hbehind] at hresult
  exact hdeclare.trans (congrArg Except.ok hresult)

end SoapBindings.Markup
