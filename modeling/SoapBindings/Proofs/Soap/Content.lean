/-
# `SoapBindings.Proofs.Soap.Content` — the content of an envelope

Reading an envelope is a matter of trees: its content is the first child element of the first `Body`
among the children of the root (`payload`).  The reader knows no trees.  It counts elements that are
open, notes places, and cuts the text; what it comes to is the same (`content_finds_payload`), and
the cut is the element as it is written.
-/
import Mathlib.Data.List.TakeWhile
import SoapBindings.Proofs.Markup.Readable
import SoapBindings.Proofs.Markup.Rows
import SoapBindings.Soap.Envelope

namespace SoapBindings

/-! ## Cutting a text -/

namespace Text

@[simp] theorem octets_append (xs ys : List Char) : octets (xs ++ ys) = octets xs + octets ys := by
  induction xs with
  | nil => simp [octets]
  | cons x xs ih => simp only [List.cons_append, octets, ih, Nat.add_assoc]

theorem cutAt?_append (xs ys : List Char) : cutAt? (xs ++ ys) (octets xs) = some (xs, ys) := by
  induction xs with
  | nil => cases ys <;> rfl
  | cons x xs ih =>
      have hpos : x.utf8Size + octets xs ≠ 0 := Nat.ne_of_gt (Nat.add_pos_left x.utf8Size_pos _)
      simp only [List.cons_append, octets, cutAt?, hpos, if_false, Nat.le_add_right, if_true,
        Nat.add_sub_cancel_left, ih, Option.map_some]

/-- A text is cut between two of its parts. -/
theorem slice?_append (xs ys zs : List Char) :
    slice? (xs ++ (ys ++ zs)) (octets xs) (octets xs + octets ys) = some ys := by
  simp only [slice?, cutAt?_append, Nat.add_sub_cancel_left, bind, Option.bind, pure]

/-- Blanks at the beginning go, and nothing else if the rest begins and ends with something. -/
theorem stripWhile_append {p : Char → Bool} {blanks : List Char} (hblanks : ∀ c ∈ blanks, p c)
    {first last : Char} (hfirst : p first = false) (hlast : p last = false) (inner : List Char) :
    stripWhile p (blanks ++ ([first] ++ inner ++ [last])) = [first] ++ inner ++ [last] := by
  have hfront : (blanks ++ ([first] ++ inner ++ [last])).dropWhile p =
      [first] ++ inner ++ [last] := by
    rw [List.dropWhile_append_of_pos hblanks]
    exact List.dropWhile_cons_of_neg (by simp [hfirst])
  have hback : ([first] ++ inner ++ [last]).reverse.dropWhile p =
      ([first] ++ inner ++ [last]).reverse := by
    rw [List.reverse_append]
    exact List.dropWhile_cons_of_neg (by simp [hlast])
  rw [stripWhile, hfront, dropEndWhile, hback, List.reverse_reverse]

end Text

namespace Soap

open Markup

/-! ## The content of a tree -/

/-- The local name of an element. -/
def nameOf : Passage Char → String
  | .between _ _ => ""
  | .empty tag _ | .element tag _ _ _ => elementName tag

/-- The body of an envelope: the first one counts. -/
def body? (envelope : Passage Char) : Option (Passage Char) :=
  (elements envelope.content).find? (nameOf · == "Body")

/-- The element that an envelope carries, or nothing if its body is empty. -/
def payload (root : Passage Char) : Except SoapError (Option (Passage Char)) :=
  if nameOf root ≠ "Envelope" then .error (.unexpectedRoot (nameOf root))
  else match body? root with
  | none => .error .missingBody
  | some body => .ok (elements body.content).head?

/-- An element where it is found: one of some passages, with those before and behind it. -/
theorem elements_split {ps l m : List (Passage Char)} {p : Passage Char}
    (h : elements ps = l ++ p :: m) : ∃ before after, ps = before ++ p :: after ∧
      elements before = l ∧ p.isElement ∧ elements after = m := by
  obtain ⟨front, rest, rfl, hfront, hrest⟩ := List.filter_eq_append_iff.mp h
  obtain ⟨between, after, rfl, hbetween, hp, hafter⟩ := List.filter_eq_cons_iff.mp hrest
  refine ⟨front ++ between, after, (List.append_assoc ..).symm, ?_, hp, hafter⟩
  have hnone : elements between = [] := List.filter_eq_nil_iff.mpr hbetween
  simp only [elements] at hnone ⊢
  rw [List.filter_append, hfront, hnone, List.append_nil]

/-! ## The search -/

/-- Where the last lexeme ends that is no padding. -/
def ended (done : List (Lexeme Char)) : Nat :=
  Text.octets (sources (Text.dropEndWhile (fun l => isPadding l.token) done))

/-- What has been passed is padding behind the place where the last other lexeme ended. -/
theorem exists_ended (done : List (Lexeme Char)) : ∃ kept padding, done = kept ++ padding ∧
    ended done = Text.octets (sources kept) ∧ ∀ l ∈ padding, isPadding l.token := by
  obtain ⟨padding, hdone, hpadding⟩ :=
    Text.exists_trail (fun l : Lexeme Char => isPadding l.token) done
  exact ⟨_, padding, hdone, rfl, hpadding⟩

/-- The search behind the lexemes that it has passed. -/
def locateFrom (fault : Option MarkupError) (depth : Nat) (inBody : Bool)
    (done ls : List (Lexeme Char)) : Except SoapError (Option (String × Nat × Nat)) :=
  locate fault depth inBody (Text.octets (sources done)) (ended done) ls

theorem octets_snoc (done : List (Lexeme Char)) (l : Lexeme Char) :
    Text.octets (sources (done ++ [l])) = Text.octets (sources done) + Text.octets l.source := by
  simp

theorem ended_snoc (done : List (Lexeme Char)) (l : Lexeme Char) :
    ended (done ++ [l]) =
      if isPadding l.token then ended done
      else Text.octets (sources done) + Text.octets l.source := by
  cases hl : isPadding l.token with
  | true => simp [ended, Text.dropEndWhile, hl]
  | false => simp [ended, Text.dropEndWhile, hl]

section Search

variable (fault : Option MarkupError) (depth : Nat) (done rest : List (Lexeme Char))

/-- What stands between tags is passed by, wherever it is. -/
theorem locateFrom_between (inBody : Bool) {l : Lexeme Char} (hl : l.token.isTag = false) :
    locateFrom fault depth inBody done (l :: rest) =
      locateFrom fault depth inBody (done ++ [l]) rest := by
  obtain ⟨token, source⟩ := l
  simp only [locateFrom, octets_snoc, ended_snoc]
  cases token <;> first | rfl | cases hl

variable {depth} {tag source : List Char}

/-- A start tag opens one more element, and the body if that is what stands there. -/
theorem locateFrom_start (hroot : depth ≠ 0 ∨ elementName tag = "Envelope") :
    locateFrom fault depth false done (⟨.start tag, source⟩ :: rest) =
      locateFrom fault (depth + 1) (depth = 1 && elementName tag == "Body")
        (done ++ [⟨.start tag, source⟩]) rest := by
  have hname : (depth = 0 && elementName tag != "Envelope") = false := by
    rcases hroot with hdepth | hname
    · simp [hdepth]
    · simp [hname]
  simp only [locateFrom, octets_snoc, ended_snoc]
  simp only [locate, hname, isPadding, Bool.and_false, Bool.false_or, Bool.false_eq_true, if_false]

theorem locateFrom_empty (hroot : depth ≠ 0 ∨ elementName tag = "Envelope")
    (hbody : depth ≠ 1 ∨ elementName tag ≠ "Body") :
    locateFrom fault depth false done (⟨.empty tag, source⟩ :: rest) =
      locateFrom fault depth false (done ++ [⟨.empty tag, source⟩]) rest := by
  have hname : (depth = 0 && elementName tag != "Envelope") = false := by
    rcases hroot with hdepth | hname
    · simp [hdepth]
    · simp [hname]
  have hother : (depth = 1 && elementName tag == "Body") = false := by
    rcases hbody with hdepth | hname
    · simp [hdepth]
    · simp [hname]
  simp only [locateFrom, octets_snoc, ended_snoc]
  simp only [locate, hname, hother, isPadding, Bool.and_false, Bool.false_eq_true, if_false]

theorem locateFrom_stop :
    locateFrom fault (depth + 1) false done (⟨.stop tag, source⟩ :: rest) =
      locateFrom fault depth false (done ++ [⟨.stop tag, source⟩]) rest := by
  simp only [locateFrom, octets_snoc, ended_snoc]
  simp only [locate, isPadding, Bool.and_false, Bool.false_eq_true, if_false, Nat.add_sub_cancel]

end Search

section Passages

variable (fault : Option MarkupError)

mutual

/-- An element inside the root is passed by if it is no body, whatever it holds. -/
theorem locateFrom_passage (depth : Nat) (done rest : List (Lexeme Char)) :
    ∀ p : Passage Char, (depth ≠ 0 ∨ nameOf p ≠ "Body") →
      locateFrom fault (depth + 1) false done (p.lexemes ++ rest) =
        locateFrom fault (depth + 1) false (done ++ p.lexemes) rest
  | .between l plain, _ => locateFrom_between fault _ done rest false plain
  | .empty tag source, hbody =>
      locateFrom_empty fault done rest (.inl (Nat.succ_ne_zero depth))
        (hbody.imp_left fun hdepth => mt Nat.succ.inj hdepth)
  | .element tag opening content closing, hbody => by
      have hother : (depth + 1 = 1 && elementName tag == "Body") = false := by
        rcases hbody with hdepth | hname
        · simp [hdepth]
        · have hname : elementName tag ≠ "Body" := hname
          simp [hname]
      have hinside := locateFrom_passages (depth + 1) (done ++ [⟨.start tag, opening⟩])
        (⟨.stop (tagName tag), closing⟩ :: rest) content (.inl (Nat.succ_ne_zero depth))
      simp only [Passage.lexemes, List.cons_append, List.append_assoc]
      rw [locateFrom_start fault done _ (.inl (Nat.succ_ne_zero depth)), hother, List.nil_append,
        hinside, locateFrom_stop]
      simp

theorem locateFrom_passages (depth : Nat) (done rest : List (Lexeme Char)) :
    ∀ ps : List (Passage Char), (depth ≠ 0 ∨ ∀ p ∈ elements ps, nameOf p ≠ "Body") →
      locateFrom fault (depth + 1) false done (lexemesOf ps ++ rest) =
        locateFrom fault (depth + 1) false (done ++ lexemesOf ps) rest
  | [], _ => by simp [lexemesOf]
  | p :: ps, hbody => by
      have hp : depth ≠ 0 ∨ nameOf p ≠ "Body" := by
        rcases hbody with hdepth | hnames
        · exact .inl hdepth
        · cases p with
          | between _ _ => exact .inr (show "" ≠ "Body" by decide)
          | empty _ _ | element _ _ _ _ =>
            exact .inr (hnames _ (by simp [elements, Passage.isElement]))
      have hps : depth ≠ 0 ∨ ∀ q ∈ elements ps, nameOf q ≠ "Body" := by
        refine hbody.imp_right fun hnames q hq => hnames q ?_
        obtain ⟨hmem, helement⟩ := List.mem_filter.mp hq
        exact List.mem_filter.mpr ⟨List.mem_cons_of_mem p hmem, helement⟩
      simp only [lexemesOf, List.append_assoc]
      rw [locateFrom_passage depth done _ p hp, locateFrom_passages depth _ rest ps hps,
        List.append_assoc]

end

/-- Where there are no elements, everything is passed by. -/
theorem locateFrom_plain (depth : Nat) (inBody : Bool) (done rest : List (Lexeme Char))
    {ps : List (Passage Char)} (h : elements ps = []) :
    locateFrom fault depth inBody done (lexemesOf ps ++ rest) =
      locateFrom fault depth inBody (done ++ lexemesOf ps) rest := by
  induction ps generalizing done with
  | nil => simp [lexemesOf]
  | cons p ps ih =>
      cases p with
      | between l plain =>
          have hps : elements ps = [] := h
          simp only [lexemesOf, Passage.lexemes, List.cons_append, List.nil_append]
          rw [locateFrom_between fault _ _ _ _ plain, ih _ hps]
          simp
      | empty _ _ | element _ _ _ _ => cases h

end Passages

mutual

/-- A passage takes part in the reach of what it stands in, and changes nothing else about it. -/
theorem reach?_lexemes (name : List Char) (depth : Nat) (rest : List (Lexeme Char)) :
    ∀ p : Passage Char, reach? name depth (p.lexemes ++ rest) =
      (reach? name depth rest).map (Text.octets p.text + ·)
  | .between ⟨token, source⟩ plain => by
      simp only [Passage.text, Passage.lexemes, sources_cons, sources_nil, List.append_nil]
      cases token <;> first | rfl | cases plain
  | .empty tag source => by simp [Passage.text, Passage.lexemes, reach?]
  | .element tag opening content closing => by
      simp only [Passage.text, Passage.lexemes, List.cons_append, List.append_assoc, sources_cons,
        sources_append, sources_nil, Text.octets_append, List.nil_append, List.append_nil]
      -- An element of the same name inside is closed by its own end tag.
      by_cases hname : tagName tag = name
      · simp only [reach?, hname, if_true, reach?_lexemesOf, Option.map_map]
        congr 1
        funext n
        simp only [Function.comp_apply, Nat.add_assoc]
      · simp only [reach?, hname, if_false, reach?_lexemesOf, Option.map_map]
        congr 1
        funext n
        simp only [Function.comp_apply, Nat.add_assoc]

theorem reach?_lexemesOf (name : List Char) (depth : Nat) (rest : List (Lexeme Char)) :
    ∀ ps : List (Passage Char), reach? name depth (lexemesOf ps ++ rest) =
      (reach? name depth rest).map (Text.octets (sources (lexemesOf ps)) + ·)
  | [] => by simp [lexemesOf, Text.octets]
  | p :: ps => by
      simp only [lexemesOf, List.append_assoc, sources_append, Text.octets_append]
      rw [reach?_lexemes name depth _ p, reach?_lexemesOf name depth rest ps, Option.map_map]
      congr 1
      funext n
      simp only [Function.comp_apply, Passage.text, Nat.add_assoc]

end

/-- The first element that is met in the body is what is looked for, from the end of what stands
before it to its own end. -/
theorem locateFrom_child (fault : Option MarkupError) (done rest : List (Lexeme Char))
    {child : Passage Char} (h : child.isElement) :
    locateFrom fault 2 true done (child.lexemes ++ rest) =
      .ok (some (nameOf child, ended done,
        Text.octets (sources done) + Text.octets child.text)) := by
  cases child with
  | between _ _ => cases h
  | empty tag source =>
      simp [locateFrom, Passage.lexemes, locate, nameOf, Passage.text]
  | element tag opening content closing =>
      have hreach : reach? (tagName tag) 0
          (lexemesOf content ++ (⟨.stop (tagName tag), closing⟩ :: rest)) =
            some (Text.octets (sources (lexemesOf content)) + Text.octets closing) := by
        rw [reach?_lexemesOf]
        simp [reach?]
      simp only [Passage.lexemes, List.cons_append, List.append_assoc, List.nil_append, locateFrom,
        locate, hreach]
      simp [nameOf, Passage.text, Passage.lexemes, Nat.add_assoc]

/-- What the search comes to in a row of lexemes, given what is to be found there. -/
inductive Finds (row : List (Lexeme Char)) : Except SoapError (Option (Passage Char)) →
    Except SoapError (Option (String × Nat × Nat)) → Prop
  | error (e : SoapError) : Finds row (.error e) (.error e)
  | nothing : Finds row (.ok none) (.ok none)
  | child {child done rest} (h : child.isElement) (hrow : row = done ++ (child.lexemes ++ rest))
      (hrest : rest ≠ []) :
      Finds row (.ok (some child)) (.ok (some (nameOf child, ended done,
        Text.octets (sources done) + Text.octets child.text)))

/-- The body ends the search. -/
theorem locateFrom_body (done rest : List (Lexeme Char)) {body : Passage Char} (h : body.isElement)
    (hname : nameOf body = "Body") :
    Finds (done ++ (body.lexemes ++ rest)) (.ok (elements body.content).head?)
      (locateFrom none 1 false done (body.lexemes ++ rest)) := by
  cases body with
  | between _ _ => cases h
  | empty tag source =>
      have hname : elementName tag = "Body" := hname
      have hlocate : locateFrom none 1 false done (⟨.empty tag, source⟩ :: rest) = .ok none := by
        simp [locateFrom, locate, hname]
      simp only [Passage.lexemes, List.cons_append, List.nil_append, hlocate]
      exact .nothing
  | element tag opening content closing =>
      have hname : elementName tag = "Body" := hname
      simp only [Passage.lexemes, List.cons_append, List.append_assoc, List.nil_append,
        Passage.content]
      rw [locateFrom_start none done _ (.inl Nat.one_ne_zero), hname]
      show Finds _ _ (locateFrom none 2 true (done ++ [⟨.start tag, opening⟩]) _)
      cases hchild : (elements content).head? with
      | none =>
          have hnone : elements content = [] := List.head?_eq_none_iff.mp hchild
          have hstop (done : List (Lexeme Char)) : locateFrom none 2 true done
              (⟨.stop (tagName tag), closing⟩ :: rest) = .ok none := by
            simp [locateFrom, locate]
          rw [locateFrom_plain none 2 true _ _ hnone, hstop]
          exact .nothing
      | some child =>
          obtain ⟨others, hothers⟩ := List.head?_eq_some_iff.mp hchild
          obtain ⟨before, after, rfl, hbefore, helement, -⟩ := elements_split (l := []) hothers
          rw [lexemesOf_append, lexemesOf, List.append_assoc, List.append_assoc,
            locateFrom_plain none 2 true _ _ hbefore, locateFrom_child none _ _ helement]
          have hrow : done ++ ⟨.start tag, opening⟩ :: (lexemesOf before ++ (child.lexemes ++
              (lexemesOf after ++ ⟨.stop (tagName tag), closing⟩ :: rest))) =
                done ++ [⟨.start tag, opening⟩] ++ lexemesOf before ++ (child.lexemes ++
                  (lexemesOf after ++ ⟨.stop (tagName tag), closing⟩ :: rest)) := by
            simp
          exact .child helement hrow (by simp)

/-- The search in an envelope, up to what stands behind it. -/
theorem locateFrom_envelope (done : List (Lexeme Char)) {root : Passage Char} (h : root.isElement)
    {after : List (Passage Char)} (hafter : elements after = []) :
    Finds (done ++ (root.lexemes ++ lexemesOf after)) (payload root)
      (locateFrom none 0 false done (root.lexemes ++ lexemesOf after)) := by
  -- Behind the root there is nothing to be found.
  have hend (done : List (Lexeme Char)) :
      locateFrom none 0 false done (lexemesOf after) = .error .missingBody := by
    have hplain := locateFrom_plain none 0 false done [] hafter
    rw [List.append_nil] at hplain
    rw [hplain]
    rfl
  by_cases hname : nameOf root = "Envelope"
  · cases root with
    | between _ _ => cases h
    | empty tag source =>
        have hpayload : payload (.empty tag source) = .error .missingBody := by
          rw [payload, if_neg (not_not_intro hname)]
          rfl
        rw [hpayload, Passage.lexemes, List.singleton_append,
          locateFrom_empty none done _ (.inr hname) (.inl Nat.zero_ne_one), hend]
        exact .error _
    | element tag opening content closing =>
        simp only [Passage.lexemes, List.cons_append, List.append_assoc, List.nil_append]
        rw [locateFrom_start none done _ (.inr hname), payload, if_neg (not_not_intro hname)]
        show Finds _ _ (locateFrom none 1 false (done ++ [⟨.start tag, opening⟩]) _)
        cases hbody : body? (.element tag opening content closing) with
        | none =>
            have hothers : ∀ p ∈ elements content, nameOf p ≠ "Body" := by
              simpa [body?, Passage.content] using hbody
            rw [locateFrom_passages none 0 _ _ content (.inr hothers), locateFrom_stop, hend]
            exact .error _
        | some body =>
            obtain ⟨hbodyName, first, others, hcontent, hfirst⟩ :=
              List.find?_eq_some_iff_append.mp hbody
            obtain ⟨before, behind, rfl, hbefore, helement, -⟩ := elements_split hcontent
            have hothers : ∀ p ∈ elements before, nameOf p ≠ "Body" := by
              intro p hp
              rw [hbefore] at hp
              simpa using hfirst p hp
            rw [lexemesOf_append, lexemesOf, List.append_assoc, List.append_assoc,
              locateFrom_passages none 0 _ _ before (.inr hothers)]
            have hfinds := locateFrom_body (done ++ [⟨.start tag, opening⟩] ++ lexemesOf before)
              (lexemesOf behind ++ (⟨.stop (tagName tag), closing⟩ :: lexemesOf after)) helement
              (by simpa using hbodyName)
            simpa using hfinds
  · have hpayload : payload root = .error (.unexpectedRoot (nameOf root)) := if_pos hname
    rw [hpayload]
    cases root with
    | between _ _ => cases h
    | empty tag source | element tag _ _ _ =>
        have hlocate : (elementName tag != "Envelope") = true := by simpa [nameOf] using hname
        simp only [Passage.lexemes, List.cons_append, locateFrom, locate, hlocate]
        exact .error _

/-- **The search finds the payload**, and says where it stands. -/
theorem locate_payload {ps : List (Passage Char)} {root : Passage Char}
    (hroot : elements ps = [root]) :
    Finds (lexemesOf ps) (payload root) (locate none 0 false 0 0 (lexemesOf ps)) := by
  obtain ⟨before, after, rfl, hbefore, helement, hafter⟩ := elements_split (l := []) hroot
  rw [lexemesOf_append, lexemesOf]
  show Finds _ _ (locateFrom none 0 false [] _)
  rw [locateFrom_plain none 0 false [] _ hbefore]
  exact locateFrom_envelope _ helement hafter

/-! ## The cut -/

theorem isBlank_of_isSpace {c : Char} (h : isSpace c) : Text.isBlank c := by
  simp only [isSpace, is, Bool.or_eq_true, beq_iff_eq, or_assoc] at h
  rcases h with rfl | rfl | rfl | rfl <;> decide

/-- Padding is blank as it is written. -/
theorem blank_of_padding {ls : List (Lexeme Char)} (h : Spelled ls)
    (hpadding : ∀ l ∈ ls, isPadding l.token) : ∀ c ∈ sources ls, Text.isBlank c := by
  intro c hc
  obtain ⟨l, hl, hcl⟩ := List.mem_flatMap.mp hc
  have hblank := hpadding l hl
  cases h.each l hl with
  | stretch htoken _ _ =>
      rw [htoken] at hblank
      exact isBlank_of_isSpace (List.all_eq_true.mp hblank c hcl)
  | markup htext _ _ =>
      cases htoken : l.token with
      | text _ => simp [htoken, Token.isText] at htext
      | _ => simp [htoken, isPadding] at hblank

/-- An element begins and ends with a bracket. -/
theorem brackets_of_spelled {p : Passage Char} (h : p.isElement) (hspelled : Spelled p.lexemes) :
    ∃ inner, p.text = ['<'] ++ inner ++ ['>'] := by
  have hmarkup {l : Lexeme Char} (hl : l ∈ p.lexemes) (htext : l.token.isText = false) :
      ∃ inner, l.source = ['<'] ++ inner ++ ['>'] := by
    cases hspelled.each l hl with
    | stretch htoken _ _ =>
        rw [htoken] at htext
        cases htext
    | markup _ hbrackets _ => exact hbrackets
  cases p with
  | between _ _ => cases h
  | empty tag source =>
      obtain ⟨inner, hinner⟩ := hmarkup (l := ⟨.empty tag, source⟩) (by simp [Passage.lexemes]) rfl
      refine ⟨inner, ?_⟩
      simpa [Passage.text, Passage.lexemes] using hinner
  | element tag opening content closing =>
      obtain ⟨first, hfirst⟩ :=
        hmarkup (l := ⟨.start tag, opening⟩) (by simp [Passage.lexemes]) rfl
      obtain ⟨last, hlast⟩ :=
        hmarkup (l := ⟨.stop (tagName tag), closing⟩) (by simp [Passage.lexemes]) rfl
      have hfirst : opening = ['<'] ++ first ++ ['>'] := hfirst
      have hlast : closing = ['<'] ++ last ++ ['>'] := hlast
      refine ⟨first ++ ['>'] ++ sources (lexemesOf content) ++ ['<'] ++ last, ?_⟩
      simp [Passage.text, Passage.lexemes, hfirst, hlast]

/-- The cut at the places that the search comes to, without the padding, is the element. -/
theorem slice?_ended {done : List (Lexeme Char)} {child : Passage Char} (hdone : Spelled done)
    (hchild : Spelled child.lexemes) (h : child.isElement) (rest : List Char) :
    (Text.slice? (sources done ++ (child.text ++ rest)) (ended done)
      (Text.octets (sources done) + Text.octets child.text)).map (Text.stripWhile Text.isBlank) =
        some child.text := by
  obtain ⟨kept, padding, rfl, hkept, hpadding⟩ := exists_ended done
  obtain ⟨inner, hinner⟩ := brackets_of_spelled h hchild
  have hcut := Text.slice?_append (sources kept) (sources padding ++ child.text) rest
  have hstrip := Text.stripWhile_append (blank_of_padding hdone.of_append.2 hpadding)
    (show Text.isBlank '<' = false by decide) (show Text.isBlank '>' = false by decide) inner
  rw [← hinner] at hstrip
  rw [hkept, sources_append, Text.octets_append, Nat.add_assoc, ← Text.octets_append,
    List.append_assoc, ← List.append_assoc (sources padding), hcut, Option.map_some, hstrip]

/-- What the search has found can be read again, and so can what stands before it. -/
theorem Finds.exists_spelled {row : List (Lexeme Char)} (h : Spelled row.dropLast)
    {child : Passage Char} {found} (hfinds : Finds row (.ok (some child)) found) :
    child.isElement ∧ ∃ done rest, row = done ++ (child.lexemes ++ rest) ∧ Spelled done ∧
      Spelled child.lexemes ∧
      found = .ok (some (nameOf child, ended done,
        Text.octets (sources done) + Text.octets child.text)) := by
  cases hfinds with
  | @child _ done rest helement hrow hrest =>
      refine ⟨helement, done, rest, hrow, ?_⟩
      rw [hrow, List.dropLast_append_of_ne_nil (by simp [hrest]),
        List.dropLast_append_of_ne_nil hrest] at h
      obtain ⟨hdone, hbehind⟩ := h.of_append
      exact ⟨hdone, hbehind.of_append.1, rfl⟩

theorem dropMark_of_head {cs : List Char} (h : cs.head? ≠ some '\uFEFF') : dropMark cs = cs := by
  cases cs with
  | nil => rfl
  | cons c cs =>
      have hc : c ≠ '\uFEFF' := fun hc => h (congrArg some hc)
      exact if_neg (by simp [TextUnit.byteOrderMark, List.isPrefixOf, hc.symm])

section Payload

variable {cs : List Char} {ps : List (Passage Char)} {root : Passage Char}
  (hmark : cs.head? ≠ some '\uFEFF') (hread : ReadAs cs ps) (hroot : elements ps = [root])
include hmark hread hroot

/-- The payload stands in the text as it is written, and it can be read by itself. -/
theorem exists_payload {child : Passage Char} (hchild : payload root = .ok (some child)) :
    ∃ before after, cs = before ++ (child.text ++ after) ∧ child.isElement ∧
      Spelled child.lexemes := by
  have hread : scan cs = ⟨lexemesOf ps, none⟩ := hread
  have hfinds := locate_payload hroot
  obtain ⟨rest, openTags, hcs, hspelled, -⟩ := scan_row cs
  rw [dropMark_of_head hmark, hread] at hcs
  rw [hread] at hspelled
  rw [hchild] at hfinds
  obtain ⟨helement, done, behind, hrow, -, hspelled, -⟩ := hfinds.exists_spelled hspelled
  refine ⟨sources done, sources behind ++ rest, ?_, helement, hspelled⟩
  rw [hcs, hrow]
  simp [Passage.text]

theorem content_eq_payload :
    content cs = (payload root).map (·.map fun child => ⟨nameOf child, child.text⟩) := by
  have hread : scan cs = ⟨lexemesOf ps, none⟩ := hread
  have hfinds := locate_payload hroot
  obtain ⟨rest, openTags, hcs, hspelled, -⟩ := scan_row cs
  rw [dropMark_of_head hmark, hread] at hcs
  rw [hread] at hspelled
  simp only [content, hread]
  generalize locate none 0 false 0 0 (lexemesOf ps) = found at hfinds ⊢
  generalize payload root = carried at hfinds ⊢
  match carried with
  | .error e =>
      cases hfinds
      rfl
  | .ok none =>
      cases hfinds
      rfl
  | .ok (some child) =>
      obtain ⟨helement, done, behind, hrow, hdone, hchild, rfl⟩ := hfinds.exists_spelled hspelled
      have hcut := slice?_ended hdone hchild helement (sources behind ++ rest)
      obtain ⟨xml, hxml, hstrip⟩ := Option.map_eq_some_iff.mp hcut
      rw [hrow, sources_append, sources_append, List.append_assoc, List.append_assoc] at hcs
      rw [show sources child.lexemes = child.text from rfl] at hcs
      rw [← hcs] at hxml
      simp only [bind, Except.bind, hxml, hstrip]
      rfl

end Payload

/-- **The content of an envelope is the payload of its tree**, as it is written: with the name that
its tag has behind the prefix, and from the bracket that opens its first tag up to the one that
closes its last.  What is wrong with the tree is reported, and nothing else is. -/
theorem content_finds_payload {cs : List Char} {ps : List (Passage Char)} {root : Passage Char}
    (hmark : cs.head? ≠ some '\uFEFF') (hread : ReadAs cs ps) (hroot : elements ps = [root]) :
    content cs = (payload root).map (·.map fun child => ⟨nameOf child, child.text⟩) ∧
      ∀ child, payload root = .ok (some child) → ∃ before inner after,
        cs = before ++ (child.text ++ after) ∧ child.text = ['<'] ++ inner ++ ['>'] := by
  refine ⟨content_eq_payload hmark hread hroot, ?_⟩
  intro child hchild
  obtain ⟨before, after, hcs, helement, hspelled⟩ := exists_payload hmark hread hroot hchild
  obtain ⟨inner, hinner⟩ := brackets_of_spelled helement hspelled
  exact ⟨before, inner, after, hcs, hinner⟩

/-- An envelope that holds more than one thing called a body, and an element within one of its own
name. -/
def nestedEnvelope : Passage Char :=
  .tagged "e:Envelope".toList
    [.tagged "Header".toList [.tagged "Body".toList [.empty "x".toList "<x/>".toList]],
      .between ⟨.comment "<Body>".toList, "<!--<Body>-->".toList⟩ rfl,
      .tagged "e:Body lang='>'".toList
        [.between ⟨.text "\n ".toList, "\n ".toList⟩ rfl,
          .tagged "m:A".toList [.tagged "m:A".toList []],
          .tagged "Fault".toList []]]

theorem content_finds_payload_nested :
    nestedEnvelope.text.head? ≠ some '\uFEFF' ∧ ReadAs nestedEnvelope.text [nestedEnvelope] ∧
      elements [nestedEnvelope] = [nestedEnvelope] ∧
      content nestedEnvelope.text = .ok (some ⟨"A", "<m:A><m:A></m:A></m:A>".toList⟩) := by
  have hmark : nestedEnvelope.text.head? ≠ some '\uFEFF' := by decide +kernel
  have hread : ReadAs nestedEnvelope.text [nestedEnvelope] := by decide +kernel
  have hroot : elements [nestedEnvelope] = [nestedEnvelope] := rfl
  exact ⟨hmark, hread, hroot, (content_finds_payload hmark hread hroot).1.trans (by rfl)⟩

end Soap

end SoapBindings
