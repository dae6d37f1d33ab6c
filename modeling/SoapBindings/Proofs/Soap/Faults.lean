/-
# `SoapBindings.Proofs.Soap.Faults` — faults reach who asked

A fault in an envelope counts before the status of the reply.  It reaches who asked exactly if the
content of each of its children can be read as a text: with an ampersand in a marked section, say,
the envelope counts as malformed instead, and what is reported then is the status, if it is one of
failure (`fault_reported`).
-/
import SoapBindings.Proofs.Soap.Content
import SoapBindings.Soap.Client

namespace SoapBindings.Soap

open Markup Message

/-! ## The texts of an element's children -/

/-- The name of an element with what it says, from its content as it is written. -/
def textOf (p : Passage Char) : Except MarkupError (String × String) := do
  let text ← innerText (sources (lexemesOf p.content))
  return (nameOf p, text)

section Children

variable (fault : Option MarkupError)

mutual

/-- What stands in a child adds to its content, elements of its own name included. -/
theorem textsFrom_lexemes (tag content : List Char) (depth : Nat) (rest : List (Lexeme Char)) :
    ∀ p : Passage Char, textsFrom fault (.inChild tag depth content) (p.lexemes ++ rest) =
      textsFrom fault (.inChild tag depth (content ++ p.text)) rest
  | .between ⟨token, source⟩ plain => by
      simp only [Passage.text, Passage.lexemes, sources_cons, sources_nil, List.append_nil,
        List.singleton_append]
      cases token <;> first | rfl | cases plain
  | .empty inner source => by
      simp [Passage.text, Passage.lexemes, textsFrom]
  | .element inner opening ps closing => by
      simp only [Passage.text, Passage.lexemes, List.cons_append, List.append_assoc, sources_cons,
        sources_append, sources_nil, List.nil_append, List.append_nil]
      by_cases hname : tagName inner = tagName tag
      · simp only [textsFrom, hname, if_true, textsFrom_lexemesOf, List.append_assoc]
      · simp only [textsFrom, hname, if_false, textsFrom_lexemesOf, List.append_assoc]

theorem textsFrom_lexemesOf (tag content : List Char) (depth : Nat) (rest : List (Lexeme Char)) :
    ∀ ps : List (Passage Char),
      textsFrom fault (.inChild tag depth content) (lexemesOf ps ++ rest) =
      textsFrom fault (.inChild tag depth (content ++ sources (lexemesOf ps))) rest
  | [] => by simp [lexemesOf]
  | p :: ps => by
      simp only [lexemesOf, List.append_assoc, sources_append]
      rw [textsFrom_lexemes tag content depth _ p, textsFrom_lexemesOf tag _ depth rest ps,
        List.append_assoc]
      rfl

end

/-- The children of the root are read one by one, up to its end tag. -/
theorem textsFrom_children (name closing : List Char) (ps : List (Passage Char)) :
    textsFrom none .inRoot (lexemesOf ps ++ [⟨.stop name, closing⟩]) =
      (elements ps).mapM textOf := by
  induction ps with
  | nil => rfl
  | cons p ps ih =>
      cases p with
      | between l plain =>
          obtain ⟨token, source⟩ := l
          have hskipped : textsFrom none .inRoot
              (lexemesOf (.between ⟨token, source⟩ plain :: ps) ++
              [⟨.stop name, closing⟩]) =
                textsFrom none .inRoot (lexemesOf ps ++ [⟨.stop name, closing⟩]) := by
            cases token <;> first | rfl | cases plain
          rw [hskipped, ih]
          rfl
      | empty tag source =>
          show _ = (.empty tag source :: elements ps).mapM textOf
          rw [List.mapM_cons, ← ih]
          simp [lexemesOf, Passage.lexemes, textsFrom, withText, textOf, nameOf, Passage.content]
      | element tag opening content ending =>
          show _ = (.element tag opening content ending :: elements ps).mapM textOf
          rw [List.mapM_cons, ← ih]
          simp [lexemesOf, Passage.lexemes, textsFrom_lexemesOf, textsFrom, withText, textOf,
            nameOf,
            Passage.content]

end Children

/-- The texts of an element's children, read from the element alone. -/
theorem childTexts_eq {root : Passage Char} (h : root.isElement) (hspelled : Spelled root.lexemes) :
    childTexts root.text = (elements root.content).mapM textOf := by
  obtain ⟨inner, hinner⟩ := brackets_of_spelled h hspelled
  have hmark : dropMark root.text = root.text := by
    refine dropMark_of_head ?_
    rw [hinner]
    show some '<' ≠ some '\uFEFF'
    decide
  have hscan : scan root.text = ⟨root.lexemes, none⟩ :=
    hspelled.scan (nestAll_lexemes [] root) hmark
  rw [childTexts, hscan]
  cases root with
  | between _ _ => cases h
  | empty tag source => rfl
  | element tag opening content closing =>
      exact textsFrom_children (tagName tag) closing content

/-! ## Faults -/

/-- What the element of a fault says, if each of its children can be read. -/
def faultOf (p : Passage Char) : Except MarkupError Fault := do
  return (← (elements p.content).mapM textOf).foldl (fun f (name, text) => f.note name text) {}

/-- The content of an element is a text in which every reference stands for a character. -/
def Readable (p : Passage Char) : Prop :=
  ∃ text, unescape? (Text.stripWhile Text.isBlank (sources (lexemesOf p.content))) = some text

theorem textOf_cases (p : Passage Char) :
    (Readable p ∧ ∃ text, textOf p = .ok text) ∨
      (¬ Readable p ∧ textOf p = .error .badReference) := by
  simp only [Readable, textOf, innerText]
  cases unescape? (Text.stripWhile Text.isBlank (sources (lexemesOf p.content))) with
  | none => exact .inr ⟨by simp, rfl⟩
  | some text => exact .inl ⟨⟨text, rfl⟩, _, rfl⟩

/-- Texts are read until one cannot be. -/
theorem mapM_textOf_cases (ps : List (Passage Char)) :
    ((∀ p ∈ ps, Readable p) ∧ ∃ texts, ps.mapM textOf = .ok texts) ∨
      ((¬ ∀ p ∈ ps, Readable p) ∧ ps.mapM textOf = .error .badReference) := by
  induction ps with
  | nil => exact .inl ⟨List.forall_mem_nil _, [], rfl⟩
  | cons p ps ih =>
      rw [List.mapM_cons, List.forall_mem_cons]
      rcases textOf_cases p with ⟨hp, text, htext⟩ | ⟨hp, herror⟩
      · rcases ih with ⟨hps, texts, htexts⟩ | ⟨hps, herror⟩
        · refine .inl ⟨⟨hp, hps⟩, text :: texts, ?_⟩
          rw [htext, htexts]
          rfl
        · refine .inr ⟨fun h => hps h.2, ?_⟩
          rw [htext, herror]
          rfl
      · refine .inr ⟨fun h => hp h.1, ?_⟩
        rw [herror]
        rfl

theorem faultOf_cases (p : Passage Char) :
    ((∀ child ∈ elements p.content, Readable child) ∧ ∃ f, faultOf p = .ok f) ∨
      ((¬ ∀ child ∈ elements p.content, Readable child) ∧ faultOf p = .error .badReference) := by
  rw [faultOf]
  rcases mapM_textOf_cases (elements p.content) with ⟨hreadable, texts, htexts⟩ | ⟨hbad, herror⟩
  · rw [htexts]
    exact .inl ⟨hreadable, _, rfl⟩
  · rw [herror]
    exact .inr ⟨hbad, rfl⟩

/-- A text with something in it besides white space. -/
theorem all_isBlank_of_element {before after : List Char} {p : Passage Char} (h : p.isElement)
    (hspelled : Spelled p.lexemes) : (before ++ (p.text ++ after)).all Text.isBlank = false := by
  obtain ⟨inner, hinner⟩ := brackets_of_spelled h hspelled
  have hbracket : Text.isBlank '<' = false := by decide
  simp [hinner, hbracket]

section Report

variable {α : Type} (read : List Char → Except Misreading α) {cs : List Char}
  {ps : List (Passage Char)} {root fault : Passage Char}

theorem response_of_fault (hmark : cs.head? ≠ some '\uFEFF') (hread : ReadAs cs ps)
    (hroot : elements ps = [root]) (hfault : payload root = .ok (some fault))
    (hname : nameOf fault = "Fault") : response read cs = .error (match faultOf fault with
      | .ok f => .fault f
      | .error e => .malformed e) := by
  obtain ⟨before, after, hcs, helement, hspelled⟩ := exists_payload hmark hread hroot hfault
  have hblank : cs.all Text.isBlank = false := by
    rw [hcs]
    exact all_isBlank_of_element helement hspelled
  have hcontent := content_eq_payload hmark hread hroot
  rw [hfault] at hcontent
  have hreadFault : Fault.read fault.text = faultOf fault := by
    rw [Fault.read, childTexts_eq helement hspelled]
    rfl
  simp only [response, hblank, hcontent, Bool.false_eq_true, if_false, Except.map, Option.map_some,
    bind, Except.bind, hname, beq_self_eq_true, if_true, hreadFault]
  cases faultOf fault <;> rfl

/-- **A fault reaches who asked exactly if each of its children can be read**, and then it does so
whatever the status is.  If one cannot, the envelope counts as malformed, and a status of failure
takes the place of that. -/
theorem fault_reported (hmark : cs.head? ≠ some '\uFEFF') (hread : ReadAs cs ps)
    (hroot : elements ps = [root]) (hfault : payload root = .ok (some fault))
    (hname : nameOf fault = "Fault") :
    ((∀ child ∈ elements fault.content, Readable child) ∧ ∃ f, faultOf fault = .ok f ∧
      response read cs = .error (.fault f) ∧
      ∀ (exchange : Post → Option Reply) (p : Post) (status : Nat),
        exchange p = some ⟨status, cs⟩ → call exchange p read = .error (.fault f)) ∨
    ((∃ child ∈ elements fault.content, ¬ Readable child) ∧
      response read cs = .error (.malformed .badReference) ∧
      ∀ (exchange : Post → Option Reply) (p : Post) (status : Nat), exchange p = some ⟨status, cs⟩ →
        call exchange p read =
          .error (if 200 ≤ status ∧ status < 300 then .malformed .badReference
            else .status status)) := by
  have hresponse := response_of_fault read hmark hread hroot hfault hname
  rcases faultOf_cases fault with ⟨hreadable, f, hf⟩ | ⟨hbad, herror⟩
  · rw [hf] at hresponse
    refine .inl ⟨hreadable, f, hf, hresponse, ?_⟩
    intro exchange p status hreply
    simp only [call, hreply, Reply.value, hresponse]
  · rw [herror] at hresponse
    refine .inr ⟨by simpa using hbad, hresponse, ?_⟩
    intro exchange p status hreply
    simp only [call, hreply, Reply.value, hresponse, Reply.isSuccess, Bool.and_eq_true,
      decide_eq_true_eq]

end Report

/-- An envelope that carries a fault. -/
def faultEnvelope (children : List (Passage Char)) : Passage Char :=
  .tagged "e:Envelope xmlns:e='http://schemas.xmlsoap.org/soap/envelope/'".toList
    [.tagged "e:Body".toList [.tagged "e:Fault".toList children]]

/-- An element around one lexeme. -/
def leaf (name : String) (token : Token Char) (plain : token.isTag = false) : Passage Char :=
  .tagged name.toList [.between (.ofToken token) plain]

def plainFault : List (Passage Char) :=
  [leaf "faultcode" (.text "c".toList) rfl, leaf "faultstring" (.text "a &amp; b".toList) rfl,
    .tagged "detail".toList [leaf "x" (.comment " c ".toList) rfl]]

theorem fault_reported_plain :
    ReadAs (faultEnvelope plainFault).text [faultEnvelope plainFault] ∧
    payload (faultEnvelope plainFault) = .ok (some (.tagged "e:Fault".toList plainFault)) ∧
    nameOf (.tagged "e:Fault".toList plainFault) = "Fault" ∧
    call (fun _ => some ⟨500, (faultEnvelope plainFault).text⟩) (post "" "" none none)
      (fun _ => .ok ()) = .error (.fault ⟨"c", "a & b", none, some "<x><!-- c --></x>"⟩) := by
  have hmark : (faultEnvelope plainFault).text.head? ≠ some '\uFEFF' := by decide +kernel
  have hread : ReadAs (faultEnvelope plainFault).text [faultEnvelope plainFault] := by
    decide +kernel
  have hmeaning : faultOf (.tagged "e:Fault".toList plainFault) =
      .ok ⟨"c", "a & b", none, some "<x><!-- c --></x>"⟩ := by rfl
  have hfault : payload (faultEnvelope plainFault) =
      .ok (some (.tagged "e:Fault".toList plainFault)) := by rfl
  have hname : nameOf (.tagged "e:Fault".toList plainFault) = "Fault" := by rfl
  refine ⟨hread, hfault, hname, ?_⟩
  rcases fault_reported (fun _ => .ok ()) hmark hread rfl hfault hname with
    ⟨-, f, hf, -, hcall⟩ | ⟨⟨child, hmem, hbad⟩, -⟩
  · rw [hmeaning] at hf
    obtain rfl := Except.ok.inj hf
    exact hcall _ _ 500 rfl
  · rcases faultOf_cases (.tagged "e:Fault".toList plainFault) with ⟨hreadable, -⟩ | ⟨-, herror⟩
    · exact absurd (hreadable child hmem) hbad
    · rw [hmeaning] at herror
      cases herror

/-- A note with an ampersand that begins no reference, and need not in a marked section. -/
def markedFault : List (Passage Char) :=
  [leaf "faultcode" (.text "c".toList) rfl, leaf "faultstring" (.text "r".toList) rfl,
    leaf "note" (.cdata "a & b".toList) rfl]

/-- A fault of which no one hears. -/
theorem fault_lost :
    ReadAs (faultEnvelope markedFault).text [faultEnvelope markedFault] ∧
    payload (faultEnvelope markedFault) = .ok (some (.tagged "e:Fault".toList markedFault)) ∧
    nameOf (.tagged "e:Fault".toList markedFault) = "Fault" ∧
    response (fun _ => .ok ()) (faultEnvelope markedFault).text =
      .error (.malformed .badReference) ∧
    call (fun _ => some ⟨500, (faultEnvelope markedFault).text⟩) (post "" "" none none)
      (fun _ => .ok ()) = .error (.status 500) :=
  ⟨by decide +kernel, by rfl, by rfl, by decide +kernel, by decide +kernel⟩

end SoapBindings.Soap
