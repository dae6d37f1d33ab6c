/-
# `SoapBindings.Proofs.Markup.Passage` — documents as trees

The lexemes of a document are a row; its elements are a tree.  A `Passage` is an element with
everything in it, or a lexeme that stands between tags, and `lexemesOf` writes passages out as the
row.  A row comes from passages exactly if its tags match (`exists_passages_iff`), where `nest` says
what one token does to the elements that are open.
-/
import SoapBindings.Markup.Scan

namespace SoapBindings.Markup

/-- The token begins or ends an element. -/
def Token.isTag {α : Type} : Token α → Bool
  | .start _ | .empty _ | .stop _ => true
  | _ => false

/-- A part of a document that leaves no element open. -/
inductive Passage (α : Type) where
  /-- A lexeme that stands between tags. -/
  | between (lexeme : Lexeme α) (plain : lexeme.token.isTag = false)
  | empty (tag source : List α)
  /-- An element, with the sources of its tags. -/
  | element (tag opening : List α) (content : List (Passage α)) (closing : List α)

/-- A token as it has to be written. -/
def Lexeme.ofToken {α : Type} [TextUnit α] (token : Token α) : Lexeme α := ⟨token, token.render⟩

/-- What lexemes were read from. -/
def sources {α : Type} (ls : List (Lexeme α)) : List α := ls.flatMap (·.source)

section

variable {α : Type}

@[simp] theorem sources_nil : sources ([] : List (Lexeme α)) = [] := rfl

@[simp] theorem sources_cons (l : Lexeme α) (ls : List (Lexeme α)) :
    sources (l :: ls) = l.source ++ sources ls := List.flatMap_cons ..

@[simp] theorem sources_append (ls ms : List (Lexeme α)) :
    sources (ls ++ ms) = sources ls ++ sources ms := List.flatMap_append ..

end

variable {α : Type} [DecidableEq α] [TextUnit α]

mutual

/-- The lexemes of a passage, in order. -/
def Passage.lexemes : Passage α → List (Lexeme α)
  | .between lexeme _ => [lexeme]
  | .empty tag source => [⟨.empty tag, source⟩]
  | .element tag opening content closing =>
    ⟨.start tag, opening⟩ :: (lexemesOf content ++ [⟨.stop (tagName tag), closing⟩])

def lexemesOf : List (Passage α) → List (Lexeme α)
  | [] => []
  | p :: ps => p.lexemes ++ lexemesOf ps

end

theorem lexemesOf_append (ps qs : List (Passage α)) :
    lexemesOf (ps ++ qs) = lexemesOf ps ++ lexemesOf qs := by
  induction ps with
  | nil => rfl
  | cons p ps ih => simp only [List.cons_append, lexemesOf, ih, List.append_assoc]

namespace Passage

/-- The passage as it is written. -/
def text (p : Passage α) : List α := sources p.lexemes

def isElement : Passage α → Bool
  | .between _ _ => false
  | .empty _ _ | .element _ _ _ _ => true

/-- An element whose tags are written as they have to be. -/
def tagged (tag : List α) (content : List (Passage α)) : Passage α :=
  .element tag (Token.start tag).render content (Token.stop (tagName tag)).render

theorem lexemes_tagged (tag : List α) (content : List (Passage α)) :
    (tagged tag content).lexemes =
      .ofToken (.start tag) :: (lexemesOf content ++ [.ofToken (.stop (tagName tag))]) := by
  rw [tagged, lexemes]
  rfl

/-- What stands between the tags. -/
def content : Passage α → List (Passage α)
  | .element _ _ content _ => content
  | _ => []

end Passage

/-- The elements among some passages. -/
def elements (ps : List (Passage α)) : List (Passage α) := ps.filter (·.isElement)

/-- The text is read as these passages, without a fault. -/
def ReadAs (cs : List α) (ps : List (Passage α)) : Prop := scan cs = ⟨lexemesOf ps, none⟩

theorem readAs_iff {cs : List α} {ps : List (Passage α)} :
    ReadAs cs ps ↔ (scan cs).lexemes = lexemesOf ps ∧ (scan cs).fault = none := by
  rw [ReadAs]
  cases scan cs
  exact Scan.mk.injEq _ _ _ _ ▸ Iff.rfl

instance (cs : List α) (ps : List (Passage α)) : Decidable (ReadAs cs ps) :=
  decidable_of_iff' _ readAs_iff

/-! ## Open elements -/

/-- The names of the elements that are open behind a token, innermost first, unless it is an end tag
that does not match. -/
def nest (openTags : List (List α)) : Token α → Option (List (List α))
  | .start tag => some (tagName tag :: openTags)
  | .stop name =>
    match openTags with
    | tag :: outer => if name = tag then some outer else none
    | [] => none
  | _ => some openTags

/-- The elements that are open behind some tokens. -/
def nestAll (openTags : List (List α)) (tokens : List (Token α)) : Option (List (List α)) :=
  tokens.foldlM nest openTags

@[simp] theorem nestAll_nil (openTags : List (List α)) :
    nestAll openTags [] = some openTags := rfl

@[simp] theorem nestAll_cons (openTags : List (List α)) (t : Token α) (ts : List (Token α)) :
    nestAll openTags (t :: ts) = (nest openTags t).bind (nestAll · ts) := List.foldlM_cons ..

@[simp] theorem nestAll_append (openTags : List (List α)) (ts us : List (Token α)) :
    nestAll openTags (ts ++ us) = (nestAll openTags ts).bind (nestAll · us) :=
  List.foldlM_append ..

theorem nest_of_plain {t : Token α} (h : t.isTag = false) (openTags : List (List α)) :
    nest openTags t = some openTags := by
  cases t <;> first | rfl | cases h

@[simp] theorem nest_stop (tag : List α) (outer : List (List α)) :
    nest (tag :: outer) (.stop tag) = some outer := if_pos rfl

/-- An end tag that matches closes the innermost element. -/
theorem nest_stop_eq_some {openTags after : List (List α)} {name : List α}
    (h : nest openTags (.stop name) = some after) : openTags = name :: after := by
  cases openTags with
  | nil => cases h
  | cons tag outer =>
      simp only [nest] at h
      split at h
      case isTrue hname => rw [hname, Option.some.inj h]
      case isFalse => cases h

/-- Elements that are open around everything stay open. -/
theorem nestAll_outer {openTags after : List (List α)} {ts : List (Token α)}
    (h : nestAll openTags ts = some after) (outer : List (List α)) :
    nestAll (openTags ++ outer) ts = some (after ++ outer) := by
  induction ts generalizing openTags with
  | nil => rw [nestAll_nil, Option.some.inj h]
  | cons t ts ih =>
      rw [nestAll_cons] at h ⊢
      obtain ⟨next, hnext, hrest⟩ := Option.bind_eq_some_iff.mp h
      have hstep : nest (openTags ++ outer) t = some (next ++ outer) := by
        cases t with
        | stop name =>
            rw [nest_stop_eq_some hnext, List.cons_append, nest_stop]
        | _ =>
            obtain rfl := Option.some.inj hnext
            rfl
      rw [hstep, Option.bind_some, ih hrest]

mutual

/-- Behind a passage the same elements are open as before it. -/
theorem nestAll_lexemes (openTags : List (List α)) :
    ∀ p : Passage α, nestAll openTags (p.lexemes.map (·.token)) = some openTags
  | .between lexeme plain => by simp [Passage.lexemes, nest_of_plain plain]
  | .empty tag source => by simp [Passage.lexemes, nest]
  | .element tag opening content closing => by
      have hcontent := nestAll_lexemesOf (tagName tag :: openTags) content
      simp only [Passage.lexemes, List.map_cons, List.map_append, List.map_nil, nestAll_cons,
        nestAll_append, nestAll_nil]
      simp only [nest, Option.bind_some, hcontent, if_true]

theorem nestAll_lexemesOf (openTags : List (List α)) :
    ∀ ps : List (Passage α), nestAll openTags ((lexemesOf ps).map (·.token)) = some openTags
  | [] => rfl
  | p :: ps => by
      simp only [lexemesOf, List.map_append, nestAll_append, nestAll_lexemes openTags p,
        Option.bind_some, nestAll_lexemesOf openTags ps]

end

/-- The row closes the elements that are open, innermost first, and nothing else is left open. -/
inductive Closes : List (List α) → List (Lexeme α) → Prop
  | all (ps : List (Passage α)) : Closes [] (lexemesOf ps)
  | innermost {tag outer rest} (ps : List (Passage α)) (closing : List α)
      (hrest : Closes outer rest) :
      Closes (tag :: outer) (lexemesOf ps ++ ⟨.stop tag, closing⟩ :: rest)

theorem Closes.cons {openTags : List (List α)} {ls : List (Lexeme α)} (p : Passage α)
    (h : Closes openTags ls) : Closes openTags (p.lexemes ++ ls) := by
  cases h with
  | all ps => exact .all (p :: ps)
  | innermost ps closing hrest =>
      rw [← List.append_assoc]
      exact .innermost (p :: ps) closing hrest

/-- An element that is open is closed by the first end tag that closes none of its own children. -/
theorem closes_of_nestAll {openTags : List (List α)} {ls : List (Lexeme α)}
    (h : nestAll openTags (ls.map (·.token)) = some []) : Closes openTags ls := by
  induction ls generalizing openTags with
  | nil =>
      obtain rfl : openTags = [] := Option.some.inj h
      exact .all []
  | cons l ls ih =>
      obtain ⟨token, source⟩ := l
      simp only [List.map_cons, nestAll_cons] at h
      match token with
      | .start tag =>
          -- What is in the element stands before its end tag, and the rest goes on behind it.
          cases ih h with
          | innermost ps closing hrest =>
              have hrow := hrest.cons (.element tag source ps closing)
              rw [Passage.lexemes, List.cons_append, List.append_assoc] at hrow
              exact hrow
      | .stop name =>
          obtain ⟨after, hname, hafter⟩ := Option.bind_eq_some_iff.mp h
          rw [nest_stop_eq_some hname]
          exact .innermost [] source (ih hafter)
      | .empty tag => exact (ih h).cons (.empty tag source)
      | .text _ | .comment _ | .cdata _ | .instruction _ | .doctype _ =>
          exact (ih h).cons (.between ⟨_, source⟩ rfl)

/-- **A row of lexemes is a row of passages exactly if its tags match** and leave nothing open. -/
theorem exists_passages_iff {ls : List (Lexeme α)} :
    (∃ ps, ls = lexemesOf ps) ↔ nestAll [] (ls.map (·.token)) = some [] := by
  constructor
  · rintro ⟨ps, rfl⟩
    exact nestAll_lexemesOf [] ps
  · intro h
    cases closes_of_nestAll h with
    | all ps => exact ⟨ps, rfl⟩

end SoapBindings.Markup
