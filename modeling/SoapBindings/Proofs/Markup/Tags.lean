/-
# `SoapBindings.Proofs.Markup.Tags` — what the scanner takes for a tag

Inside a tag the scanner looks for quotes, and outside these for the bracket that ends it; what else
is in the tag is nothing to it.  So a text is read as a tag, wherever it stands, if its quotes are
closed and no bracket is outside them (`Token.isSpelled_of_isWritten`), and there are no other tags
(`isWritten_of_scan`).
-/
import Mathlib.Data.List.Basic
import SoapBindings.Proofs.Markup.Readable
import SoapBindings.Proofs.Markup.Scanning

namespace SoapBindings.Markup

variable {α : Type} [DecidableEq α] [TextUnit α]

/-! ## Tags as they are written -/

def isQuote (x : α) : Bool := is '\'' x || is '"' x

/-- The quote that is open behind some units of a tag, unless a bracket ends the tag there. -/
def quoteBehind : Option α → List α → Option (Option α)
  | quote, [] => some quote
  | none, x :: xs =>
    if is '>' x then none else quoteBehind (if isQuote x then some x else none) xs
  | some quote, x :: xs => quoteBehind (if x = quote then none else some quote) xs

/-- The content of a tag, and of no other kind of markup: its quotes are closed, and brackets stand
inside them only. -/
def isTagContent (content : List α) : Bool :=
  content.head?.all (fun x => !(is '!' x || is '/' x || is '?' x)) &&
    quoteBehind none content = some none

/-- The token is a tag that could be written. -/
def Token.isWritten : Token α → Bool
  | .start content => isTagContent content && content.getLast?.all (!is '/' ·)
  | .empty content => isTagContent content && !content.isEmpty
  | _ => false

theorem quoteBehind_append (quote : Option α) (xs ys : List α) :
    quoteBehind quote (xs ++ ys) = (quoteBehind quote xs).bind (quoteBehind · ys) := by
  fun_induction quoteBehind quote xs with
  | case1 => rfl
  | case2 x xs hclose => simp [quoteBehind, hclose]
  | case3 x xs hclose ih =>
      rw [List.cons_append, quoteBehind, if_neg hclose]
      exact ih
  | case4 quote x xs ih =>
      rw [List.cons_append, quoteBehind]
      exact ih

theorem quoteBehind_plain {xs : List α} (h : ∀ x ∈ xs, is '>' x = false ∧ isQuote x = false) :
    quoteBehind none xs = some none := by
  induction xs with
  | nil => rfl
  | cons x xs ih =>
      obtain ⟨⟨hclose, hquote⟩, hxs⟩ := List.forall_mem_cons.mp h
      rw [quoteBehind, hclose, hquote]
      exact ih hxs

theorem quoteBehind_value {quote : α} {xs : List α} (h : quote ∉ xs) :
    quoteBehind (some quote) xs = some (some quote) := by
  induction xs with
  | nil => rfl
  | cons x xs ih =>
      obtain ⟨hx, hxs⟩ := not_or.mp (mt List.mem_cons.mpr h)
      rw [quoteBehind, if_neg (Ne.symm hx)]
      exact ih hxs

theorem quoteBehind_cons {x : α} {xs : List α} {next : Option α}
    (h : quoteBehind none (x :: xs) = some next) :
    is '>' x = false ∧ quoteBehind (if isQuote x then some x else none) xs = some next := by
  rw [quoteBehind] at h
  split at h
  · cases h
  · exact ⟨Bool.eq_false_iff.mpr ‹_›, h⟩

/-- What is open is a quote. -/
theorem isQuote_of_quoteBehind {quote next : Option α} {xs : List α}
    (h : quoteBehind quote xs = some next) (hquote : quote.all isQuote) : next.all isQuote := by
  induction xs generalizing quote with
  | nil =>
      rw [← Option.some.inj h]
      exact hquote
  | cons x xs ih =>
      cases quote with
      | none =>
          refine ih (quoteBehind_cons h).2 ?_
          cases hx : isQuote x with
          | true => exact hx
          | false => rfl
      | some quote =>
          refine ih h ?_
          split
          · rfl
          · exact hquote

/-- In a tag the scanner goes by quotes. -/
theorem Scanner.run_tag {quote next : Option α} {xs : List α} (h : quoteBehind quote xs = some next)
    (content : List α) (openTags : List (List α)) (found : List (Lexeme α)) :
    Scanner.run ⟨.tag quote content, openTags, found⟩ xs =
      ⟨.tag next (xs.reverse ++ content), openTags, found⟩ := by
  induction xs generalizing quote content with
  | nil => rw [← Option.some.inj h, run_nil, List.reverse_nil, List.nil_append]
  | cons x xs ih =>
      rw [run_cons, List.reverse_cons, List.append_assoc, List.singleton_append]
      cases quote with
      | some quote => exact ih h (x :: content)
      | none =>
          obtain ⟨hclose, hrest⟩ := quoteBehind_cons h
          have hstep : step ⟨.tag none content, openTags, found⟩ x =
              ⟨.tag (if isQuote x then some x else none) (x :: content), openTags, found⟩ := by
            show (if is '>' x then _ else if isQuote x then _ else _) = _
            cases hquote : isQuote x <;> simp [hclose]
          rw [hstep]
          exact ih hrest (x :: content)

theorem Scanner.addTag_withMode (s : Scanner α) (m : Mode α) (content : List α) :
    addTag { s with mode := m } content = s.addTag content := by
  rcases content with _ | ⟨last, before⟩
  · rfl
  · cases h : is '/' last <;> simp [addTag, h, add]

theorem Scanner.addTag_start {content : List α} (hlast : ∀ x ∈ content.getLast?, is '/' x = false)
    (s : Scanner α) : s.addTag content.reverse = s.put (.ofToken (.start content)) := by
  rcases List.eq_nil_or_concat content with rfl | ⟨before, last, rfl⟩
  · rfl
  · have hslash : is '/' last = false := hlast last (by simp)
    simp [addTag, hslash, add, put, nest, Lexeme.ofToken, Token.render]

theorem Scanner.addTag_empty (content : List α) (s : Scanner α) :
    s.addTag (content ++ [TextUnit.ofAscii '/']).reverse = s.put (.ofToken (.empty content)) := by
  simp [addTag, is, add, put, nest, Lexeme.ofToken, Token.render, ascii]

section

variable [LawfulTextUnit α]

theorem is_ofAscii {c d : Char} (hc : c.toNat < 128) (hd : d.toNat < 128) (hne : c ≠ d) :
    is c (TextUnit.ofAscii d : α) = false := by
  rw [Bool.eq_false_iff]
  exact fun h => hne (is_unique hc hd h (is_iff.mpr rfl))

/-- Behind a bracket, what is written like a tag is one. -/
theorem Scanner.run_tagContent {content : List α} (h : isTagContent content) (s : Scanner α) :
    Scanner.run { s with mode := .opened } (content ++ ascii ">") = s.addTag content.reverse := by
  obtain ⟨hhead, hclosed⟩ := Bool.and_eq_true_iff.mp h
  rw [decide_eq_true_eq] at hclosed
  rw [run_append]
  cases content with
  | nil =>
      have hother {c : Char} (hc : c.toNat < 128) (hne : c ≠ '>') :
          is c (TextUnit.ofAscii '>' : α) = false := is_ofAscii hc (by decide) hne
      have hclose : is '>' (TextUnit.ofAscii '>' : α) = true := is_iff.mpr rfl
      show beginMarkup _ (TextUnit.ofAscii '>') = _
      simp only [beginMarkup, hother (c := '!') (by decide) (by decide),
        hother (c := '/') (by decide) (by decide), hother (c := '?') (by decide) (by decide),
        hclose,
        if_true, if_false, Bool.false_eq_true]
      rfl
  | cons x xs =>
      obtain ⟨hclose, hrest⟩ := quoteBehind_cons hclosed
      simp only [List.head?_cons, Option.all_some, Bool.not_eq_true', Bool.or_eq_false_iff] at hhead
      obtain ⟨⟨hbang, hslash⟩, hmark⟩ := hhead
      have hopen : step { s with mode := .opened } x =
          { s with mode := .tag (if isQuote x then some x else none) [x] } := by
        show beginMarkup _ x = _
        simp only [beginMarkup, hbang, hslash, hmark, hclose, if_false, Bool.false_eq_true]
        show (if isQuote x then _ else _) = _
        cases isQuote x <;> rfl
      have hbracket : is '>' (TextUnit.ofAscii '>' : α) = true := is_iff.mpr rfl
      have hlast (t : Scanner α) : t.run (ascii ">") = t.step (TextUnit.ofAscii '>') := rfl
      rw [run_cons, hopen, run_tag hrest, hlast]
      simp only [step, hbracket, if_true, List.reverse_cons]
      exact addTag_withMode s _ _

/-- A slash at the end of a tag is no part of what is quoted there. -/
theorem isTagContent_slash {content : List α} :
    isTagContent (content ++ [TextUnit.ofAscii '/']) ↔ isTagContent content ∧ content ≠ [] := by
  have hslash : is '/' (TextUnit.ofAscii '/' : α) = true := is_iff.mpr rfl
  have hclose : is '>' (TextUnit.ofAscii '/' : α) = false :=
    is_ofAscii (by decide) (by decide) (by decide)
  have hquote : isQuote (TextUnit.ofAscii '/' : α) = false := Bool.or_eq_false_iff.mpr
    ⟨is_ofAscii (by decide) (by decide) (by decide), is_ofAscii (by decide) (by decide) (by decide)⟩
  rcases eq_or_ne content [] with rfl | hne
  · simp [isTagContent, hslash]
  have hbehind : quoteBehind none (content ++ [TextUnit.ofAscii '/']) = some none ↔
      quoteBehind none content = some none := by
    rw [quoteBehind_append]
    constructor
    · intro h
      obtain ⟨quote, hcontent, hlast⟩ := Option.bind_eq_some_iff.mp h
      cases quote with
      | none => exact hcontent
      | some quote =>
          have hreal : isQuote quote := isQuote_of_quoteBehind hcontent rfl
          have hother : TextUnit.ofAscii '/' ≠ quote := by
            rintro rfl
            simp [hquote] at hreal
          simp [quoteBehind, hother] at hlast
    · intro h
      rw [h]
      simp [quoteBehind, hclose, hquote]
  simp only [isTagContent, Bool.and_eq_true, decide_eq_true_eq, hbehind,
    List.head?_append_of_ne_nil _ hne, and_iff_left hne]

/-- A tag is read as it is written, wherever it stands. -/
theorem Token.isSpelled_of_isWritten {t : Token α} (h : t.isWritten) :
    (Lexeme.ofToken t).IsSpelled := by
  have hread {content : List α} (hcontent : isTagContent content) (s : Scanner α) (text : List α)
      (hmode : s.mode = .text text) :
      s.run (ascii "<" ++ (content ++ ascii ">")) = (s.addText text).addTag content.reverse := by
    have hopen : s.run (ascii "<") = { s.addText text with mode := .opened } := by
      show s.step (TextUnit.ofAscii '<') = _
      simp only [Scanner.step, hmode]
      rw [if_pos (is_iff.mpr rfl)]
    rw [Scanner.run_append, hopen, Scanner.run_tagContent hcontent]
  cases t with
  | start content =>
      obtain ⟨hcontent, hlast⟩ := Bool.and_eq_true_iff.mp h
      have hlast : ∀ x ∈ content.getLast?, is '/' x = false := by
        intro x hx
        rw [Option.mem_def.mp hx] at hlast
        simpa using hlast
      refine .markup rfl ⟨content, rfl⟩ ?_
      intro s text hmode
      rw [← Scanner.addTag_start hlast, ← hread hcontent s text hmode]
      simp [Lexeme.ofToken, render]
  | empty content =>
      obtain ⟨hcontent, hne⟩ := Bool.and_eq_true_iff.mp h
      have hslash := isTagContent_slash.mpr ⟨hcontent, by simpa using hne⟩
      refine .markup rfl
        ⟨content ++ [TextUnit.ofAscii '/'], by simp [Lexeme.ofToken, render, ascii]⟩ ?_
      intro s text hmode
      rw [← Scanner.addTag_empty, ← hread hslash s text hmode]
      simp [Lexeme.ofToken, render, ascii]
  | _ => cases h

end

/-! ## Tags as they are read -/

/-- The token begins an element. -/
def Token.isOpening : Token α → Bool
  | .start _ | .empty _ => true
  | _ => false

/-- The scanner is in a tag. -/
def Mode.isTag : Mode α → Bool
  | .tag _ _ => true
  | _ => false

/-- The units since a tag began are how a tag begins, with this quote open. -/
structure BeginsTag (quote : Option α) (content : List α) : Prop where
  nonempty : content ≠ []
  head : content.head?.all fun x => !(is '!' x || is '/' x || is '?' x)
  behind : quoteBehind none content = some quote

theorem BeginsTag.snoc {quote next : Option α} {content : List α} {x : α}
    (h : BeginsTag quote content) (hbehind : quoteBehind quote [x] = some next) :
    BeginsTag next (content ++ [x]) := by
  refine ⟨by simp, ?_, ?_⟩
  · rw [List.head?_append_of_ne_nil _ h.nonempty]
    exact h.head
  · rw [quoteBehind_append, h.behind, Option.bind_some, hbehind]

namespace Scanner

/-- The tags among the lexemes are written like tags,
and so is what has been read of the next one. -/
structure TagsWritten (s : Scanner α) : Prop where
  lexemes : ∀ l ∈ s.lexemes, l.token.isOpening → l.token.isWritten
  mode : ∀ quote content, s.mode = .tag quote content → BeginsTag quote content.reverse

namespace TagsWritten

variable {s : Scanner α}

theorem add (h : s.TagsWritten) {token : Token α} (htoken : token.isOpening → token.isWritten)
    (source : List α) : (s.add token source).TagsWritten := by
  refine ⟨?_, fun quote content h => by cases h⟩
  intro l hl
  rcases List.mem_cons.mp hl with rfl | hl
  · exact htoken
  · exact h.lexemes l hl

theorem addOther (h : s.TagsWritten) {token : Token α} (htoken : token.isOpening = false)
    (source : List α) : (s.add token source).TagsWritten :=
  h.add (fun hopening => absurd hopening (Bool.eq_false_iff.mp htoken)) source

theorem withMode (h : s.TagsWritten) {mode : Mode α}
    (hmode : ∀ quote content, mode = .tag quote content → BeginsTag quote content.reverse) :
    TagsWritten { s with mode } := ⟨h.lexemes, hmode⟩

theorem outside (h : s.TagsWritten) {mode : Mode α} (hmode : mode.isTag = false) :
    TagsWritten { s with mode } := by
  refine h.withMode ?_
  rintro quote content rfl
  cases hmode

theorem withOpenTags (h : s.TagsWritten) (openTags : List (List α)) :
    TagsWritten { s with openTags } := ⟨h.lexemes, h.mode⟩

theorem addText (h : s.TagsWritten) (content : List α) : (s.addText content).TagsWritten := by
  unfold Scanner.addText
  split
  · exact h
  · exact h.addOther rfl _

theorem addEndTag (h : s.TagsWritten) (content closing : List α) :
    (s.addEndTag content closing).TagsWritten := by
  rw [addEndTag_eq_put, put]
  split
  · exact (h.addOther rfl _).withOpenTags _
  · exact h.outside rfl

theorem addInstruction (h : s.TagsWritten) (content closing : List α) :
    (s.addInstruction content closing).TagsWritten := by
  unfold Scanner.addInstruction
  repeat' split
  all_goals first | exact h.addOther rfl _ | exact h.outside rfl

/-- What is read inside a tag keeps it one. -/
theorem stepTag (h : s.TagsWritten) {quote next : Option α} {content : List α} {x : α}
    (hmode : s.mode = .tag quote content) (hbehind : quoteBehind quote [x] = some next) :
    TagsWritten { s with mode := .tag next (x :: content) } := by
  refine h.withMode ?_
  rintro _ _ ⟨⟩
  rw [List.reverse_cons]
  exact (h.mode _ _ hmode).snoc hbehind

section

variable [LawfulTextUnit α]

theorem addTag (h : s.TagsWritten) {content : List α} (hcontent : isTagContent content.reverse) :
    (s.addTag content).TagsWritten := by
  unfold Scanner.addTag
  rcases content with _ | ⟨last, content⟩
  · exact (h.add (fun _ => by rfl) _).withOpenTags _
  dsimp only
  split
  · rename_i hslash
    rw [List.reverse_cons, is_iff.mp hslash, isTagContent_slash] at hcontent
    refine h.add ?_ _
    intro _
    simpa [Token.isWritten] using hcontent
  · rename_i hslash
    refine (h.add ?_ _).withOpenTags _
    intro _
    refine Bool.and_eq_true_iff.mpr ⟨hcontent, ?_⟩
    simpa using hslash

theorem beginMarkup (h : s.TagsWritten) (x : α) : (s.beginMarkup x).TagsWritten := by
  unfold Scanner.beginMarkup
  by_cases hbang : is '!' x
  · rw [if_pos hbang]
    exact h.outside rfl
  rw [if_neg hbang]
  by_cases hslash : is '/' x
  · rw [if_pos hslash]
    exact h.outside rfl
  rw [if_neg hslash]
  by_cases hmark : is '?' x
  · rw [if_pos hmark]
    exact h.outside rfl
  rw [if_neg hmark]
  by_cases hclose : is '>' x
  · rw [if_pos hclose]
    exact h.addTag (by rfl)
  rw [if_neg hclose]
  have hother : !(is '!' x || is '/' x || is '?' x) := by simp [hbang, hslash, hmark]
  have hbegin {quote : Option α} (hbehind : quoteBehind none [x] = some quote) :
      TagsWritten { s with mode := .tag quote [x] } := by
    refine h.withMode ?_
    rintro _ _ ⟨⟩
    exact ⟨List.cons_ne_nil _ _, hother, hbehind⟩
  split
  · rename_i hquote
    exact hbegin (by simp [quoteBehind, hclose, isQuote, hquote])
  · rename_i hquote
    exact hbegin (by simp [quoteBehind, hclose, isQuote, hquote])

theorem step (h : s.TagsWritten) (x : α) : (s.step x).TagsWritten := by
  unfold Scanner.step
  split
  · split
    · exact (h.addText _).outside rfl
    · exact h.outside rfl
  · exact h.beginMarkup x
  · rename_i hmode
    exact h.stepTag hmode rfl
  · rename_i hmode
    have hbegun := h.mode _ _ hmode
    split
    · refine h.addTag (Bool.and_eq_true_iff.mpr ⟨hbegun.head, ?_⟩)
      rw [hbegun.behind, decide_eq_true_eq]
    · rename_i hclose
      split
      · rename_i hquote
        exact h.stepTag hmode (by simp [quoteBehind, hclose, isQuote, hquote])
      · rename_i hquote
        exact h.stepTag hmode (by simp [quoteBehind, hclose, isQuote, hquote])
  · split
    · exact h.addEndTag _ _
    · exact h.outside rfl
  · split
    · exact h.addInstruction _ _
    · exact h.outside rfl
  · unfold beginDeclaration
    repeat' split
    all_goals exact h.outside rfl
  -- What is left begins with an exclamation mark, and is no tag.
  · unfold closeComment
    dsimp only
    repeat' split
    all_goals first | exact h.addOther rfl _ | exact h.outside rfl
  · unfold closeCData
    dsimp only
    repeat' split
    all_goals first | exact h.addOther rfl _ | exact h.outside rfl
  · unfold closeDoctype
    dsimp only
    repeat' split
    all_goals first | exact h.addOther rfl _ | exact h.outside rfl
  · exact h

theorem run (h : s.TagsWritten) (xs : List α) : (s.run xs).TagsWritten := by
  induction xs generalizing s with
  | nil => exact h
  | cons x xs ih => exact ih (h.step x)

end

theorem finish (h : s.TagsWritten) : s.finish.TagsWritten := by
  unfold Scanner.finish
  split
  · exact h.addText _
  · exact h
  · exact h.outside rfl
  · exact h.addEndTag _ _
  · exact h.addInstruction _ _
  all_goals first | exact h | exact h.outside rfl

end TagsWritten

end Scanner

/-- **What the scanner takes for a tag is written like one**, in any document. -/
theorem isWritten_of_scan [LawfulTextUnit α] {xs : List α} {l : Lexeme α}
    (hl : l ∈ (scan xs).lexemes) (hopening : l.token.isOpening) : l.token.isWritten := by
  have hstart : Scanner.TagsWritten ({} : Scanner α) :=
    ⟨fun l h => absurd h List.not_mem_nil, fun quote content h => by cases h⟩
  exact (hstart.run (dropMark xs)).finish.lexemes l (List.mem_reverse.mp hl) hopening

end SoapBindings.Markup
