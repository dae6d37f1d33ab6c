/-
# `SoapBindings.Proofs.Markup.Scanning` — what the scanner reads, wherever it stands

In markup that has begun the scanner looks at nothing but the markup (`Scanner.step_outcome`): what
was read before and which elements are open matters to an end tag alone, and there only for whether
it matches.  So a lexeme of markup is read from its source in any place, and a row of lexemes from
their sources (`Spelled.run`), as long as no two texts in it touch.
-/
import Mathlib.Data.List.Chain
import SoapBindings.Proofs.Markup.Passage

namespace SoapBindings.Markup

variable {α : Type} [DecidableEq α] [TextUnit α]

theorem is_iff {c : Char} {x : α} : is c x = true ↔ x = TextUnit.ofAscii c := by
  simp [is]

/-- The token is a text. -/
def Token.isText : Token α → Bool
  | .text _ => true
  | _ => false

/-! ## One unit -/

namespace Mode

/-- The scanner stands in markup that has begun. -/
def isMarkup : Mode α → Bool
  | .text _ | .failed _ => false
  | _ => true

/-- What has been read since the mode's first delimiter, and belongs to no lexeme yet. -/
def pending : Mode α → List α
  | .text content => content.reverse
  | .opened => ascii "<"
  | .tag _ content => ascii "<" ++ content.reverse
  | .endTag content => ascii "</" ++ content.reverse
  | .instruction content => ascii "<?" ++ content.reverse
  | .declaration => ascii "<!"
  | .comment content | .cdata content | .doctype _ content => ascii "<!" ++ content.reverse
  | .failed _ => []

end Mode

namespace Scanner

/-- Add a lexeme of markup.  If it is an end tag, it has to match. -/
def put (s : Scanner α) (l : Lexeme α) : Scanner α :=
  match nest s.openTags l.token with
  | some openTags => { mode := .text [], openTags, lexemes := l :: s.lexemes }
  | none => s.fail .mismatchedEnd

/-- What a unit makes of markup that has begun: the markup goes on, or the unit completes a lexeme
of it, or there is a fault.  Nothing else about the scanner matters. -/
inductive Outcome (pending : List α) (x : α) (f : Scanner α → Scanner α) : Prop
  | on (next : Mode α) (hmarkup : next.isMarkup) (hpending : next.pending = pending ++ [x])
      (h : ∀ s, f s = { s with mode := next })
  | complete (token : Token α) (hclose : is '>' x) (htext : token.isText = false)
      (h : ∀ s, f s = s.put ⟨token, pending ++ [x]⟩)
  | fault (e : MarkupError) (h : ∀ s, f s = s.fail e)

/-- The mode that the scanner was in is behind it. -/
theorem Outcome.withMode {pending : List α} {x : α} {f : Scanner α → Scanner α}
    (h : Outcome pending x f) (m : Mode α) : Outcome pending x fun s => f { s with mode := m } := by
  cases h with
  | on next hmarkup hpending h => exact .on next hmarkup hpending fun s => h _
  | complete token hclose htext h => exact .complete token hclose htext fun s => h _
  | fault e h => exact .fault e fun s => h _

/-- An instruction is one by its question marks alone. -/
theorem addInstruction_eq (content closing : List α) :
    (∃ kept, ∀ s : Scanner α, s.addInstruction content closing =
      s.put ⟨.instruction kept, ascii "<?" ++ content.reverse ++ closing⟩) ∨
    ∀ s : Scanner α, s.addInstruction content closing = s.fail .unclosedInstruction := by
  rcases content with _ | ⟨mark, before⟩
  · exact .inr fun s => rfl
  · by_cases hmark : is '?' mark && !before.isEmpty
    · refine .inl ⟨before.reverse, ?_⟩
      intro s
      simp only [addInstruction, hmark, if_true, add, put, nest]
    · refine .inr ?_
      intro s
      simp only [addInstruction, hmark, if_false, Bool.false_eq_true]

section Complete

variable {x : α} (hx : is '>' x) (content : List α)
include hx

theorem ascii_close : ascii ">" = [x] := by
  simp [ascii, is_iff.mp hx]

theorem addTag_outcome : Outcome (ascii "<" ++ content.reverse) x (·.addTag content) := by
  rcases content with _ | ⟨last, before⟩
  · refine .complete (.start []) hx rfl ?_
    intro s
    simp only [addTag, add, put, nest, tagName, List.takeWhile_nil, ascii_close hx]
  · by_cases hslash : is '/' last
    · refine .complete (.empty before.reverse) hx rfl ?_
      intro s
      simp only [addTag, hslash, if_true, add, put, nest, ascii_close hx]
    · refine .complete (.start (last :: before).reverse) hx rfl ?_
      intro s
      simp only [addTag, hslash, if_false, add, put, nest, ascii_close hx, Bool.false_eq_true]

/-- A bracket that ends nothing is part of what it stands in. -/
theorem outcome_keep (mode : List α → Mode α) {f : Scanner α → Scanner α}
    (hmode : ∀ content, (mode content).isMarkup)
    (hpending : ∀ content, (mode content).pending = ascii "<!" ++ content.reverse)
    (h : ∀ s, f s = { s with mode := mode (TextUnit.ofAscii '>' :: content) }) :
    Outcome (ascii "<!" ++ content.reverse) x f := by
  refine .on _ (hmode _) ?_ h
  rw [hpending, ← is_iff.mp hx]
  simp

theorem closeComment_outcome :
    Outcome (ascii "<!" ++ content.reverse) x (·.closeComment content) := by
  match content with
  | [] | [a] => exact outcome_keep hx _ .comment (fun _ => rfl) (fun _ => rfl) fun _ => rfl
  | a :: b :: before =>
      by_cases hend : is '-' a && is '-' b && 2 ≤ before.length
      · by_cases hbegin : is '-' ((a :: b :: before).reverse.getD 1 a)
        · refine .complete (.comment (before.reverse.drop 2)) hx rfl ?_
          intro s
          simp only [closeComment, hend, if_true, hbegin, add, put, nest, ascii_close hx]
        · refine .fault .badDeclaration ?_
          intro s
          simp only [closeComment, hend, if_true, hbegin, if_false, Bool.false_eq_true]
      · refine outcome_keep hx _ .comment (fun _ => rfl) (fun _ => rfl) ?_
        intro s
        simp only [closeComment, hend, if_false, Bool.false_eq_true]

theorem closeCData_outcome :
    Outcome (ascii "<!" ++ content.reverse) x (·.closeCData content) := by
  match content with
  | [] | [a] => exact outcome_keep hx _ .cdata (fun _ => rfl) (fun _ => rfl) fun _ => rfl
  | a :: b :: before =>
      by_cases hend : is ']' a && is ']' b
      · by_cases hbegin : startsWithKeyword "[cdata[".toList before.reverse
        · refine .complete (.cdata (before.reverse.drop 7)) hx rfl ?_
          intro s
          simp only [closeCData, hend, if_true, hbegin, add, put, nest, ascii_close hx]
        · refine .fault .badDeclaration ?_
          intro s
          simp only [closeCData, hend, if_true, hbegin, if_false, Bool.false_eq_true]
      · refine outcome_keep hx _ .cdata (fun _ => rfl) (fun _ => rfl) ?_
        intro s
        simp only [closeCData, hend, if_false, Bool.false_eq_true]

theorem closeDoctype_outcome :
    Outcome (ascii "<!" ++ content.reverse) x (·.closeDoctype content) := by
  by_cases hbegin : startsWithKeyword "doctype".toList content.reverse
  · cases hkept : (content.reverse.drop 7).dropWhile isSpace with
    | nil =>
        refine .fault .emptyDoctype ?_
        intro s
        simp only [closeDoctype, hbegin, if_true, hkept]
    | cons y ys =>
        refine .complete (.doctype (y :: ys)) hx rfl ?_
        intro s
        simp only [closeDoctype, hbegin, if_true, hkept, add, put, nest, ascii_close hx]
  · refine .fault .badDeclaration ?_
    intro s
    simp only [closeDoctype, hbegin, if_false, Bool.false_eq_true]

end Complete

/-- The name in an end tag, given what it holds, last unit first. -/
def endName (content : List α) : List α :=
  match content.dropWhile isTrailing with
  | [] => content.reverse
  | kept => kept.reverse

theorem addEndTag_eq_put (s : Scanner α) (content closing : List α) :
    s.addEndTag content closing =
      s.put ⟨.stop (endName content), ascii "</" ++ content.reverse ++ closing⟩ := by
  obtain ⟨mode, openTags, lexemes⟩ := s
  cases openTags with
  | nil => rfl
  | cons tag outer =>
      by_cases hname : endName content = tag
      · have hadded : Scanner.addEndTag ⟨mode, tag :: outer, lexemes⟩ content closing = _ :=
          if_pos hname
        rw [hadded, put, ← hname, nest_stop]
        rfl
      · have hfailed : Scanner.addEndTag ⟨mode, tag :: outer, lexemes⟩ content closing = _ :=
          if_neg hname
        rw [hfailed, put, nest, if_neg hname]

/-- What the unit behind a bracket makes of it. -/
theorem beginMarkup_outcome (x : α) : Outcome (ascii "<") x (·.beginMarkup x) := by
  by_cases hbang : is '!' x
  · refine .on .declaration rfl ?_ ?_
    · simp [Mode.pending, ascii, is_iff.mp hbang]
    · intro s
      simp only [beginMarkup, hbang, if_true]
  by_cases hslash : is '/' x
  · refine .on (.endTag []) rfl ?_ ?_
    · simp [Mode.pending, ascii, is_iff.mp hslash]
    · intro s
      simp only [beginMarkup, hbang, hslash, if_true, if_false, Bool.false_eq_true]
  by_cases hmark : is '?' x
  · refine .on (.instruction []) rfl ?_ ?_
    · simp [Mode.pending, ascii, is_iff.mp hmark]
    · intro s
      simp only [beginMarkup, hbang, hslash, hmark, if_true, if_false, Bool.false_eq_true]
  by_cases hclose : is '>' x
  · have h := addTag_outcome hclose []
    simp only [List.reverse_nil, List.append_nil] at h
    simpa only [beginMarkup, hbang, hslash, hmark, hclose, if_true, if_false, Bool.false_eq_true]
      using h
  by_cases hquote : is '\'' x || is '"' x
  · refine .on (.tag (some x) [x]) rfl rfl ?_
    intro s
    simp only [beginMarkup, hbang, hslash, hmark, hclose, hquote, if_true, if_false,
      Bool.false_eq_true]
  · refine .on (.tag none [x]) rfl rfl ?_
    intro s
    simp only [beginMarkup, hbang, hslash, hmark, hclose, hquote, if_false, Bool.false_eq_true]

/-- What the unit behind an exclamation mark makes of it. -/
theorem beginDeclaration_outcome (x : α) : Outcome (ascii "<!") x (·.beginDeclaration x) := by
  by_cases hdash : is '-' x
  · refine .on (.comment [x]) rfl rfl ?_
    intro s
    simp only [beginDeclaration, hdash, if_true]
  by_cases hbracket : is '[' x
  · refine .on (.cdata [x]) rfl rfl ?_
    intro s
    simp only [beginDeclaration, hdash, hbracket, if_true, if_false, Bool.false_eq_true]
  by_cases hletter : isLetter 'd' x
  · refine .on (.doctype 0 [x]) rfl rfl ?_
    intro s
    simp only [beginDeclaration, hdash, hbracket, hletter, if_true, if_false, Bool.false_eq_true]
  · refine .fault .badDeclaration ?_
    intro s
    simp only [beginDeclaration, hdash, hbracket, hletter, if_false, Bool.false_eq_true]

/-- **What a unit does in markup depends on the markup alone**, whatever was read before it and
whatever elements are open. -/
theorem step_outcome {m : Mode α} (hm : m.isMarkup) (x : α) :
    Outcome m.pending x fun s => step { s with mode := m } x := by
  cases m with
  | text content => cases hm
  | failed e => cases hm
  | opened => exact beginMarkup_outcome x
  | declaration => exact beginDeclaration_outcome x
  | tag quote content =>
      rcases quote with _ | quote
      · by_cases hclose : is '>' x
        · simp only [step, hclose, if_true]
          exact (addTag_outcome hclose content).withMode _
        by_cases hquote : is '\'' x || is '"' x
        · refine .on (.tag (some x) (x :: content)) rfl (by simp [Mode.pending]) ?_
          intro s
          simp only [step, hclose, hquote, if_true, if_false, Bool.false_eq_true]
        · refine .on (.tag none (x :: content)) rfl (by simp [Mode.pending]) ?_
          intro s
          simp only [step, hclose, hquote, if_false, Bool.false_eq_true]
      · exact .on (.tag (if x = quote then none else some quote) (x :: content)) rfl
          (by simp [Mode.pending]) fun s => rfl
  | endTag content =>
      by_cases hclose : is '>' x
      · refine .complete (.stop (endName content)) hclose rfl ?_
        intro s
        simp only [step, hclose, if_true, addEndTag_eq_put]
        rfl
      · refine .on (.endTag (x :: content)) rfl (by simp [Mode.pending]) ?_
        intro s
        simp only [step, hclose, if_false, Bool.false_eq_true]
  | instruction content =>
      by_cases hclose : is '>' x
      · simp only [step, hclose, if_true]
        rcases addInstruction_eq content [x] with ⟨kept, hkept⟩ | hfail
        · exact .complete (.instruction kept) hclose rfl fun s => hkept _
        · exact .fault .unclosedInstruction fun s => hfail _
      · refine .on (.instruction (x :: content)) rfl (by simp [Mode.pending]) ?_
        intro s
        simp only [step, hclose, if_false, Bool.false_eq_true]
  | comment content =>
      by_cases hclose : is '>' x
      · simp only [step, hclose, if_true]
        exact (closeComment_outcome hclose content).withMode _
      · refine .on (.comment (x :: content)) rfl (by simp [Mode.pending]) ?_
        intro s
        simp only [step, hclose, if_false, Bool.false_eq_true]
  | cdata content =>
      by_cases hclose : is '>' x
      · simp only [step, hclose, if_true]
        exact (closeCData_outcome hclose content).withMode _
      · refine .on (.cdata (x :: content)) rfl (by simp [Mode.pending]) ?_
        intro s
        simp only [step, hclose, if_false, Bool.false_eq_true]
  | doctype depth content =>
      by_cases hclose : is '>' x
      · by_cases hdepth : depth = 0
        · simp only [step, hclose, hdepth, if_true]
          exact (closeDoctype_outcome hclose content).withMode _
        · refine .on (.doctype (depth - 1) (x :: content)) rfl (by simp [Mode.pending]) ?_
          intro s
          simp only [step, hclose, hdepth, if_true, if_false]
      by_cases hopen : is '<' x
      · refine .on (.doctype (depth + 1) (x :: content)) rfl (by simp [Mode.pending]) ?_
        intro s
        simp only [step, hclose, hopen, if_true, if_false, Bool.false_eq_true]
      · refine .on (.doctype depth (x :: content)) rfl (by simp [Mode.pending]) ?_
        intro s
        simp only [step, hclose, hopen, if_false, Bool.false_eq_true]

/-! ## Lexemes that stand for themselves -/

@[simp] theorem run_nil (s : Scanner α) : s.run [] = s := rfl

@[simp] theorem run_cons (s : Scanner α) (x : α) (xs : List α) :
    s.run (x :: xs) = (s.step x).run xs := rfl

@[simp] theorem run_append (s : Scanner α) (xs ys : List α) :
    s.run (xs ++ ys) = (s.run xs).run ys := List.foldl_append

/-- Behind a fault nothing is read any more. -/
theorem run_failed {s : Scanner α} {e : MarkupError} (hmode : s.mode = .failed e) (xs : List α) :
    s.run xs = s := by
  induction xs with
  | nil => rfl
  | cons x xs ih =>
      have hstep : s.step x = s := by
        simp only [step, hmode]
      rw [run_cons, hstep, ih]

/-- Text is gathered up to the next bracket. -/
theorem run_text {xs : List α} (hplain : ∀ x ∈ xs, is '<' x = false) {s : Scanner α}
    {content : List α} (hmode : s.mode = .text content) :
    s.run xs = { s with mode := .text (xs.reverse ++ content) } := by
  induction xs generalizing s content with
  | nil =>
      show s = _
      rw [List.reverse_nil, List.nil_append, ← hmode]
  | cons x xs ih =>
      obtain ⟨hx, hxs⟩ := List.forall_mem_cons.mp hplain
      have hstep : s.step x = { s with mode := .text (x :: content) } := by
        simp only [step, hmode, hx, if_false, Bool.false_eq_true]
      rw [run_cons, hstep, ih hxs rfl, List.reverse_cons, List.append_assoc]
      rfl

omit [DecidableEq α] [TextUnit α] in
@[simp] theorem addText_openTags (s : Scanner α) (content : List α) :
    (s.addText content).openTags = s.openTags := by
  cases content <;> rfl

omit [DecidableEq α] [TextUnit α] in
/-- To complete the text that stands behind the last lexeme. -/
theorem addText_eq {s : Scanner α} {content : List α} (hmode : s.mode = .text content) :
    s.addText content = ⟨.text [], s.openTags, (s.addText content).lexemes⟩ := by
  rcases content with _ | ⟨x, content⟩
  · show s = ⟨.text [], s.openTags, s.lexemes⟩
    rw [← hmode]
  · rfl

theorem put_eq {s : Scanner α} {l : Lexeme α} {openTags : List (List α)}
    (h : nest s.openTags l.token = some openTags) :
    s.put l = ⟨.text [], openTags, l :: s.lexemes⟩ := by
  simp only [put, h]

end Scanner

/-- Reading what a mode holds, behind any text, leads to the mode. -/
def Mode.Stands (m : Mode α) : Prop :=
  ∀ (s : Scanner α) (content : List α), s.mode = .text content →
    s.run m.pending = { s.addText content with mode := m }

/-- The scanner reads the lexeme from its source, wherever that stands. -/
inductive Lexeme.IsSpelled (l : Lexeme α) : Prop
  | stretch (htoken : l.token = .text l.source) (hne : l.source ≠ [])
      (hplain : ∀ x ∈ l.source, is '<' x = false)
  | markup (htext : l.token.isText = false)
      (hbrackets : ∃ inner, l.source = ascii "<" ++ inner ++ ascii ">")
      (hread : ∀ (s : Scanner α) (content : List α), s.mode = .text content →
        s.run l.source = (s.addText content).put l)

/-- A row that the scanner reads from its sources.  Two texts next to each other would be read as
one. -/
structure Spelled (ls : List (Lexeme α)) : Prop where
  each : ∀ l ∈ ls, l.IsSpelled
  apart : ls.IsChain fun l m => l.token.isText → m.token.isText = false

namespace Spelled

theorem nil : Spelled ([] : List (Lexeme α)) := ⟨by simp, .nil⟩

theorem append {ls ms : List (Lexeme α)} (hls : Spelled ls) (hms : Spelled ms)
    (hborder : ∀ l ∈ ls.getLast?, ∀ m ∈ ms.head?, l.token.isText → m.token.isText = false) :
    Spelled (ls ++ ms) :=
  ⟨List.forall_mem_append.mpr ⟨hls.each, hms.each⟩, hls.apart.append hms.apart hborder⟩

theorem of_append {ls ms : List (Lexeme α)} (h : Spelled (ls ++ ms)) : Spelled ls ∧ Spelled ms := by
  obtain ⟨hls, hms⟩ := List.forall_mem_append.mp h.each
  obtain ⟨hleft, hright, -⟩ := List.isChain_append.mp h.apart
  exact ⟨⟨hls, hleft⟩, ⟨hms, hright⟩⟩

/-- A row stands between two parts of another one that meet in markup. -/
theorem insert {ls ms rest : List (Lexeme α)} (h : Spelled (ls ++ rest)) (hms : Spelled ms)
    (hls : ∀ l ∈ ls.getLast?, l.token.isText = false)
    (hrest : ∀ l ∈ rest.head?, l.token.isText = false) : Spelled (ls ++ (ms ++ rest)) := by
  obtain ⟨hfront, hbehind⟩ := h.of_append
  have hinner : Spelled (ms ++ rest) :=
    hms.append hbehind fun _ _ m hm _ => hrest m hm
  refine hfront.append hinner ?_
  intro l hl _ _ htext
  rw [hls l hl] at htext
  cases htext

theorem stretch {xs : List α} (hne : xs ≠ []) (hplain : ∀ x ∈ xs, is '<' x = false) :
    Spelled [⟨.text xs, xs⟩] := by
  refine ⟨?_, .singleton _⟩
  intro l hl
  obtain rfl := List.mem_singleton.mp hl
  exact .stretch rfl hne hplain

/-- More text in front of a row makes its first text longer, or is one more. -/
theorem withText {ls : List (Lexeme α)} (h : Spelled ls) {xs : List α} (hne : xs ≠ [])
    (hplain : ∀ x ∈ xs, is '<' x = false) : ∃ ms, Spelled ms ∧ sources ms = xs ++ sources ls ∧
      ∀ openTags, nestAll openTags (ms.map (·.token)) = nestAll openTags (ls.map (·.token)) := by
  rcases ls with _ | ⟨l, ls⟩
  · exact ⟨_, stretch hne hplain, by simp, fun _ => rfl⟩
  · cases h.each l List.mem_cons_self with
    | stretch htoken _ hmore =>
        have hfirst : Spelled [⟨.text (xs ++ l.source), xs ++ l.source⟩] :=
          stretch (by simp [hne]) (List.forall_mem_append.mpr ⟨hplain, hmore⟩)
        obtain ⟨-, hls⟩ := (show Spelled ([l] ++ ls) from h).of_append
        refine ⟨_, hfirst.append hls ?_, by simp, ?_⟩
        · intro _ _ m hm _
          exact (List.isChain_cons.mp h.apart).1 m hm (by rw [htoken]; rfl)
        · intro openTags
          simp [htoken, nest]
    | markup htext _ _ =>
        refine ⟨_, (stretch hne hplain).append h ?_, by simp, fun _ => rfl⟩
        intro _ _ m hm _
        obtain rfl := Option.some.inj hm
        exact htext

/-- Of a row, markup may be left out or kept as one likes, as long as no text is kept. -/
theorem sublist {ls ms : List (Lexeme α)} (h : Spelled ls) (hms : ms.Sublist ls)
    (hmarkup : ∀ l ∈ ms, l.token.isText = false) : Spelled ms := by
  refine ⟨fun l hl => h.each l (hms.subset hl), List.Pairwise.isChain ?_⟩
  refine List.pairwise_of_forall_mem_list ?_
  intro l _ m hm _
  exact hmarkup m hm

theorem of_prefix {ls ms : List (Lexeme α)} (h : Spelled ls) (hms : ms <+: ls) : Spelled ms := by
  obtain ⟨rest, rfl⟩ := hms
  exact h.of_append.1

/-- **A row is read again from its sources**, behind any text and inside any elements. -/
theorem run {ls : List (Lexeme α)} (h : Spelled ls) {s : Scanner α} {content : List α}
    {openTags : List (List α)} (hmode : s.mode = .text content)
    (hfirst : content = [] ∨ ∀ l ∈ ls.head?, l.token.isText = false)
    (hnest : nestAll s.openTags (ls.map (·.token)) = some openTags) :
    ∃ rest, (s.run (sources ls)).mode = .text rest ∧
      (s.run (sources ls)).addText rest =
        ⟨.text [], openTags, ls.reverse ++ (s.addText content).lexemes⟩ := by
  induction ls generalizing s content with
  | nil =>
      obtain rfl := Option.some.inj hnest
      exact ⟨content, hmode, Scanner.addText_eq hmode⟩
  | cons l ls ih =>
      obtain ⟨-, hls⟩ := (show Spelled ([l] ++ ls) from h).of_append
      simp only [List.map_cons, nestAll_cons] at hnest
      obtain ⟨tags, htags, hrest⟩ := Option.bind_eq_some_iff.mp hnest
      rw [sources_cons, Scanner.run_append]
      cases h.each l List.mem_cons_self with
      | stretch htoken hne hplain =>
          obtain rfl : content = [] := by
            rcases hfirst with hcontent | hmarkup
            · exact hcontent
            · have hl := hmarkup l rfl
              rw [htoken] at hl
              cases hl
          rw [htoken] at htags
          obtain rfl := Option.some.inj htags
          have hnext : ∀ m ∈ ls.head?, m.token.isText = false := by
            intro m hm
            exact (List.isChain_cons.mp h.apart).1 m hm (by rw [htoken]; rfl)
          have htext : ({ s with mode := .text l.source.reverse } : Scanner α).addText
              l.source.reverse = ⟨.text [], s.openTags, l :: s.lexemes⟩ := by
            have hl : l = ⟨.text l.source, l.source⟩ := by rw [← htoken]
            simp only [Scanner.addText, List.isEmpty_reverse, List.isEmpty_iff, hne, if_false,
              Scanner.add, List.reverse_reverse, ← hl]
          obtain ⟨rest, hend, hresult⟩ :=
            ih hls (s := { s with mode := .text l.source.reverse }) rfl (.inr hnext) hrest
          rw [Scanner.run_text hplain hmode, List.append_nil]
          refine ⟨rest, hend, ?_⟩
          rw [hresult, htext, List.reverse_cons, List.append_assoc]
          rfl
      | markup htext hbrackets hread =>
          rw [← Scanner.addText_openTags s content] at htags
          obtain ⟨rest, hend, hresult⟩ :=
            ih hls (s := ⟨.text [], tags, l :: (s.addText content).lexemes⟩) rfl (.inl rfl) hrest
          rw [hread s content hmode, Scanner.put_eq htags]
          refine ⟨rest, hend, ?_⟩
          rw [hresult, List.reverse_cons, List.append_assoc]
          rfl

/-- Behind a row the scanner reads what stands for itself. -/
theorem run_then {ls : List (Lexeme α)} (h : Spelled ls) {openTags : List (List α)}
    (hnest : nestAll [] (ls.map (·.token)) = some openTags) {xs : List α}
    {f : Scanner α → Scanner α}
    (hread : ∀ (s : Scanner α) (content : List α), s.mode = .text content →
      s.run xs = f (s.addText content)) :
    Scanner.run {} (sources ls ++ xs) = f ⟨.text [], openTags, ls.reverse⟩ := by
  obtain ⟨rest, hend, hresult⟩ := h.run (s := {}) rfl (.inl rfl) hnest
  rw [Scanner.run_append, hread _ rest hend, hresult]
  simp [Scanner.addText]

/-- The scanner reads nothing else than the row. -/
theorem scan {ls : List (Lexeme α)} (h : Spelled ls) {openTags : List (List α)}
    (hnest : nestAll [] (ls.map (·.token)) = some openTags)
    (hmark : dropMark (sources ls) = sources ls) : scan (sources ls) = ⟨ls, none⟩ := by
  obtain ⟨rest, hend, hresult⟩ := h.run (s := {}) rfl (.inl rfl) hnest
  have hfinish : (Scanner.run {} (sources ls)).finish = ⟨.text [], openTags, ls.reverse⟩ := by
    simp only [Scanner.finish, hend, hresult]
    simp [Scanner.addText]
  simp only [Markup.scan, hmark, hfinish, List.reverse_reverse]

end Spelled

end SoapBindings.Markup
