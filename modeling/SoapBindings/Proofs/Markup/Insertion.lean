/-
# `SoapBindings.Proofs.Markup.Insertion` — documents taken in two parts

The scanner takes a document unit by unit, and it never looks back at the lexemes that it has found
(`Scanner.run_behind`).  So a document can be cut where no markup is open, and what stands behind
the cut is scanned as it would be inside the same open elements anywhere else (`scan_cut`).  A text
may be cut as well.  It is then one text to the scanner as long as nothing is put in between, and
two texts otherwise (`scan_stretch`, `scanWithin_stretch`).

One kind of markup cannot stand in a document at all.  An instruction is taken to end at the first
bracket, so one that holds a bracket is a fault (`scanWithin_instruction`).
-/
import SoapBindings.Proofs.Markup.Rows
import SoapBindings.Proofs.Markup.Tags

namespace SoapBindings.Markup

variable {α : Type} [DecidableEq α] [TextUnit α]

/-! ## What was found before -/

namespace Scanner

omit [DecidableEq α] [TextUnit α] in
/-- The scanner with more lexemes found before. -/
def behind (s : Scanner α) (found : List (Lexeme α)) : Scanner α :=
  { s with lexemes := s.lexemes ++ found }

theorem put_behind (s : Scanner α) (l : Lexeme α) (found : List (Lexeme α)) :
    (s.behind found).put l = (s.put l).behind found := by
  show Scanner.put ⟨s.mode, s.openTags, s.lexemes ++ found⟩ l = _
  cases hnest : nest s.openTags l.token <;> simp only [put, hnest] <;> rfl

omit [DecidableEq α] [TextUnit α] in
theorem addText_behind (s : Scanner α) (content : List α) (found : List (Lexeme α)) :
    (s.behind found).addText content = (s.addText content).behind found := by
  cases content <;> rfl

theorem step_behind (s : Scanner α) (x : α) (found : List (Lexeme α)) :
    (s.behind found).step x = (s.step x).behind found := by
  obtain ⟨m, openTags, lexemes⟩ := s
  cases hm : m.isMarkup with
  | true =>
      cases step_outcome hm x with
      | on next _ _ h =>
          exact (h ⟨m, openTags, lexemes ++ found⟩).trans
            (congrArg (behind · found) (h ⟨m, openTags, lexemes⟩).symm)
      | complete token _ _ h =>
          rw [show step _ x = _ from h ⟨m, openTags, lexemes⟩, ← put_behind]
          exact h ⟨m, openTags, lexemes ++ found⟩
      | fault e h =>
          exact (h ⟨m, openTags, lexemes ++ found⟩).trans
            (congrArg (behind · found) (h ⟨m, openTags, lexemes⟩).symm)
  | false =>
      cases m with
      | failed e => rfl
      | text content =>
          by_cases hopen : is '<' x
          · simp only [behind, step, hopen, if_true]
            cases content <;> rfl
          · simp only [behind, step, hopen, if_false, Bool.false_eq_true]
      | _ => cases hm

theorem run_behind (s : Scanner α) (xs : List α) (found : List (Lexeme α)) :
    (s.behind found).run xs = (s.run xs).behind found := by
  induction xs generalizing s with
  | nil => rfl
  | cons x xs ih => rw [run_cons, step_behind, ih, run_cons]

theorem finish_behind (s : Scanner α) (found : List (Lexeme α)) :
    (s.behind found).finish = s.finish.behind found := by
  obtain ⟨m, openTags, lexemes⟩ := s
  cases hm : m.isMarkup with
  | true =>
      rcases finish_markup hm with ⟨token, h⟩ | h | ⟨e, h⟩
      · rw [show finish _ = _ from h ⟨m, openTags, lexemes⟩, ← put_behind]
        exact h ⟨m, openTags, lexemes ++ found⟩
      · exact (h ⟨m, openTags, lexemes ++ found⟩).trans
          (congrArg (behind · found) (h ⟨m, openTags, lexemes⟩).symm)
      · exact (h ⟨m, openTags, lexemes ++ found⟩).trans
          (congrArg (behind · found) (h ⟨m, openTags, lexemes⟩).symm)
  | false =>
      cases m with
      | failed e => rfl
      | text content => exact addText_behind _ content found
      | _ => cases hm

/-- What the scanner has found at the end of the text. -/
def result (s : Scanner α) : Scan α where
  lexemes := s.finish.lexemes.reverse
  fault :=
    match s.finish.mode with
    | .failed error => some error
    | _ => none

end Scanner

/-- The same with more lexemes found before. -/
def Scan.behind (scanned : Scan α) (found : List (Lexeme α)) : Scan α :=
  ⟨found ++ scanned.lexemes, scanned.fault⟩

theorem Scanner.result_behind (s : Scanner α) (found : List (Lexeme α)) :
    (s.behind found).result = s.result.behind found.reverse := by
  simp only [result, finish_behind]
  simp [behind, Scan.behind]

/-- What the scanner makes of a text inside some open elements. -/
def scanWithin (openTags : List (List α)) (xs : List α) : Scan α :=
  (Scanner.run ⟨.text [], openTags, []⟩ xs).result

/-- The elements that are open behind a text. -/
def openBehind (before : List α) : List (List α) := (Scanner.run {} (dropMark before)).openTags

/-! ## Byte order marks -/

/-- The text is at its end, or goes on with markup. -/
def MarkupNext (xs : List α) : Prop := ∀ x ∈ xs.head?, is '<' x

/-- Every text has a piece without markup in front. -/
theorem exists_cut (xs : List α) : ∃ more rest, xs = more ++ rest ∧
    (∀ x ∈ more, is '<' x = false) ∧ MarkupNext rest := by
  refine ⟨xs.takeWhile (!is '<' ·), xs.dropWhile (!is '<' ·), List.takeWhile_append_dropWhile.symm,
    ?_, ?_⟩
  · intro x hx
    exact Bool.not_eq_true' _ |>.mp (List.all_eq_true.mp List.all_takeWhile x hx)
  · intro x hx
    have hhead := List.head?_dropWhile_not (!is '<' ·) xs
    rw [Option.mem_def.mp hx] at hhead
    simpa using hhead

omit [DecidableEq α] [TextUnit α] in
theorem prefix_of_cut {mark before xs : List α} {x : α} (hx : x ∉ mark)
    (h : mark <+: before ++ x :: xs) : mark <+: before := by
  rcases List.prefix_or_prefix_of_prefix h (List.prefix_append before (x :: xs)) with hall | hpart
  · exact hall
  · obtain ⟨rest, rfl⟩ := hpart
    cases rest with
    | nil => simp
    | cons y rest =>
        obtain rfl : y = x :=
          (List.cons_prefix_cons.mp ((List.prefix_append_right_inj before).mp h)).1
        simp at hx

/-- What is put behind a text belongs to no mark in front of it, if none is completed. -/
theorem dropMark_append_of {before xs : List α}
    (h : (TextUnit.byteOrderMark : List α) <+: before ++ xs →
      (TextUnit.byteOrderMark : List α) <+: before) :
    dropMark (before ++ xs) = dropMark before ++ xs := by
  by_cases hmark : (TextUnit.byteOrderMark : List α) <+: before
  · have hlonger : (TextUnit.byteOrderMark : List α) <+: before ++ xs :=
      hmark.trans (List.prefix_append before xs)
    simp only [dropMark, List.isPrefixOf_iff_prefix.mpr hmark,
      List.isPrefixOf_iff_prefix.mpr hlonger, if_true]
    exact List.drop_append_of_le_length hmark.length_le
  · have hlonger : ¬ (TextUnit.byteOrderMark : List α) <+: before ++ xs := mt h hmark
    simp only [dropMark, List.isPrefixOf_iff_prefix, hmark, hlonger, if_false]

theorem dropMark_append [LawfulTextUnit α] {before xs : List α} (h : MarkupNext xs) :
    dropMark (before ++ xs) = dropMark before ++ xs := by
  cases xs with
  | nil => rw [List.append_nil, List.append_nil]
  | cons x xs =>
      refine dropMark_append_of (prefix_of_cut ?_)
      rw [is_iff.mp (h x rfl)]
      exact LawfulTextUnit.mark_plain

theorem dropMark_append_of_mem [LawfulTextUnit α] {before : List α}
    (h : TextUnit.ofAscii '<' ∈ before) (xs : List α) :
    dropMark (before ++ xs) = dropMark before ++ xs := by
  obtain ⟨front, behind, rfl⟩ := List.append_of_mem h
  refine dropMark_append_of ?_
  intro hmark
  rw [List.append_assoc, List.cons_append] at hmark
  exact (prefix_of_cut LawfulTextUnit.mark_plain hmark).trans (List.prefix_append _ _)

/-! ## The two parts of a document -/

omit [DecidableEq α] [TextUnit α] in
/-- The lexeme of a text, if it is not empty. -/
def stretch (content : List α) : List (Lexeme α) :=
  if content.isEmpty then [] else [⟨.text content, content⟩]

omit [DecidableEq α] [TextUnit α] in
theorem Scanner.addText_stretch (openTags : List (List α)) (content : List α)
    (found : List (Lexeme α)) :
    Scanner.addText ⟨.text content.reverse, openTags, found⟩ content.reverse =
      behind ⟨.text [], openTags, []⟩ (stretch content ++ found) := by
  cases content with
  | nil => rfl
  | cons x content =>
      have hne : (x :: content).reverse.isEmpty = false := by simp
      simp only [addText, hne, add, behind, stretch, List.reverse_reverse, Bool.false_eq_true,
        if_false, List.isEmpty_cons, List.nil_append, List.singleton_append]

/-- A text is completed where markup begins, or the document ends. -/
theorem Scanner.result_text {xs : List α} (h : MarkupNext xs) (openTags : List (List α))
    (content : List α) (found : List (Lexeme α)) :
    (Scanner.run ⟨.text content.reverse, openTags, found⟩ xs).result =
      (scanWithin openTags xs).behind (found.reverse ++ stretch content) := by
  have hcut : (Scanner.run ⟨.text content.reverse, openTags, found⟩ xs).result =
      (Scanner.run (Scanner.addText ⟨.text content.reverse, openTags, found⟩ content.reverse)
        xs).result := by
    cases xs with
    | nil =>
        simp only [run_nil, result, finish, addText_stretch]
        rfl
    | cons x xs =>
        have hx : is '<' x := h x rfl
        simp only [run_cons, step, hx, if_true, addText_stretch]
        rfl
  have hreverse : (stretch content).reverse = stretch content := by
    unfold stretch
    split <;> rfl
  rw [hcut, addText_stretch, run_behind, result_behind, List.reverse_append, hreverse]
  rfl

theorem scan_eq (xs : List α) : scan xs = (Scanner.run {} (dropMark xs)).result := rfl

/-- Where a text ends outside of markup, its last part is a text, which may be empty. -/
theorem exists_stretch {before : List α} (h : endsOutside before) : ∃ found content,
    Scanner.run {} (dropMark before) = ⟨.text content.reverse, openBehind before, found⟩ ∧
      (scan before).lexemes = found.reverse ++ stretch content := by
  have hmode := h
  simp only [endsOutside] at hmode
  cases hs : (Scanner.run {} (dropMark before)).mode with
  | text content =>
      have hrun : Scanner.run {} (dropMark before) =
          ⟨.text content.reverse.reverse, openBehind before,
            (Scanner.run {} (dropMark before)).lexemes⟩ := by
        rw [List.reverse_reverse, ← hs]
        rfl
      refine ⟨_, content.reverse, hrun, ?_⟩
      have hend : MarkupNext ([] : List α) := by simp [MarkupNext]
      have hresult := Scanner.result_text hend (openBehind before) content.reverse
        (Scanner.run {} (dropMark before)).lexemes
      rw [← hrun] at hresult
      rw [scan_eq, ← Scanner.run_nil (Scanner.run {} (dropMark before)), hresult]
      simp [Scan.behind, scanWithin, Scanner.result, Scanner.finish, Scanner.addText]
  | _ =>
      rw [hs] at hmode
      cases hmode

section

variable [LawfulTextUnit α]

/-- **A document is scanned in two parts**, cut where markup begins. -/
theorem scan_cut {before xs : List α} (h : endsOutside before) (hnext : MarkupNext xs) :
    scan (before ++ xs) = (scanWithin (openBehind before) xs).behind (scan before).lexemes := by
  obtain ⟨found, content, hrun, hlexemes⟩ := exists_stretch h
  rw [scan_eq, dropMark_append hnext, Scanner.run_append, hrun, Scanner.result_text hnext, hlexemes]

/-- More text behind a text makes it longer. -/
theorem scan_stretch {before more : List α} (h : endsOutside before)
    (hmark : TextUnit.ofAscii '<' ∈ before) (hplain : ∀ x ∈ more, is '<' x = false) :
    ∃ found content, (scan before).lexemes = found ++ stretch content ∧
      (scan (before ++ more)).lexemes = found ++ stretch (content ++ more) ∧
      endsOutside (before ++ more) ∧ openBehind (before ++ more) = openBehind before := by
  obtain ⟨found, content, hrun, hlexemes⟩ := exists_stretch h
  have hmore : Scanner.run {} (dropMark (before ++ more)) =
      ⟨.text (content ++ more).reverse, openBehind before, found⟩ := by
    rw [dropMark_append_of_mem hmark, Scanner.run_append, hrun, Scanner.run_text hplain rfl,
      List.reverse_append]
  refine ⟨found.reverse, content, hlexemes, ?_, ?_, ?_⟩
  · have hend : MarkupNext ([] : List α) := by simp [MarkupNext]
    have hresult := Scanner.result_text hend (openBehind before) (content ++ more) found
    rw [scan_eq, hmore, ← Scanner.run_nil (Scanner.mk _ _ _), hresult]
    simp [Scan.behind, scanWithin, Scanner.result, Scanner.finish, Scanner.addText]
  · rw [endsOutside, hmore]
  · rw [openBehind, hmore]

end

theorem scanWithin_stretch {more xs : List α} (hplain : ∀ x ∈ more, is '<' x = false)
    (hnext : MarkupNext xs) (openTags : List (List α)) :
    scanWithin openTags (more ++ xs) = (scanWithin openTags xs).behind (stretch more) := by
  rw [scanWithin, Scanner.run_append, Scanner.run_text hplain rfl, List.append_nil,
    Scanner.result_text hnext]
  rfl

/-- Behind a row that ends in markup nothing is pending. -/
theorem Spelled.scanWithin {ls : List (Lexeme α)} {l : Lexeme α} (h : Spelled (ls ++ [l]))
    (hl : l.token.isText = false) {openTags inside : List (List α)}
    (hnest : nestAll openTags ((ls ++ [l]).map (·.token)) = some inside) (xs : List α) :
    scanWithin openTags (sources (ls ++ [l]) ++ xs) =
      (Markup.scanWithin inside xs).behind (ls ++ [l]) := by
  obtain ⟨hls, hlast⟩ := h.of_append
  rw [List.map_append, nestAll_append] at hnest
  obtain ⟨tags, htags, hend⟩ := Option.bind_eq_some_iff.mp hnest
  obtain ⟨inside', hinside, hnil⟩ := Option.bind_eq_some_iff.mp hend
  obtain rfl := Option.some.inj hnil
  obtain ⟨rest, hmode, hrun⟩ :=
    hls.run (s := ⟨.text [], openTags, []⟩) rfl (.inl rfl) htags
  cases hlast.each l List.mem_cons_self with
  | stretch htoken _ _ =>
      rw [htoken] at hl
      cases hl
  | markup _ _ hread =>
      have hall : Scanner.run ⟨.text [], openTags, []⟩ (sources (ls ++ [l])) =
          Scanner.behind ⟨.text [], inside', []⟩ (ls ++ [l]).reverse := by
        rw [sources_append, Scanner.run_append, sources_cons, sources_nil, List.append_nil,
          hread _ rest hmode, hrun, Scanner.put_eq hinside]
        simp [Scanner.behind, Scanner.addText]
      rw [Markup.scanWithin, Scanner.run_append, hall, Scanner.run_behind, Scanner.result_behind,
        List.reverse_reverse]
      rfl

/-- An element stands for itself wherever it is put. -/
theorem scanWithin_element {p : Passage α} (hp : p.isElement) (h : Spelled p.lexemes)
    (openTags : List (List α)) (xs : List α) :
    scanWithin openTags (p.text ++ xs) = (scanWithin openTags xs).behind p.lexemes := by
  have hnest := nestAll_lexemes openTags p
  cases p with
  | between l plain => cases hp
  | empty tag source =>
      have hone : Spelled ([] ++ [⟨.empty tag, source⟩]) := h
      exact hone.scanWithin rfl hnest xs
  | element tag opening content closing =>
      have hall : Spelled (⟨.start tag, opening⟩ :: lexemesOf content ++
        [⟨.stop (tagName tag), closing⟩]) := h
      exact hall.scanWithin rfl hnest xs

/-- A lexeme is a text, or begins with a bracket. -/
theorem markupNext_spelled {l : Lexeme α} (h : l.IsSpelled) (hl : l.token.isText = false)
    (xs : List α) : MarkupNext (l.source ++ xs) := by
  cases h with
  | stretch htoken _ _ =>
      rw [htoken] at hl
      cases hl
  | markup _ hbrackets _ =>
      obtain ⟨inner, hinner⟩ := hbrackets
      intro x hx
      rw [hinner] at hx
      exact is_iff.mpr (Option.some.inj hx).symm

theorem markupNext_element {p : Passage α} (hp : p.isElement) (h : Spelled p.lexemes)
    (xs : List α) :
    MarkupNext (p.text ++ xs) := by
  obtain ⟨l, ls, hlexemes, hl⟩ : ∃ l ls, p.lexemes = l :: ls ∧ l.token.isText = false := by
    cases p with
    | between l plain => cases hp
    | empty tag source => exact ⟨_, [], rfl, rfl⟩
    | element tag opening content closing => exact ⟨_, _, rfl, rfl⟩
  rw [hlexemes] at h
  rw [Passage.text, hlexemes, sources_cons, List.append_assoc]
  exact markupNext_spelled (h.each l List.mem_cons_self) hl _

/-! ## Instructions with brackets -/

/-- An instruction is gathered up to the next bracket. -/
theorem Scanner.run_instruction {content : List α} (hplain : ∀ x ∈ content, is '>' x = false)
    {s : Scanner α} {before : List α} (hmode : s.mode = .instruction before) :
    s.run content = { s with mode := .instruction (content.reverse ++ before) } := by
  induction content generalizing s before with
  | nil =>
      show s = _
      rw [List.reverse_nil, List.nil_append, ← hmode]
  | cons x content ih =>
      obtain ⟨hx, hcontent⟩ := List.forall_mem_cons.mp hplain
      have hstep : s.step x = { s with mode := .instruction (x :: before) } := by
        simp only [step, hmode, hx, if_false, Bool.false_eq_true]
      rw [run_cons, hstep, ih hcontent rfl, List.reverse_cons, List.append_assoc]
      rfl

/-- Without a question mark in front of the bracket, it is none. -/
theorem Scanner.addInstruction_open {content : List α}
    (hlast : ∀ x ∈ content.head?, is '?' x = false) (s : Scanner α) (closing : List α) :
    s.addInstruction content closing = s.fail .unclosedInstruction := by
  cases content with
  | nil => rfl
  | cons mark before =>
      have hmark : is '?' mark = false := hlast mark rfl
      simp only [addInstruction, hmark, Bool.false_and, if_false, Bool.false_eq_true]

theorem markupNext_instruction (xs : List α) : MarkupNext (ascii "<?" ++ xs) := by
  intro x hx
  exact is_iff.mpr (Option.some.inj hx).symm

section

variable [LawfulTextUnit α]

/-- A question mark behind an opening bracket begins an instruction. -/
theorem Scanner.run_beginInstruction (openTags : List (List α)) :
    Scanner.run ⟨.text [], openTags, []⟩ (ascii "<?" : List α) =
      ⟨.instruction [], openTags, []⟩ := by
  have hbracket : is '<' (TextUnit.ofAscii '<' : α) = true := is_iff.mpr rfl
  have hmark : is '?' (TextUnit.ofAscii '?' : α) = true := is_iff.mpr rfl
  have hbang : is '!' (TextUnit.ofAscii '?' : α) = false :=
    is_ofAscii (by decide) (by decide) (by decide)
  have hslash : is '/' (TextUnit.ofAscii '?' : α) = false :=
    is_ofAscii (by decide) (by decide) (by decide)
  show step (step _ (TextUnit.ofAscii '<')) (TextUnit.ofAscii '?') = _
  simp only [step, hbracket, if_true, addText, List.isEmpty_nil, beginMarkup, hbang, hslash, hmark,
    if_false, Bool.false_eq_true]

/-- **An instruction that holds a bracket is a fault**, since it is taken to end there. -/
theorem scanWithin_instruction {content : List α} (hplain : ∀ x ∈ content, is '>' x = false)
    (hlast : ∀ x ∈ content.getLast?, is '?' x = false) (openTags : List (List α))
    (after : List α) :
    (scanWithin openTags (ascii "<?" ++ (content ++ ascii ">" ++ after))).fault =
      some .unclosedInstruction := by
  have hfault : Scanner.run ⟨.instruction content.reverse, openTags, []⟩ (ascii ">") =
      Scanner.fail ⟨.instruction content.reverse, openTags, []⟩ .unclosedInstruction := by
    have hclose : is '>' (TextUnit.ofAscii '>' : α) = true := is_iff.mpr rfl
    rw [Scanner.ascii_close hclose, Scanner.run_cons, Scanner.run_nil]
    simp only [Scanner.step, hclose, if_true]
    exact Scanner.addInstruction_open (by rwa [List.head?_reverse]) _ _
  rw [scanWithin, Scanner.run_append, Scanner.run_beginInstruction, Scanner.run_append,
    Scanner.run_append, Scanner.run_instruction hplain rfl, List.append_nil, hfault,
    Scanner.run_failed rfl]
  rfl

end

end SoapBindings.Markup
