/-
# `SoapBindings.Proofs.Markup.Sources` — what tags look like where they are read

A start tag and a tag that is both are read from the one text that they are written as.  An end tag
may have white space behind its name, or lack its bracket at the end of the text, but it begins as
end tags do (`isFormed_of_scan`).
-/
import SoapBindings.Proofs.Markup.Scanning

namespace SoapBindings.Markup

variable {α : Type} [DecidableEq α] [TextUnit α]

/-- The source of a tag is how that kind of tag is written. -/
def Lexeme.IsFormed (l : Lexeme α) : Prop :=
  match l.token with
  | .start _ | .empty _ => l.source = l.token.render
  | .stop _ => ∃ inner, l.source = ascii "</" ++ inner
  | _ => True

namespace Scanner

/-- The tags among the lexemes are formed like tags. -/
def TagsFormed (s : Scanner α) : Prop := ∀ l ∈ s.lexemes, l.IsFormed

namespace TagsFormed

variable {s : Scanner α}

omit [DecidableEq α] in
theorem add (h : s.TagsFormed) {token : Token α} {source : List α}
    (hl : (⟨token, source⟩ : Lexeme α).IsFormed) : (s.add token source).TagsFormed :=
  List.forall_mem_cons.mpr ⟨hl, h⟩

omit [DecidableEq α] in
theorem addText (h : s.TagsFormed) (content : List α) : (s.addText content).TagsFormed := by
  unfold Scanner.addText
  split
  · exact h
  · exact h.add trivial

theorem addTag (h : s.TagsFormed) (content : List α) : (s.addTag content).TagsFormed := by
  unfold Scanner.addTag
  rcases content with _ | ⟨last, content⟩
  · exact h.add rfl
  dsimp only
  split
  · rename_i hslash
    refine h.add ?_
    show _ = (Token.empty content.reverse).render
    simp [Token.render, ascii, is_iff.mp hslash]
  · exact h.add rfl

theorem addEndTag (h : s.TagsFormed) (content closing : List α) :
    (s.addEndTag content closing).TagsFormed := by
  rw [addEndTag_eq_put, put]
  split
  · exact List.forall_mem_cons.mpr ⟨⟨_, List.append_assoc ..⟩, h⟩
  · exact h

theorem addInstruction (h : s.TagsFormed) (content closing : List α) :
    (s.addInstruction content closing).TagsFormed := by
  unfold Scanner.addInstruction
  repeat' split
  all_goals first | exact h.add trivial | exact h

theorem beginMarkup (h : s.TagsFormed) (x : α) : (s.beginMarkup x).TagsFormed := by
  unfold Scanner.beginMarkup
  repeat' split
  all_goals first | exact h.addTag _ | exact h

theorem step (h : s.TagsFormed) (x : α) : (s.step x).TagsFormed := by
  unfold Scanner.step
  split
  · split
    · exact h.addText _
    · exact h
  · exact h.beginMarkup x
  · exact h
  · repeat' split
    all_goals first | exact h.addTag _ | exact h
  · split
    · exact h.addEndTag _ _
    · exact h
  · split
    · exact h.addInstruction _ _
    · exact h
  · unfold beginDeclaration
    repeat' split
    all_goals exact h
  -- What is left is no tag.
  · unfold closeComment
    dsimp only
    repeat' split
    all_goals first | exact h.add trivial | exact h
  · unfold closeCData
    dsimp only
    repeat' split
    all_goals first | exact h.add trivial | exact h
  · unfold closeDoctype
    dsimp only
    repeat' split
    all_goals first | exact h.add trivial | exact h
  · exact h

theorem run (h : s.TagsFormed) (xs : List α) : (s.run xs).TagsFormed := by
  induction xs generalizing s with
  | nil => exact h
  | cons x xs ih => exact ih (h.step x)

theorem finish (h : s.TagsFormed) : s.finish.TagsFormed := by
  unfold Scanner.finish
  split
  · exact h.addText _
  · exact h
  · exact h
  · exact h.addEndTag _ _
  · exact h.addInstruction _ _
  all_goals exact h

end TagsFormed

end Scanner

/-- **The tags of a document stand in it as tags are written**, whatever document it is. -/
theorem isFormed_of_scan {xs : List α} {l : Lexeme α} (hl : l ∈ (scan xs).lexemes) :
    l.IsFormed := by
  have hstart : Scanner.TagsFormed ({} : Scanner α) := by simp [Scanner.TagsFormed]
  exact (hstart.run (dropMark xs)).finish l (List.mem_reverse.mp hl)

end SoapBindings.Markup
