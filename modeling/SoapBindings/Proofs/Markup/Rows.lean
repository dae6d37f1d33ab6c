/-
# `SoapBindings.Proofs.Markup.Rows` — the lexemes of a whole text

Wherever the scanner stands, what it has read is a row of lexemes that can be read again, and what
its mode holds (`Reached`).  The end of the text adds one lexeme at most, and that one is completed
by nothing but the end: behind more text it would not be what it is.  A text that ends outside of
markup is free of that (`scan_of_endsOutside`).
-/
import SoapBindings.Proofs.Markup.Scanning

namespace SoapBindings.Markup

variable {α : Type} [DecidableEq α] [TextUnit α]

/-! ## What the scanner has read -/

omit [DecidableEq α] in
theorem Mode.pending_bracket {m : Mode α} (hm : m.isMarkup) :
    ∃ inner, m.pending = ascii "<" ++ inner := by
  cases m with
  | text _ | failed _ => cases hm
  | opened => exact ⟨[], rfl⟩
  | declaration => exact ⟨ascii "!", rfl⟩
  | tag quote content => exact ⟨content.reverse, rfl⟩
  | endTag content => exact ⟨ascii "/" ++ content.reverse, rfl⟩
  | instruction content => exact ⟨ascii "?" ++ content.reverse, rfl⟩
  | comment content | cdata content | doctype _ content => exact ⟨ascii "!" ++ content.reverse, rfl⟩

/-- Where the scanner is behind some units: they are what its lexemes were read from, and what its
mode holds. -/
inductive Reached : List α → Scanner α → Prop
  | text {ls openTags content} (hls : Spelled ls)
      (hnest : nestAll [] (ls.map (·.token)) = some openTags)
      (hend : ∀ l ∈ ls.getLast?, l.token.isText = false)
      (hplain : ∀ x ∈ content, is '<' x = false) :
      Reached (sources ls ++ content.reverse) ⟨.text content, openTags, ls.reverse⟩
  | markup {ls openTags m} (hls : Spelled ls)
      (hnest : nestAll [] (ls.map (·.token)) = some openTags)
      (hm : m.isMarkup) (hstands : m.Stands) :
      Reached (sources ls ++ m.pending) ⟨m, openTags, ls.reverse⟩
  | failed {ls openTags e} (hls : Spelled ls)
      (hnest : nestAll [] (ls.map (·.token)) = some openTags)
      (rest : List α) : Reached (sources ls ++ rest) ⟨.failed e, openTags, ls.reverse⟩

/-- A text that has been gathered can be completed. -/
theorem Spelled.addText {ls : List (Lexeme α)} (h : Spelled ls) {openTags : List (List α)}
    (hnest : nestAll [] (ls.map (·.token)) = some openTags)
    (hend : ∀ l ∈ ls.getLast?, l.token.isText = false) {content : List α}
    (hplain : ∀ x ∈ content, is '<' x = false) (m : Mode α) : ∃ ms, Spelled ms ∧
      nestAll [] (ms.map (·.token)) = some openTags ∧ sources ms = sources ls ++ content.reverse ∧
      Scanner.addText ⟨m, openTags, ls.reverse⟩ content =
        ⟨if content = [] then m else .text [], openTags, ms.reverse⟩ := by
  rcases content with _ | ⟨x, content⟩
  · exact ⟨ls, h, hnest, (List.append_nil _).symm, rfl⟩
  · refine ⟨ls ++ [⟨.text (x :: content).reverse, (x :: content).reverse⟩], ?_, ?_, ?_, ?_⟩
    · refine h.append ⟨?_, .singleton _⟩ ?_
      · intro l hl
        obtain rfl := List.mem_singleton.mp hl
        exact .stretch rfl (by simp) fun y hy => hplain y (List.mem_reverse.mp hy)
      · intro l hl m _ htext
        rw [hend l hl] at htext
        cases htext
    · rw [List.map_append, nestAll_append, hnest]
      rfl
    · simp
    · simp [Scanner.addText, Scanner.add]

/-- A lexeme of markup that has been completed goes behind the others. -/
theorem Reached.put {ls : List (Lexeme α)} (h : Spelled ls) {openTags : List (List α)}
    (hnest : nestAll [] (ls.map (·.token)) = some openTags) (m : Mode α) {l : Lexeme α}
    (hl : l.IsSpelled) (htext : l.token.isText = false) :
    Reached (sources ls ++ l.source) (Scanner.put ⟨m, openTags, ls.reverse⟩ l) := by
  cases hnext : nest openTags l.token with
  | none =>
      simp only [Scanner.put, hnext]
      exact .failed h hnest l.source
  | some tags =>
      have hrow : Spelled (ls ++ [l]) := by
        refine h.append ⟨by simpa using hl, .singleton _⟩ ?_
        intro _ _ k hk _
        obtain rfl := Option.some.inj hk
        exact htext
      have htags : nestAll [] ((ls ++ [l]).map (·.token)) = some tags := by
        simp [hnest, hnext]
      have hend : ∀ k ∈ (ls ++ [l]).getLast?, k.token.isText = false := by simpa using htext
      have hreached := Reached.text hrow htags hend (List.forall_mem_nil _)
      simp only [Scanner.put, hnext]
      simpa using hreached

theorem Reached.step {xs : List α} {s : Scanner α} (h : Reached xs s) (x : α) :
    Reached (xs ++ [x]) (s.step x) := by
  cases h with
  | failed hls hnest rest =>
      rw [List.append_assoc]
      exact .failed hls hnest (rest ++ [x])
  | @text ls openTags content hls hnest hend hplain =>
      by_cases hopen : is '<' x
      · obtain ⟨ms, hms, htags, hsources, htext⟩ := hls.addText hnest hend hplain (.text content)
        have hstands : Mode.Stands (.opened : Mode α) := by
          intro s content hmode
          show s.step (TextUnit.ofAscii '<') = _
          simp only [Scanner.step, hmode]
          rw [if_pos (is_iff.mpr rfl)]
        have hreached := Reached.markup hms htags rfl hstands
        rw [hsources] at hreached
        simp only [Scanner.step, hopen, if_true, htext]
        simpa [Mode.pending, ascii, is_iff.mp hopen] using hreached
      · have hplain : ∀ y ∈ x :: content, is '<' y = false :=
          List.forall_mem_cons.mpr ⟨Bool.eq_false_iff.mpr hopen, hplain⟩
        have hreached := Reached.text hls hnest hend hplain
        simp only [Scanner.step, hopen, if_false, Bool.false_eq_true]
        simpa using hreached
  | @markup ls openTags m hls hnest hm hstands =>
      have hon : ∀ (s : Scanner α) (content : List α), s.mode = .text content →
          s.run (m.pending ++ [x]) = Scanner.step { s.addText content with mode := m } x := by
        intro s content hmode
        rw [Scanner.run_append, hstands s content hmode]
        rfl
      cases Scanner.step_outcome hm x with
      | on next hmarkup hpending h =>
          have hnext : next.Stands := by
            intro s content hmode
            rw [hpending, hon s content hmode, h]
          rw [List.append_assoc, ← hpending]
          rw [show Scanner.step _ x = _ from h ⟨m, openTags, ls.reverse⟩]
          exact .markup hls hnest hmarkup hnext
      | complete token hclose htext h =>
          rw [List.append_assoc, show Scanner.step _ x = _ from h ⟨m, openTags, ls.reverse⟩]
          refine Reached.put hls hnest m (l := ⟨token, m.pending ++ [x]⟩)
            (.markup htext ?_ ?_) htext
          · obtain ⟨inner, hinner⟩ := m.pending_bracket hm
            refine ⟨inner, ?_⟩
            rw [hinner, Scanner.ascii_close hclose]
          · intro s content hmode
            rw [hon s content hmode, h]
      | fault e h =>
          rw [List.append_assoc, show Scanner.step _ x = _ from h ⟨m, openTags, ls.reverse⟩]
          exact .failed hls hnest (m.pending ++ [x])

theorem Reached.run {xs : List α} {s : Scanner α} (h : Reached xs s) (ys : List α) :
    Reached (xs ++ ys) (s.run ys) := by
  induction ys generalizing xs s with
  | nil => simpa using h
  | cons y ys ih =>
      have := ih (h.step y)
      rwa [List.append_assoc] at this

theorem reached (xs : List α) : Reached xs (Scanner.run {} xs) := by
  have hstart : Reached ([] : List α) {} :=
    .text .nil rfl (by simp) (List.forall_mem_nil _)
  exact hstart.run xs

/-! ## What the scanner makes of a document -/

/-- Behind the text no markup is open that the end of the text would have to close. -/
def endsOutside (cs : List α) : Bool :=
  match (Scanner.run {} (dropMark cs)).mode with
  | .text _ => true
  | _ => false

/-- What the end of the text makes of markup that has begun: a lexeme all the same, nothing, or a
fault. -/
theorem Scanner.finish_markup {m : Mode α} (hm : m.isMarkup) :
    (∃ token, ∀ s : Scanner α, finish { s with mode := m } = s.put ⟨token, m.pending⟩) ∨
    (∀ s : Scanner α, finish { s with mode := m } = { s with mode := m }) ∨
    ∃ e, ∀ s : Scanner α, finish { s with mode := m } = s.fail e := by
  cases m with
  | text _ | failed _ => cases hm
  | opened => exact .inr (.inl fun s => rfl)
  | endTag content =>
      refine .inl ⟨.stop (endName content), ?_⟩
      intro s
      simp only [finish, addEndTag_eq_put, List.append_nil]
      rfl
  | instruction content =>
      rcases addInstruction_eq content [] with ⟨kept, hkept⟩ | hfail
      · refine .inl ⟨.instruction kept, ?_⟩
        intro s
        simp only [finish, hkept, List.append_nil]
        rfl
      · exact .inr (.inr ⟨_, fun s => hfail _⟩)
  | tag _ _ | declaration | comment _ | cdata _ | doctype _ _ => exact .inr (.inr ⟨_, fun s => rfl⟩)

/-- A lexeme goes behind the others, or is left out because it does not match. -/
theorem Scanner.put_row {ls : List (Lexeme α)} {openTags : List (List α)}
    (hnest : nestAll [] (ls.map (·.token)) = some openTags) (m : Mode α) (l : Lexeme α) :
    ∃ ms, (put ⟨m, openTags, ls.reverse⟩ l).lexemes = ms.reverse ∧ (ms = ls ++ [l] ∨ ms = ls) ∧
      nestAll [] (ms.map (·.token)) = some (put ⟨m, openTags, ls.reverse⟩ l).openTags := by
  cases hnext : nest openTags l.token with
  | none =>
      simp only [put, hnext]
      exact ⟨ls, rfl, .inr rfl, hnest⟩
  | some tags =>
      simp only [put, hnext]
      refine ⟨ls ++ [l], by simp, .inl rfl, ?_⟩
      simp [hnest, hnext]

/-- The end of the text completes one lexeme at most. -/
theorem Reached.finish {xs : List α} {s : Scanner α} (h : Reached xs s) : ∃ ls rest,
    s.finish.lexemes = ls.reverse ∧ xs = sources ls ++ rest ∧ Spelled ls.dropLast ∧
      nestAll [] (ls.map (·.token)) = some s.finish.openTags := by
  cases h with
  | failed hls hnest rest =>
      exact ⟨_, rest, rfl, rfl, hls.of_prefix (List.dropLast_prefix _), hnest⟩
  | @text ls openTags content hls hnest hend hplain =>
      obtain ⟨ms, hms, htags, hsources, htext⟩ := hls.addText hnest hend hplain (.text content)
      simp only [Scanner.finish, htext]
      exact ⟨ms, [], rfl, by simp [hsources], hms.of_prefix (List.dropLast_prefix ms), htags⟩
  | @markup ls openTags m hls hnest hm hstands =>
      have hdrop := hls.of_prefix (List.dropLast_prefix ls)
      rcases Scanner.finish_markup hm with ⟨token, hput⟩ | hkeep | ⟨e, hfail⟩
      · have hput := hput ⟨m, openTags, ls.reverse⟩
        obtain ⟨ms, hlexemes, hrow, htags⟩ :=
          Scanner.put_row hnest m (l := ⟨token, m.pending⟩)
        rw [← hput] at hlexemes htags
        rcases hrow with rfl | rfl
        · exact ⟨_, [], hlexemes, by simp, by simpa using hls, htags⟩
        · exact ⟨_, m.pending, hlexemes, rfl, hdrop, htags⟩
      · rw [show Scanner.finish _ = _ from hkeep ⟨m, openTags, ls.reverse⟩]
        exact ⟨ls, m.pending, rfl, rfl, hdrop, hnest⟩
      · rw [show Scanner.finish _ = _ from hfail ⟨m, openTags, ls.reverse⟩]
        exact ⟨ls, m.pending, rfl, rfl, hdrop, hnest⟩

/-- **The scanner loses nothing and invents nothing**: what its lexemes were read from is how the
text begins, the tags among them match, and all but the last could stand anywhere. -/
theorem scan_row (cs : List α) : ∃ rest openTags,
    dropMark cs = sources (scan cs).lexemes ++ rest ∧ Spelled (scan cs).lexemes.dropLast ∧
      nestAll [] ((scan cs).lexemes.map (·.token)) = some openTags := by
  obtain ⟨ls, rest, hlexemes, hsources, hspelled, hnest⟩ := (reached (dropMark cs)).finish
  have hrow : (scan cs).lexemes = ls := by
    rw [← List.reverse_reverse ls, ← hlexemes]
    rfl
  rw [hrow]
  exact ⟨rest, _, hsources, hspelled, hnest⟩

/-- A text without a fault that does not end outside of markup: its last markup is completed by the
end of the text, if it is completed at all. -/
theorem exists_unfinished {cs : List α} (hfault : (scan cs).fault = none) (h : ¬ endsOutside cs) :
    ∃ (ls : List (Lexeme α)) (openTags : List (List α)) (m : Mode α),
      dropMark cs = sources ls ++ m.pending ∧ Spelled ls ∧
        nestAll [] (ls.map (·.token)) = some openTags ∧ m.Stands ∧
        (m = .opened ∨ (∃ content outer, m = .endTag content ∧
          openTags = Scanner.endName content :: outer) ∨ ∃ content, m = .instruction content) := by
  have hreached := reached (dropMark cs)
  simp only [endsOutside] at h
  simp only [scan] at hfault
  generalize Scanner.run {} (dropMark cs) = s at h hfault hreached
  generalize dropMark cs = xs at hreached
  cases hreached with
  | text => exact absurd rfl h
  | failed => cases hfault
  | @markup ls openTags m hls hnest hm hstands =>
      refine ⟨ls, openTags, m, rfl, hls, hnest, hstands, ?_⟩
      cases m with
      | opened => exact .inl rfl
      | instruction content => exact .inr (.inr ⟨content, rfl⟩)
      | endTag content =>
          -- The end tag matches, or the end of the text would be a fault.
          refine .inr (.inl ⟨content, ?_⟩)
          simp only [Scanner.finish, Scanner.addEndTag_eq_put, Scanner.put] at hfault
          cases hnext : nest openTags (.stop (Scanner.endName content)) with
          | none =>
              rw [hnext] at hfault
              cases hfault
          | some outer => exact ⟨outer, rfl, nest_stop_eq_some hnext⟩
      | text _ | failed _ => cases hm
      | tag _ _ | declaration | comment _ | cdata _ | doctype _ _ => cases hfault

/-- A text that ends outside of markup is what its lexemes were read from, and they could stand
anywhere. -/
theorem scan_of_endsOutside {cs : List α} (h : endsOutside cs) :
    Spelled (scan cs).lexemes ∧ sources (scan cs).lexemes = dropMark cs ∧
      (scan cs).fault = none := by
  have hreached := reached (dropMark cs)
  simp only [endsOutside] at h
  generalize hs : Scanner.run {} (dropMark cs) = s at h hreached
  generalize hxs : dropMark cs = xs at hreached
  cases hreached with
  | failed => cases h
  | @markup _ _ m _ _ hm =>
      cases m with
      | text _ => cases hm
      | _ => cases h
  | @text ls openTags content hls hnest hend hplain =>
      obtain ⟨ms, hms, htags, hsources, htext⟩ := hls.addText hnest hend hplain (.text content)
      have hscan : scan cs = ⟨ms, none⟩ := by
        simp only [scan, hs, Scanner.finish, htext, List.reverse_reverse]
        split <;> simp_all
      rw [hscan]
      exact ⟨hms, by rw [hsources], rfl⟩

end SoapBindings.Markup
