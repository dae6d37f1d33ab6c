/-
# `SoapBindings.Proofs.Markup.Attributes` — one attribute more in a tag

The reader of attributes goes over a tag once, and all that it remembers of the attributes behind it
is their keys.  So an attribute that is put between two others is read where it stands, and the
others are read as before, if its key is new to the tag (`attributes_insert`).  To the scanner it is
a tag all the same, since an attribute closes the quotes that it opens (`isTagContent_insert`).
-/
import SoapBindings.Markup.Attribute
import SoapBindings.Proofs.Markup.Tags

namespace SoapBindings.Markup

variable {α : Type} [DecidableEq α] [TextUnit α]

/-! ## Attributes as they are written -/

/-- An attribute with its quotes, the white space in front of it,
and that around its equals sign. -/
structure WrittenAttribute (α : Type) where
  lead : List α
  key : List α
  beforeEquals : List α := []
  behindEquals : List α := []
  quote : α
  value : List α

namespace WrittenAttribute

def text (w : WrittenAttribute α) : List α :=
  w.lead ++ (w.key ++ (w.beforeEquals ++ TextUnit.ofAscii '=' ::
    (w.behindEquals ++ w.quote :: (w.value ++ [w.quote]))))

def toAttribute (w : WrittenAttribute α) : Attribute α := ⟨w.key, w.value⟩

structure IsWellFormed (w : WrittenAttribute α) : Prop where
  apart : w.lead ≠ []
  lead : w.lead.all isSpace
  named : w.key ≠ []
  key : w.key.all fun x => !(isSpace x || is '=' x || is '>' x || isQuote x)
  beforeEquals : w.beforeEquals.all isSpace
  behindEquals : w.behindEquals.all isSpace
  quote : isQuote w.quote
  value : w.quote ∉ w.value

theorem IsWellFormed.key_plain {w : WrittenAttribute α} (hw : w.IsWellFormed) {x : α}
    (hx : x ∈ w.key) :
    isSpace x = false ∧ is '=' x = false ∧ is '>' x = false ∧ isQuote x = false := by
  simpa [and_assoc] using List.all_eq_true.mp hw.key x hx

end WrittenAttribute

/-! ## The reader of attributes -/

/-- The keys of a tag. -/
def attributeKeys (tag : List α) : List (List α) :=
  ((tagRest tag).foldl AttributeReader.step {}).keys

/-- A place in a tag between its attributes, in front of the first one, or behind the last. -/
structure Between (front back : List α) : Prop where
  gap : ((tagRest front).foldl AttributeReader.step {}).mode = .gap
  closed : quoteBehind none front = some none
  apart : front.any isSpace ∨ back.head?.all isSpace

section

variable {front back : List α} (h : front.any isSpace ∨ back.head?.all isSpace)
include h

/-- What stands behind a place in a tag is no part of its name. -/
theorem tagRest_append : tagRest (front ++ back) = tagRest front ++ back := by
  rw [tagRest, List.dropWhile_append]
  split
  · rename_i hempty
    have hfront : front.dropWhile (!isSpace ·) = [] := List.isEmpty_iff.mp hempty
    have hback : back.head?.all isSpace := by
      rcases h with hspace | hback
      · obtain ⟨x, hx, hspace⟩ := List.any_eq_true.mp hspace
        have hplain := List.dropWhile_eq_nil_iff.mp hfront x hx
        simp [hspace] at hplain
      · exact hback
    rw [tagRest, hfront]
    cases back with
    | nil => rfl
    | cons x back =>
        have hx : isSpace x := hback
        simp [hx]
  · rfl

theorem tagName_append : tagName (front ++ back) = tagName front := by
  have hall (xs : List α) : tagName xs ++ tagRest xs = xs := List.takeWhile_append_dropWhile
  have hboth : tagName (front ++ back) ++ tagRest (front ++ back) =
      tagName front ++ tagRest (front ++ back) := by
    rw [hall, tagRest_append h, ← List.append_assoc, hall]
  exact List.append_cancel_right hboth

end

namespace AttributeReader

variable {keys : List (List α)} {found : List (Except AttributeFault (Attribute α))} {xs : List α}

/-- Where white space does not count, any amount of it does not. -/
theorem foldl_spaces {r : AttributeReader α} (hr : ∀ x, isSpace x → r.step x = r)
    (h : xs.all isSpace) : xs.foldl step r = r := by
  induction xs with
  | nil => rfl
  | cons x xs ih =>
      obtain ⟨hx, hxs⟩ := Bool.and_eq_true_iff.mp h
      rw [List.foldl_cons, hr x hx]
      exact ih hxs

theorem foldl_key (h : ∀ x ∈ xs, isSpace x = false ∧ is '=' x = false) (name : List α) :
    xs.foldl step ⟨.key name, keys, found⟩ = ⟨.key (xs.reverse ++ name), keys, found⟩ := by
  induction xs generalizing name with
  | nil => rfl
  | cons x xs ih =>
      obtain ⟨⟨hspace, hequals⟩, hxs⟩ := List.forall_mem_cons.mp h
      simp only [List.foldl_cons, step, hequals, hspace, if_false, Bool.false_eq_true]
      rw [ih hxs]
      simp

theorem foldl_value {quote : α} (h : quote ∉ xs) (name content : List α) :
    xs.foldl step ⟨.value name quote content, keys, found⟩ =
      ⟨.value name quote (xs.reverse ++ content), keys, found⟩ := by
  induction xs generalizing content with
  | nil => rfl
  | cons x xs ih =>
      obtain ⟨hx, hxs⟩ := not_or.mp (mt List.mem_cons.mpr h)
      simp only [List.foldl_cons, step, Ne.symm hx, if_false]
      rw [ih hxs]
      simp

section

variable [LawfulTextUnit α]

/-- A key that is new to the tag ends at the equals sign, with or without white space between. -/
theorem foldl_equals (h : xs.all isSpace) {name : List α} (hnew : name.reverse ∉ keys) :
    (xs ++ [TextUnit.ofAscii '=']).foldl step ⟨.key name, keys, found⟩ =
      ⟨.behindEquals name.reverse, name.reverse :: keys, found⟩ := by
  have hequals : is '=' (TextUnit.ofAscii '=' : α) = true := is_iff.mpr rfl
  have hclose (mode : AttributeMode α) : closeKey ⟨mode, keys, found⟩ name =
      ⟨.behindEquals name.reverse, name.reverse :: keys, found⟩ := by
    simp [closeKey, hnew]
  cases xs with
  | nil => simp [step, hequals, hclose]
  | cons x xs =>
      obtain ⟨hx, hxs⟩ := Bool.and_eq_true_iff.mp h
      have hspace : isSpace (TextUnit.ofAscii '=' : α) = false := by
        rw [Bool.eq_false_iff]
        intro hspace
        have hother := isSpace_other (c := '=') (by decide) (by decide) hspace
        simp [hequals] at hother
      have hbehind : step ⟨.key name, keys, found⟩ x = ⟨.behindKey name, keys, found⟩ := by
        simp [step, isSpace_other (c := '=') (by decide) (by decide) hx, hx]
      rw [List.cons_append, List.foldl_cons, hbehind, List.foldl_append,
        foldl_spaces (fun y hy => by simp [step, hy]) hxs]
      simp [step, hspace, hequals, hclose]

theorem isSpace_quote {x : α} (h : isQuote x) : isSpace x = false := by
  rw [Bool.eq_false_iff]
  intro hspace
  have hsingle := isSpace_other (c := '\'') (by decide) (by decide) hspace
  have hdouble := isSpace_other (c := '"') (by decide) (by decide) hspace
  simp [isQuote, hsingle, hdouble] at h

/-- **An attribute is read as it is written**, between any others. -/
theorem foldl_text {w : WrittenAttribute α} (hw : w.IsWellFormed) (hnew : w.key ∉ keys) :
    w.text.foldl step ⟨.gap, keys, found⟩ = ⟨.gap, w.key :: keys, .ok w.toAttribute :: found⟩ := by
  have hlead : w.lead.foldl step ⟨.gap, keys, found⟩ = ⟨.gap, keys, found⟩ :=
    foldl_spaces (fun x hx => by simp [step, hx]) hw.lead
  have hkey : w.key.foldl step ⟨.gap, keys, found⟩ = ⟨.key w.key.reverse, keys, found⟩ := by
    obtain ⟨x, rest, hrest⟩ := List.exists_cons_of_ne_nil hw.named
    have hplain : ∀ y ∈ x :: rest, isSpace y = false ∧ is '=' y = false := by
      intro y hy
      rw [← hrest] at hy
      exact ⟨(hw.key_plain hy).1, (hw.key_plain hy).2.1⟩
    obtain ⟨hx, hplain⟩ := List.forall_mem_cons.mp hplain
    have hbegin : step ⟨.gap, keys, found⟩ x = ⟨.key [x], keys, found⟩ := by simp [step, hx]
    rw [hrest, List.foldl_cons, hbegin, foldl_key hplain, List.reverse_cons]
  have hequals : (w.beforeEquals ++ [TextUnit.ofAscii '=']).foldl step
      ⟨.key w.key.reverse, keys, found⟩ = ⟨.behindEquals w.key, w.key :: keys, found⟩ := by
    rw [foldl_equals hw.beforeEquals (by simpa using hnew), List.reverse_reverse]
  have hbehind : w.behindEquals.foldl step ⟨.behindEquals w.key, w.key :: keys, found⟩ =
      ⟨.behindEquals w.key, w.key :: keys, found⟩ :=
    foldl_spaces (fun x hx => by simp [step, hx]) hw.behindEquals
  have hopen : step ⟨.behindEquals w.key, w.key :: keys, found⟩ w.quote =
      ⟨.value w.key w.quote [], w.key :: keys, found⟩ := by
    have hquote : is '"' w.quote || is '\'' w.quote := by
      rw [Bool.or_comm]
      exact hw.quote
    simp only [step, isSpace_quote hw.quote, hquote, if_true, if_false, Bool.false_eq_true]
  have hclose : step ⟨.value w.key w.quote w.value.reverse, w.key :: keys, found⟩ w.quote =
      ⟨.gap, w.key :: keys, .ok w.toAttribute :: found⟩ := by
    simp [step, WrittenAttribute.toAttribute]
  rw [WrittenAttribute.text, List.foldl_append, hlead, List.foldl_append, hkey,
    List.append_cons w.beforeEquals, List.foldl_append, hequals, List.foldl_append, hbehind,
    List.foldl_cons, hopen, List.foldl_append, foldl_value hw.value, List.append_nil,
    List.foldl_cons, hclose, List.foldl_nil]

end

/-! ### What an attribute is to those behind it -/

/-- Two readers that have come to the same place,
the second one with an attribute more behind it. -/
structure Beside (extra : Attribute α) (found : List (Except AttributeFault (Attribute α)))
    (r r' : AttributeReader α) : Prop where
  mode : r'.mode = r.mode
  keys : ∀ key, key ∈ r'.keys ↔ key = extra.key ∨ key ∈ r.keys
  found : ∃ more, r.found = more ++ found ∧ r'.found = more ++ .ok extra :: found

omit [TextUnit α] in
theorem mem_keys_closeKey {key : List α} {r : AttributeReader α} (h : key ∈ r.keys)
    (name : List α) :
    key ∈ (r.closeKey name).keys := by
  unfold closeKey
  dsimp only
  split
  · exact h
  · exact List.mem_cons_of_mem _ h

theorem mem_keys_step {key : List α} {r : AttributeReader α} (h : key ∈ r.keys) (x : α) :
    key ∈ (r.step x).keys := by
  unfold step
  split
  all_goals repeat' split
  all_goals first | exact h | exact mem_keys_closeKey h _

theorem mem_keys_foldl {key : List α} {r : AttributeReader α} (h : key ∈ r.keys) (xs : List α) :
    key ∈ (xs.foldl step r).keys := by
  induction xs generalizing r with
  | nil => exact h
  | cons x xs ih => exact ih (mem_keys_step h x)

namespace Beside

variable {extra : Attribute α} {r r' : AttributeReader α}

omit [DecidableEq α] [TextUnit α] in
theorem fault (h : Beside extra found r r') (f : AttributeFault) :
    Beside extra found (r.fault f) (r'.fault f) := by
  obtain ⟨more, hfound, hfound'⟩ := h.found
  exact ⟨h.mode, h.keys, .error f :: more, by simp [AttributeReader.fault, hfound],
    by simp [AttributeReader.fault, hfound']⟩

omit [DecidableEq α] [TextUnit α] in
theorem withMode (h : Beside extra found r r') (mode : AttributeMode α) :
    Beside extra found { r with mode } { r' with mode } := ⟨rfl, h.keys, h.found⟩

omit [TextUnit α] in
theorem closeKey (h : Beside extra found r r') {name : List α}
    (hnew : extra.key ∉ (r.closeKey name).keys) :
    Beside extra found (r.closeKey name) (r'.closeKey name) := by
  unfold AttributeReader.closeKey at hnew ⊢
  by_cases hseen : name.reverse ∈ r.keys
  · have hseen' : name.reverse ∈ r'.keys := (h.keys _).mpr (.inr hseen)
    simp only [List.contains_iff_mem, hseen, hseen', if_true]
    exact (h.fault .duplicate).withMode .passing
  · simp only [List.contains_iff_mem, hseen, if_false] at hnew
    have hother : name.reverse ≠ extra.key := fun heq => hnew (heq ▸ List.mem_cons_self)
    have hseen' : name.reverse ∉ r'.keys := by
      rw [h.keys]
      exact not_or.mpr ⟨hother, hseen⟩
    simp only [List.contains_iff_mem, hseen, hseen', if_false]
    refine ⟨rfl, ?_, h.found⟩
    intro key
    simp only [List.mem_cons, h.keys]
    exact or_left_comm

theorem step (h : Beside extra found r r') {x : α} (hnew : extra.key ∉ (r.step x).keys) :
    Beside extra found (r.step x) (r'.step x) := by
  unfold AttributeReader.step at hnew ⊢
  rw [h.mode]
  cases hmode : r.mode with
  | gap =>
      by_cases hx : isSpace x
      · simpa [hx] using h
      · simpa [hx] using h.withMode (.key [x])
  | key name =>
      simp only [hmode] at hnew
      by_cases hequals : is '=' x
      · simp only [hequals, if_true] at hnew ⊢
        exact h.closeKey hnew
      by_cases hx : isSpace x
      · simpa [hequals, hx] using h.withMode (.behindKey name)
      · simpa [hequals, hx] using h.withMode (.key (x :: name))
  | behindKey name =>
      simp only [hmode] at hnew
      by_cases hx : isSpace x
      · simpa [hx] using h
      by_cases hequals : is '=' x
      · simp only [hequals, hx, if_true, if_false, Bool.false_eq_true] at hnew ⊢
        exact h.closeKey hnew
      · simpa [hequals, hx] using (h.fault .missingEquals).withMode (.key [x])
  | behindEquals name =>
      by_cases hx : isSpace x
      · simpa [hx] using h
      by_cases hquote : is '"' x || is '\'' x
      · simp only [hx, hquote, if_true, if_false, Bool.false_eq_true]
        exact h.withMode (.value name x [])
      · simp only [hx, hquote, if_false, Bool.false_eq_true]
        exact (h.fault .unquotedValue).withMode .passing
  | value name quote content =>
      by_cases hx : x = quote
      · obtain ⟨more, hfound, hfound'⟩ := h.found
        simp only [hx, if_true]
        exact ⟨rfl, h.keys, .ok ⟨name, content.reverse⟩ :: more, by simp [hfound],
          by simp [hfound']⟩
      · simpa [hx] using h.withMode (.value name quote (x :: content))
  | passing =>
      by_cases hx : isSpace x
      · simpa [hx] using h.withMode .gap
      · simpa [hx] using h

theorem foldl (h : Beside extra found r r') {xs : List α}
    (hnew : extra.key ∉ (xs.foldl AttributeReader.step r).keys) :
    Beside extra found (xs.foldl AttributeReader.step r) (xs.foldl AttributeReader.step r') := by
  induction xs generalizing r r' with
  | nil => exact h
  | cons x xs ih =>
      refine ih (h.step fun hkey => hnew ?_) hnew
      exact mem_keys_foldl hkey xs

omit [DecidableEq α] [TextUnit α] in
theorem finish (h : Beside extra found r r') : Beside extra found r.finish r'.finish := by
  unfold AttributeReader.finish
  rw [h.mode]
  split
  · exact h.fault .missingEquals
  · exact h.fault .missingEquals
  · exact h.fault .missingValue
  · exact h.fault .unclosedQuote
  · exact h

end Beside

end AttributeReader

/-! ## One attribute more -/

section

variable {front back : List α} {w : WrittenAttribute α}

theorem WrittenAttribute.IsWellFormed.head_text (hw : w.IsWellFormed) (back : List α) :
    (w.text ++ back).head?.all isSpace := by
  obtain ⟨x, lead, hlead⟩ := List.exists_cons_of_ne_nil hw.apart
  have hx : isSpace x := List.all_eq_true.mp hw.lead x (by simp [hlead])
  simpa [WrittenAttribute.text, hlead] using hx

theorem tagName_insert (hplace : Between front back) (hw : w.IsWellFormed) :
    tagName (front ++ (w.text ++ back)) = tagName (front ++ back) := by
  rw [tagName_append hplace.apart, tagName_append (.inr (hw.head_text back))]

variable [LawfulTextUnit α]

/-- **An attribute with a new key is read where it stands**, and the others as before. -/
theorem attributes_insert (hplace : Between front back) (hw : w.IsWellFormed)
    (hnew : w.key ∉ attributeKeys (front ++ back)) : ∃ behind,
    attributes (front ++ back) = attributes front ++ behind ∧
      attributes (front ++ (w.text ++ back)) = attributes front ++ .ok w.toAttribute :: behind := by
  have hgap := hplace.gap
  rw [attributeKeys, tagRest_append hplace.apart, List.foldl_append] at hnew
  simp only [attributes, tagRest_append hplace.apart, tagRest_append (.inr (hw.head_text back)),
    List.foldl_append]
  generalize (tagRest front).foldl AttributeReader.step {} = r at hgap hnew ⊢
  obtain ⟨mode, keys, found⟩ := r
  obtain rfl : mode = .gap := hgap
  have hkey : w.key ∉ keys := fun h => hnew (AttributeReader.mem_keys_foldl h back)
  have hstart : AttributeReader.Beside w.toAttribute found ⟨.gap, keys, found⟩
      ⟨.gap, w.key :: keys, .ok w.toAttribute :: found⟩ :=
    ⟨rfl, fun key => List.mem_cons, [], rfl, rfl⟩
  obtain ⟨more, hmore, hmore'⟩ := (hstart.foldl hnew).finish.found
  rw [AttributeReader.foldl_text hw hkey]
  refine ⟨more.reverse, ?_, ?_⟩
  · rw [hmore, List.reverse_append]
    rfl
  · rw [hmore', List.reverse_append, List.reverse_cons, List.append_assoc]
    rfl

theorem is_quote_other {c : Char} (hc : c.toNat < 128) (hother : c ∉ ['\'', '"']) {x : α}
    (h : isQuote x) : is c x = false := by
  rw [Bool.eq_false_iff]
  intro hx
  rcases Bool.or_eq_true_iff.mp h with h | h <;>
    exact hother (by rw [is_unique hc (by decide) hx h]; decide)

/-- The quotes of an attribute are closed in it. -/
theorem quoteBehind_text (hw : w.IsWellFormed) : quoteBehind none w.text = some none := by
  have hspaces {xs : List α} (h : xs.all isSpace) : quoteBehind none xs = some none := by
    refine quoteBehind_plain ?_
    intro x hx
    have hother {c : Char} (hc : c.toNat < 128) (hne : c ∉ [' ', '\t', '\r', '\n']) :
        is c x = false := isSpace_other hc hne (List.all_eq_true.mp h x hx)
    simp [isQuote, hother]
  have hkey : quoteBehind none w.key = some none :=
    quoteBehind_plain fun x hx => (hw.key_plain hx).2.2
  have hequals : quoteBehind none [(TextUnit.ofAscii '=' : α)] = some none := by
    have hother {c : Char} (hc : c.toNat < 128) (hne : c ≠ '=') :
        is c (TextUnit.ofAscii '=' : α) = false := is_ofAscii hc (by decide) hne
    exact quoteBehind_plain (by simp [isQuote, hother])
  have hquote : is '>' w.quote = false := is_quote_other (by decide) (by decide) hw.quote
  have hvalue : quoteBehind none (w.quote :: (w.value ++ [w.quote])) = some none := by
    rw [quoteBehind, hquote, hw.quote]
    simp [quoteBehind_append, quoteBehind_value hw.value, quoteBehind]
  rw [WrittenAttribute.text, List.append_cons w.beforeEquals]
  simp only [quoteBehind_append, hspaces hw.lead, hkey, hspaces hw.beforeEquals, hequals,
    hspaces hw.behindEquals, hvalue, Option.bind_some]

/-- A tag with one attribute more is written like a tag. -/
theorem isTagContent_insert (h : isTagContent (front ++ back)) (hplace : Between front back)
    (hw : w.IsWellFormed) : isTagContent (front ++ (w.text ++ back)) := by
  obtain ⟨hhead, hclosed⟩ := Bool.and_eq_true_iff.mp h
  rw [decide_eq_true_eq, quoteBehind_append, hplace.closed, Option.bind_some] at hclosed
  rw [isTagContent, Bool.and_eq_true_iff]
  constructor
  · cases front with
    | cons x front => exact hhead
    | nil =>
        rw [List.nil_append]
        cases hnext : (w.text ++ back).head? with
        | none => rfl
        | some x =>
            have hspace := hw.head_text back
            rw [hnext] at hspace
            have hother {c : Char} (hc : c.toNat < 128) (hne : c ∉ [' ', '\t', '\r', '\n']) :
                is c x = false := isSpace_other hc hne hspace
            simp [hother]
  · simp only [quoteBehind_append, hplace.closed, Option.bind_some, quoteBehind_text hw, hclosed,
      decide_true]

theorem isWritten_start_insert (h : (Token.start (front ++ back)).isWritten)
    (hplace : Between front back) (hw : w.IsWellFormed) :
    (Token.start (front ++ (w.text ++ back))).isWritten := by
  obtain ⟨hcontent, hlast⟩ := Bool.and_eq_true_iff.mp h
  refine Bool.and_eq_true_iff.mpr ⟨isTagContent_insert hcontent hplace hw, ?_⟩
  rcases List.eq_nil_or_concat back with rfl | ⟨before, last, rfl⟩
  · have hslash : is '/' w.quote = false := is_quote_other (by decide) (by decide) hw.quote
    have hend : w.text = (w.lead ++ (w.key ++ (w.beforeEquals ++ TextUnit.ofAscii '=' ::
        (w.behindEquals ++ w.quote :: w.value)))) ++ [w.quote] := by
      simp [WrittenAttribute.text]
    rw [List.append_nil, hend, ← List.append_assoc, List.getLast?_concat]
    simpa using hslash
  · simpa using hlast

theorem isWritten_empty_insert (h : (Token.empty (front ++ back)).isWritten)
    (hplace : Between front back) (hw : w.IsWellFormed) :
    (Token.empty (front ++ (w.text ++ back))).isWritten := by
  obtain ⟨hcontent, -⟩ := Bool.and_eq_true_iff.mp h
  refine Bool.and_eq_true_iff.mpr ⟨isTagContent_insert hcontent hplace hw, ?_⟩
  simp [WrittenAttribute.text]

end

end SoapBindings.Markup
