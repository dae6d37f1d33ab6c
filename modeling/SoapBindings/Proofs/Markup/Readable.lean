/-
# `SoapBindings.Proofs.Markup.Readable` — texts in pieces

A text is read as a whole and without the white space at its ends.  Yet whether it can be read is a
matter of its pieces, as long as no reference and no character is cut (`isReadable_of_append`):
units spell characters piece by piece, white space stands for itself, and references are read one by
one.
-/
import Mathlib.Data.List.TakeWhile
import SoapBindings.Markup.Escape
import SoapBindings.Markup.TextUnit
import SoapBindings.Text.Blank

namespace SoapBindings

/-! ## What is at the ends of a text -/

namespace Text

variable {α : Type} {p : α → Bool}

theorem exists_trail (p : α → Bool) (xs : List α) :
    ∃ trail, xs = dropEndWhile p xs ++ trail ∧ ∀ x ∈ trail, p x := by
  refine ⟨(xs.reverse.takeWhile p).reverse, ?_, ?_⟩
  · rw [dropEndWhile, ← List.reverse_append, List.takeWhile_append_dropWhile, List.reverse_reverse]
  · intro x hx
    exact List.all_eq_true.mp List.all_takeWhile x (List.mem_reverse.mp hx)

/-- What is left out at the end is left out behind the last unit that stays. -/
theorem dropEndWhile_append {ys : List α} (h : ∃ y ∈ ys, p y = false) (xs : List α) :
    dropEndWhile p (xs ++ ys) = xs ++ dropEndWhile p ys := by
  have hkept : (ys.reverse.dropWhile p).isEmpty = false := by
    obtain ⟨y, hy, hp⟩ := h
    rw [List.isEmpty_eq_false_iff, Ne, List.dropWhile_eq_nil_iff]
    intro hall
    rw [hall y (List.mem_reverse.mpr hy)] at hp
    cases hp
  rw [dropEndWhile, dropEndWhile, List.reverse_append, List.dropWhile_append, hkept]
  simp

/-- Of a text in two pieces, either end belongs to one of them, unless that is nothing but white
space. -/
theorem stripWhile_pieces (p : α → Bool) (xs ys : List α) :
    stripWhile p ys = [] ∨ stripWhile p (xs ++ ys) = stripWhile p ys ∨
      stripWhile p (xs ++ ys) = xs.dropWhile p ++ ys.takeWhile p ++ stripWhile p ys := by
  by_cases hblank : ys.dropWhile p = []
  · exact .inl (by rw [stripWhile, hblank]; rfl)
  by_cases hfirst : xs.dropWhile p = []
  · refine .inr (.inl ?_)
    rw [stripWhile, List.dropWhile_append, hfirst]
    rfl
  · refine .inr (.inr ?_)
    have hkept : ∃ y ∈ ys.dropWhile p, p y = false :=
      ⟨_, List.head_mem hblank, List.head_dropWhile_not p hblank⟩
    have hdrop : (xs ++ ys).dropWhile p =
        xs.dropWhile p ++ ys.takeWhile p ++ ys.dropWhile p := by
      rw [List.dropWhile_append, List.isEmpty_eq_false_iff.mpr hfirst, List.append_assoc,
        List.takeWhile_append_dropWhile]
      rfl
    rw [stripWhile, hdrop, dropEndWhile_append hkept, stripWhile]

end Text

namespace Markup

/-! ## Units that spell piece by piece -/

/-- Units that spell characters piece by piece, white space unit by unit. -/
class LawfulTextUnit (α : Type) [DecidableEq α] [TextUnit α] : Prop where
  ofAscii_inj {c d : Char} (hc : c.toNat < 128) (hd : d.toNat < 128)
    (h : (TextUnit.ofAscii c : α) = TextUnit.ofAscii d) : c = d
  decode?_nil : TextUnit.decode? ([] : List α) = some []
  decode?_append {xs : List α} {cs : List Char} (h : TextUnit.decode? xs = some cs) (ys : List α) :
    TextUnit.decode? (xs ++ ys) = (TextUnit.decode? ys).map (cs ++ ·)
  decode?_space {x : α} (h : isSpace x) : ∃ c, TextUnit.decode? [x] = some [c] ∧ c ≠ '&'
  /-- No markup begins in a byte order mark. -/
  mark_plain : TextUnit.ofAscii '<' ∉ (TextUnit.byteOrderMark : List α)

instance : LawfulTextUnit Char where
  ofAscii_inj _ _ h := h
  decode?_nil := rfl
  decode?_append := by
    rintro xs cs ⟨⟩ ys
    rfl
  decode?_space := by
    intro c h
    refine ⟨c, rfl, ?_⟩
    rintro rfl
    exact absurd h (by decide)
  mark_plain := by decide

instance : LawfulTextUnit UInt8 where
  ofAscii_inj := by
    intro c d hc hd h
    have hoctet : c.toNat % 256 = d.toNat % 256 := congrArg UInt8.toNat h
    exact Char.toNat_inj.mp (by omega)
  decode?_nil := rfl
  decode?_append := Text.decodeUtf8_append
  decode?_space := by
    intro x h
    simp only [isSpace, is, Bool.or_eq_true, beq_iff_eq] at h
    rcases h with ((rfl | rfl) | rfl) | rfl <;> exact ⟨_, rfl, by decide⟩
  mark_plain := by decide

section

variable {α : Type} [DecidableEq α] [TextUnit α] [LawfulTextUnit α]

/-- A unit is that of one character. -/
theorem is_unique {c d : Char} (hc : c.toNat < 128) (hd : d.toNat < 128) {x : α} (h : is c x)
    (h' : is d x) : c = d := by
  rw [is, beq_iff_eq] at h h'
  exact LawfulTextUnit.ofAscii_inj hc hd (h.symm.trans h')

theorem isSpace_other {c : Char} (hc : c.toNat < 128) (hother : c ∉ [' ', '\t', '\r', '\n']) {x : α}
    (h : isSpace x) : is c x = false := by
  rw [Bool.eq_false_iff]
  intro hx
  simp only [isSpace, Bool.or_eq_true] at h
  rcases h with ((h | h) | h) | h <;>
    exact hother (by rw [is_unique hc (by decide) hx h]; decide)

end

/-! ## Readable texts -/

variable {α : Type} [DecidableEq α] [TextUnit α]

/-- The characters that a text stands for. -/
def characters? (content : List α) : Option (List Char) :=
  (TextUnit.decode? content).bind unescape?

/-- Without the white space at its ends, the text stands for characters. -/
def isReadable (content : List α) : Bool :=
  (characters? (Text.stripWhile isSpace content)).isSome

variable [LawfulTextUnit α]

theorem characters?_nil : characters? ([] : List α) = some [] := by
  rw [characters?, LawfulTextUnit.decode?_nil]
  rfl

theorem characters?_append {xs : List α} {us : List Char} (h : characters? xs = some us)
    (ys : List α) : characters? (xs ++ ys) = (characters? ys).map (us ++ ·) := by
  obtain ⟨cs, hcs, hus⟩ := Option.bind_eq_some_iff.mp h
  rw [characters?, LawfulTextUnit.decode?_append hcs, characters?]
  cases TextUnit.decode? ys with
  | none => rfl
  | some ds => exact unescape?_append hus ds

theorem characters?_isSome_append {xs : List α} (h : (characters? xs).isSome) (ys : List α) :
    (characters? (xs ++ ys)).isSome = (characters? ys).isSome := by
  obtain ⟨us, hus⟩ := Option.isSome_iff_exists.mp h
  rw [characters?_append hus, Option.isSome_map]

theorem characters?_space {xs : List α} (h : ∀ x ∈ xs, isSpace x) : (characters? xs).isSome := by
  induction xs with
  | nil =>
      rw [characters?_nil]
      rfl
  | cons x xs ih =>
      obtain ⟨hx, hxs⟩ := List.forall_mem_cons.mp h
      obtain ⟨c, hdecode, hc⟩ := LawfulTextUnit.decode?_space hx
      have hone : characters? [x] = some [c] := by
        rw [characters?, hdecode]
        exact unescape?_plain hc
      rw [← List.singleton_append, characters?_append hone, Option.isSome_map]
      exact ih hxs

/-- What stands in front of the white space at its end is readable with it. -/
theorem characters?_dropWhile {xs : List α} (h : isReadable xs) :
    (characters? (xs.dropWhile isSpace)).isSome := by
  obtain ⟨trail, htrail, hspace⟩ := Text.exists_trail isSpace (xs.dropWhile isSpace)
  rw [htrail]
  exact (characters?_isSome_append h trail).trans (characters?_space hspace)

/-- Behind what is readable, the rest of a readable text is readable. -/
theorem isReadable_of_append {xs ys : List α} (hxs : isReadable xs) (h : isReadable (xs ++ ys)) :
    isReadable ys := by
  unfold isReadable at h ⊢
  rcases Text.stripWhile_pieces isSpace xs ys with hblank | hsame | hboth
  · rw [hblank, characters?_nil]
    rfl
  · rwa [hsame] at h
  · have hlead : (characters? (ys.takeWhile isSpace)).isSome :=
      characters?_space fun y hy => List.all_eq_true.mp List.all_takeWhile y hy
    have hfront : (characters? (xs.dropWhile isSpace ++ ys.takeWhile isSpace)).isSome :=
      (characters?_isSome_append (characters?_dropWhile hxs) _).trans hlead
    rwa [hboth, characters?_isSome_append hfront] at h

end Markup

end SoapBindings
