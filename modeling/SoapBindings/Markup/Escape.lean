/-
# `SoapBindings.Markup.Escape` — characters written as references

Five characters have references of their own, and any character can be written by its number.
`escape` uses the five and nothing else, and `unescape?` reads references of both kinds.
-/
import SoapBindings.Decimal.Integer
import SoapBindings.Text.Hex
import SoapBindings.Text.Utf8

namespace SoapBindings.Markup

/-- The characters that have a name, with it. -/
def namedCharacters : List (Char × String) :=
  [('<', "lt"), ('>', "gt"), ('&', "amp"), ('\'', "apos"), ('"', "quot")]

/-- A character that must not stand in a value as it is becomes its reference. -/
def escapeChar (c : Char) : List Char :=
  match namedCharacters.lookup c with
  | some name => '&' :: name.toList ++ [';']
  | none => [c]

/-- A text with references for the five characters. -/
def escape (cs : List Char) : List Char := cs.flatMap escapeChar

/-- The digits of a number in hexadecimal, at most six of them. -/
private def hexNumber? (digits : List Char) : Option Nat :=
  if Text.octets digits > 6 then none
  else digits.foldlM (fun n c => (Text.hexValue? c).map (n * 16 + ·)) 0

/-- The digits of a number, at most seven of them. -/
private def decimalNumber? (digits : List Char) : Option Nat :=
  if Text.octets digits > 7 then none else Decimal.readDigits? digits

/-- The character that a reference stands for, given what is between the ampersand and the
semicolon.  No reference stands for the null character. -/
def referenced? (reference : List Char) : Option Char :=
  match reference with
  | '#' :: number => do
    let n ← match number with
      | 'x' :: digits => hexNumber? digits
      | digits => decimalNumber? digits
    if n ≠ 0 ∧ n.isValidChar then some (Char.ofNat n) else none
  | name => (namedCharacters.find? fun (_, n) => n.toList = name).map (·.1)

/-- Read on, `reference` being the characters behind an ampersand so far, last one first. -/
private def unescapeFrom : Option (List Char) → List Char → Option (List Char)
  | none, [] => some []
  | some _, [] => none
  | none, c :: rest =>
    if c = '&' then unescapeFrom (some []) rest else (unescapeFrom none rest).map (c :: ·)
  | some reference, c :: rest =>
    if c = '&' then none
    else if c = ';' then do
      let character ← referenced? reference.reverse
      (unescapeFrom none rest).map (character :: ·)
    else unescapeFrom (some (c :: reference)) rest

/-- The text with every reference replaced by its character, unless an ampersand begins none. -/
def unescape? (cs : List Char) : Option (List Char) := unescapeFrom none cs

private theorem unescapeFrom_append {reference : Option (List Char)} {cs us : List Char}
    (h : unescapeFrom reference cs = some us) (ds : List Char) :
    unescapeFrom reference (cs ++ ds) = (unescapeFrom none ds).map (us ++ ·) := by
  fun_induction unescapeFrom reference cs generalizing us with
  | case1 =>
      cases h
      simp
  | case2 => cases h
  | case3 rest ih =>
      rw [List.cons_append, unescapeFrom, if_pos rfl]
      exact ih h
  | case4 c rest hc ih =>
      obtain ⟨more, hmore, rfl⟩ := Option.map_eq_some_iff.mp h
      rw [List.cons_append, unescapeFrom, if_neg hc, ih hmore, Option.map_map]
      rfl
  | case5 => cases h
  | case6 reference rest hc ih =>
      simp only [Option.bind_eq_bind, Option.bind_eq_some_iff] at h
      obtain ⟨character, hcharacter, h⟩ := h
      obtain ⟨more, hmore, rfl⟩ := Option.map_eq_some_iff.mp h
      rw [List.cons_append, unescapeFrom, if_neg hc, if_pos rfl, hcharacter, ih hmore]
      simp [Function.comp_def]
  | case7 reference c rest hc hend ih =>
      rw [List.cons_append, unescapeFrom, if_neg hc, if_neg hend]
      exact ih h

/-- References are read alike in front of anything else. -/
theorem unescape?_append {cs us : List Char} (h : unescape? cs = some us) (ds : List Char) :
    unescape? (cs ++ ds) = (unescape? ds).map (us ++ ·) := unescapeFrom_append h ds

/-- A character that begins no reference stands for itself. -/
theorem unescape?_plain {c : Char} (h : c ≠ '&') : unescape? [c] = some [c] := by
  rw [unescape?, unescapeFrom, if_neg h, unescapeFrom]
  rfl

end SoapBindings.Markup
