/-
# `SoapBindings.Proofs.Decimal.Numerals` — which texts are numbers

A numeral is a sign, digits, perhaps a point among them and perhaps a power of ten behind them.  The
readers take the longest run of digits wherever they look for digits; since no other part of a
numeral begins with a digit, a text is read exactly if it is a numeral, and as the number that the
numeral denotes (`readInteger?_eq_some`, `Floating.readUnsigned?_eq_some`).
-/
import Mathlib.Data.Rat.Defs
import Mathlib.Data.List.TakeWhile
import SoapBindings.Decimal.Floating

namespace SoapBindings.Decimal

/-! ## Digits -/

structure IsDigits (cs : List Char) : Prop where
  nonempty : cs ≠ []
  digits : ∀ c ∈ cs, c.isDigit

theorem readDigits?_eq_some {cs : List Char} {n : Nat} :
    readDigits? cs = some n ↔ IsDigits cs ∧ n = Nat.ofDigitChars 10 cs 0 := by
  have hvalue : cs.foldl (fun n c => n * 10 + (c.toNat - '0'.toNat)) 0 =
      Nat.ofDigitChars 10 cs 0 := by
    rw [Nat.ofDigitChars_eq_foldl]
    simp only [Nat.mul_comm]
  rw [readDigits?, hvalue]
  constructor
  · intro h
    split at h
    case isFalse => cases h
    case isTrue hdigits =>
      obtain ⟨hne, hall⟩ := Bool.and_eq_true_iff.mp hdigits
      exact ⟨⟨by simpa using hne, List.all_eq_true.mp hall⟩, (Option.some.inj h).symm⟩
  · rintro ⟨⟨hne, hall⟩, rfl⟩
    exact if_pos (Bool.and_eq_true_iff.mpr ⟨by simpa using hne, List.all_eq_true.mpr hall⟩)

/-! ## Signs -/

/-- The sign that a numeral may begin with. -/
inductive Sign where
  | unsigned
  | plus
  | minus
  deriving DecidableEq

namespace Sign

def text : Sign → List Char
  | unsigned => []
  | plus => ['+']
  | minus => ['-']

/-- The number of a size with the sign. -/
def apply : Sign → Nat → Int
  | minus, n => -n
  | _, n => n

end Sign

/-- A text whose first character is a digit, or that is empty, begins with no sign. -/
theorem IsDigits.head {cs : List Char} (h : IsDigits cs) :
    ∃ c rest, cs = c :: rest ∧ c ≠ '-' ∧ c ≠ '+' := by
  obtain ⟨c, rest, rfl⟩ := List.exists_cons_of_ne_nil h.nonempty
  have hc : c.isDigit := h.digits c List.mem_cons_self
  refine ⟨c, rest, rfl, ?_, ?_⟩
  · rintro rfl
    exact absurd hc (by decide)
  · rintro rfl
    exact absurd hc (by decide)

/-- **A whole number is a sign and digits**, and nothing else is one. -/
theorem readInteger?_eq_some {s : String} {n : Int} : readInteger? s = some n ↔
    ∃ sign digits, s.toList = Sign.text sign ++ digits ∧ IsDigits digits ∧
      n = sign.apply (Nat.ofDigitChars 10 digits 0) := by
  unfold readInteger?
  constructor
  · intro h
    split at h
    all_goals
      rename_i hs
      simp only [Option.map_eq_some_iff, Option.bind_eq_bind, Option.bind_eq_some_iff,
        Option.pure_def, Option.some.injEq] at h
      obtain ⟨_, ⟨m, hread, rfl⟩, rfl⟩ := h
      obtain ⟨hdigits, rfl⟩ := readDigits?_eq_some.mp hread
    · exact ⟨.minus, _, hs, hdigits, rfl⟩
    · exact ⟨.plus, _, hs, hdigits, rfl⟩
    · exact ⟨.unsigned, _, rfl, hdigits, rfl⟩
  · rintro ⟨sign, digits, hs, hdigits, rfl⟩
    have hread := readDigits?_eq_some.mpr ⟨hdigits, rfl⟩
    cases sign with
    | minus => simp [hs, Sign.text, Sign.apply, hread]
    | plus => simp [hs, Sign.text, Sign.apply, hread]
    | unsigned =>
        obtain ⟨c, rest, rfl, hminus, hplus⟩ := hdigits.head
        simp only [hs, Sign.text, Sign.apply, List.nil_append]
        split
        · rename_i hhead
          exact absurd (List.cons.inj hhead).1 hminus
        · rename_i hhead
          exact absurd (List.cons.inj hhead).1 hplus
        · rw [hread]
          rfl

theorem readNatural?_eq_some {s : String} {n : Nat} : readNatural? s = some n ↔
    ∃ sign digits, sign ≠ .minus ∧ s.toList = Sign.text sign ++ digits ∧ IsDigits digits ∧
      n = Nat.ofDigitChars 10 digits 0 := by
  unfold readNatural?
  constructor
  · intro h
    split at h
    all_goals
      rename_i hs
      obtain ⟨hdigits, rfl⟩ := readDigits?_eq_some.mp h
    · exact ⟨.plus, _, by decide, hs, hdigits, rfl⟩
    · exact ⟨.unsigned, _, by decide, rfl, hdigits, rfl⟩
  · rintro ⟨sign, digits, hsign, hs, hdigits, rfl⟩
    have hread := readDigits?_eq_some.mpr ⟨hdigits, rfl⟩
    cases sign with
    | minus => exact absurd rfl hsign
    | plus => simp [hs, Sign.text, hread]
    | unsigned =>
        obtain ⟨c, rest, rfl, -, hplus⟩ := hdigits.head
        simp only [hs, Sign.text, List.nil_append]
        split
        · rename_i hhead
          exact absurd (List.cons.inj hhead).1 hplus
        · exact hread

/-! ## Numerals -/

/-- A number in decimals: digits with a point among them, if there is one, and a letter with a power
of ten behind them, if there is one. -/
structure Numeral where
  whole : List Char
  fraction : Option (List Char) := none
  exponent : Option (Char × Sign × List Char) := none

namespace Numeral

/-- The power of ten as it is written. -/
def exponentText : Option (Char × Sign × List Char) → List Char
  | some (letter, sign, digits) => letter :: (sign.text ++ digits)
  | none => []

def text (d : Numeral) : List Char :=
  d.whole ++ (d.fraction.elim [] ('.' :: ·) ++ exponentText d.exponent)

/-- All digits in front of the power of ten. -/
def digits (d : Numeral) : List Char := d.whole ++ d.fraction.getD []

/-- The power of ten that the digits as a whole number are to be taken by. -/
def scale (d : Numeral) : Int :=
  d.exponent.elim 0 (fun (_, sign, digits) => sign.apply (Nat.ofDigitChars 10 digits 0)) -
    (d.fraction.getD []).length

/-- The number that is denoted. -/
def value (d : Numeral) : Rat := Nat.ofDigitChars 10 d.digits 0 * (10 : Rat) ^ d.scale

structure IsWellFormed (d : Numeral) : Prop where
  digits : IsDigits d.digits
  exponent : ∀ letter sign digits, d.exponent = some (letter, sign, digits) →
    (letter = 'e' ∨ letter = 'E') ∧ IsDigits digits

end Numeral

/-- A run of digits ends where something else follows. -/
theorem span_digits {xs ys : List Char} (hxs : ∀ c ∈ xs, c.isDigit)
    (hys : ∀ c ∈ ys.head?, c.isDigit = false) :
    (xs ++ ys).takeWhile Char.isDigit = xs ∧ (xs ++ ys).dropWhile Char.isDigit = ys := by
  rw [List.takeWhile_append_of_pos hxs, List.dropWhile_append_of_pos hxs]
  cases ys with
  | nil => simp
  | cons c ys =>
      have hc : c.isDigit = false := hys c rfl
      simp [hc]

namespace Floating

theorem readExponent?_eq_some {cs : List Char} {n : Int} : readExponent? cs = some n ↔
    ∃ exponent : Option (Char × Sign × List Char), cs = Numeral.exponentText exponent ∧
      (∀ letter sign digits, exponent = some (letter, sign, digits) →
        (letter = 'e' ∨ letter = 'E') ∧ IsDigits digits) ∧
      n = exponent.elim 0 fun (_, sign, digits) => sign.apply (Nat.ofDigitChars 10 digits 0) := by
  constructor
  · intro h
    cases cs with
    | nil => exact ⟨none, rfl, nofun, (Option.some.inj h).symm⟩
    | cons letter rest =>
        rw [readExponent?] at h
        split at h
        case isFalse => cases h
        case isTrue hletter =>
          obtain ⟨sign, digits, hrest, hdigits, rfl⟩ := readInteger?_eq_some.mp h
          refine ⟨some (letter, sign, digits), ?_, ?_, rfl⟩
          · rw [Numeral.exponentText, ← hrest, String.toList_ofList]
          · rintro _ _ _ ⟨⟩
            exact ⟨by simpa using hletter, hdigits⟩
  · rintro ⟨exponent, rfl, hwell, rfl⟩
    cases exponent with
    | none => rfl
    | some exponent =>
        obtain ⟨letter, sign, digits⟩ := exponent
        obtain ⟨hletter, hdigits⟩ := hwell _ _ _ rfl
        rw [Numeral.exponentText, readExponent?, if_pos (by simpa using hletter)]
        exact readInteger?_eq_some.mpr ⟨sign, digits, String.toList_ofList, hdigits, rfl⟩

/-- No power of ten begins with a digit. -/
theorem head_exponentText {exponent : Option (Char × Sign × List Char)}
    (h : ∀ letter sign digits, exponent = some (letter, sign, digits) →
      (letter = 'e' ∨ letter = 'E') ∧ IsDigits digits) :
    ∀ c ∈ (Numeral.exponentText exponent).head?, c.isDigit = false ∧ c ≠ '.' := by
  intro c hc
  cases exponent with
  | none => cases hc
  | some exponent =>
      obtain ⟨letter, sign, digits⟩ := exponent
      obtain rfl : letter = c := Option.some.inj hc
      rcases (h _ _ _ rfl).1 with rfl | rfl <;> decide

/-- The digits behind a point, if a point comes next, and what follows. -/
def pointed : List Char → Option (List Char) × List Char
  | '.' :: rest => (some (rest.takeWhile Char.isDigit), rest.dropWhile Char.isDigit)
  | rest => (none, rest)

theorem readUnsigned?_eq (format : BinaryFormat) (negative : Bool) (cs : List Char) :
    readUnsigned? format negative cs =
      let (fraction, rest) := pointed (cs.dropWhile Char.isDigit)
      (readDigits? (cs.takeWhile Char.isDigit ++ fraction.getD [])).bind fun digits =>
        (readExponent? rest).map fun exponent =>
          ofDecimal format negative digits (exponent - (fraction.getD []).length) := by
  unfold readUnsigned?
  generalize cs.dropWhile Char.isDigit = rest
  generalize cs.takeWhile Char.isDigit = whole
  have hbind (fraction rest : List Char) : (do
      let digits ← readDigits? (whole ++ fraction)
      let exponent ← readExponent? rest
      return ofDecimal format negative digits (exponent - fraction.length)) =
      (readDigits? (whole ++ fraction)).bind fun digits => (readExponent? rest).map fun exponent =>
        ofDecimal format negative digits (exponent - fraction.length) := by
    simp only [Option.bind_eq_bind, Option.pure_def, Option.map_eq_bind, Function.comp_def]
  cases rest with
  | nil => exact hbind [] []
  | cons c rest =>
      by_cases hc : c = '.'
      · subst hc
        exact hbind _ _
      · have hpointed : pointed (c :: rest) = (none, c :: rest) := by
          unfold pointed
          split
          · rename_i hhead
            exact absurd (List.cons.inj hhead).1 hc
          · rfl
        simp only [hpointed]
        split
        · rename_i hhead
          exact absurd (List.cons.inj hhead).1 hc
        · exact hbind [] (c :: rest)

theorem pointed_text {cs rest : List Char} {fraction : Option (List Char)}
    (h : pointed cs = (fraction, rest)) : cs = fraction.elim [] ('.' :: ·) ++ rest := by
  unfold pointed at h
  split at h
  · cases h
    rw [Option.elim_some, List.cons_append, List.takeWhile_append_dropWhile]
  · cases h
    rfl

theorem pointed_append {fraction : Option (List Char)}
    (hfraction : ∀ c ∈ fraction.getD [], c.isDigit)
    {rest : List Char} (hrest : ∀ c ∈ rest.head?, c.isDigit = false ∧ c ≠ '.') :
    pointed (fraction.elim [] ('.' :: ·) ++ rest) = (fraction, rest) := by
  cases fraction with
  | some digits =>
      have hdigits : ∀ c ∈ digits, c.isDigit := hfraction
      obtain ⟨htake, hdrop⟩ := span_digits hdigits fun c hc => (hrest c hc).1
      simp only [Option.elim_some, List.cons_append, pointed, htake, hdrop]
  | none =>
      rw [Option.elim_none, List.nil_append]
      unfold pointed
      split
      · exact absurd rfl (hrest '.' rfl).2
      · rfl

/-- **What is read without a sign is a numeral**, and the number is the nearest one to what it
denotes. -/
theorem readUnsigned?_eq_some {format : BinaryFormat} {negative : Bool} {cs : List Char}
    {x : Floating} : readUnsigned? format negative cs = some x ↔
      ∃ d : Numeral, d.IsWellFormed ∧ cs = d.text ∧
        x = ofDecimal format negative (Nat.ofDigitChars 10 d.digits 0) d.scale := by
  rw [readUnsigned?_eq]
  constructor
  · intro h
    cases hpointed : pointed (cs.dropWhile Char.isDigit) with
    | mk fraction rest =>
        rw [hpointed] at h
        obtain ⟨n, hread, h⟩ := Option.bind_eq_some_iff.mp h
        obtain ⟨scale, hexponent, rfl⟩ := Option.map_eq_some_iff.mp h
        obtain ⟨hdigits, rfl⟩ := readDigits?_eq_some.mp hread
        obtain ⟨exponent, rfl, hwell, rfl⟩ := readExponent?_eq_some.mp hexponent
        refine ⟨⟨cs.takeWhile Char.isDigit, fraction, exponent⟩, ⟨hdigits, hwell⟩, ?_, rfl⟩
        rw [Numeral.text, ← pointed_text hpointed, List.takeWhile_append_dropWhile]
  · rintro ⟨⟨whole, fraction, exponent⟩, ⟨hdigits, hwell⟩, rfl, rfl⟩
    have hrest := head_exponentText hwell
    have hall : ∀ c ∈ whole ++ fraction.getD [], c.isDigit := hdigits.digits
    obtain ⟨hwhole, hfraction⟩ := List.forall_mem_append.mp hall
    have hbehind : ∀ c ∈ (fraction.elim [] ('.' :: ·) ++ Numeral.exponentText exponent).head?,
        c.isDigit = false := by
      intro c hc
      cases fraction with
      | none => exact (hrest c hc).1
      | some digits =>
          obtain rfl : '.' = c := Option.some.inj hc
          decide
    obtain ⟨htake, hdrop⟩ := span_digits hwhole hbehind
    have hread := readDigits?_eq_some.mpr ⟨hdigits, rfl⟩
    have hscale := readExponent?_eq_some.mpr ⟨exponent, rfl, hwell, rfl⟩
    simp only [Numeral.text, htake, hdrop, pointed_append hfraction hrest, hscale]
    rw [show whole ++ fraction.getD [] = Numeral.digits ⟨whole, fraction, exponent⟩ from rfl, hread]
    rfl

/-! ### Signs in front of numerals -/

/-- A numeral begins with a digit or a point. -/
theorem head_numeral {d : Numeral} (h : d.IsWellFormed) :
    ∃ c rest, d.text = c :: rest ∧ c ≠ '-' ∧ c ≠ '+' := by
  obtain ⟨whole, fraction, exponent⟩ := d
  obtain ⟨c, rest, hdigits, hminus, hplus⟩ := h.digits.head
  cases whole with
  | cons c' whole =>
      obtain rfl : c' = c := (List.cons.inj hdigits).1
      exact ⟨c', _, rfl, hminus, hplus⟩
  | nil =>
      cases fraction with
      | none => cases hdigits
      | some fraction => exact ⟨'.', _, rfl, by decide, by decide⟩

/-- Every text is a sign and what follows it, where the sign is left out only if there is none. -/
theorem exists_sign (cs : List Char) : ∃ sign rest, cs = Sign.text sign ++ rest ∧
    (sign = .unsigned → ∀ c ∈ rest.head?, c ≠ '-' ∧ c ≠ '+') := by
  cases cs with
  | nil => exact ⟨.unsigned, [], rfl, nofun⟩
  | cons c rest =>
      by_cases hminus : c = '-'
      · exact ⟨.minus, rest, by rw [hminus, Sign.text, List.singleton_append], nofun⟩
      by_cases hplus : c = '+'
      · exact ⟨.plus, rest, by rw [hplus, Sign.text, List.singleton_append], nofun⟩
      refine ⟨.unsigned, c :: rest, rfl, ?_⟩
      rintro _ c' ⟨⟩
      exact ⟨hminus, hplus⟩

theorem read?_sign (format : BinaryFormat) {s : String} {sign : Sign} {cs : List Char}
    (hs : s.toList = sign.text ++ cs)
    (hhead : sign = .unsigned → ∀ c ∈ cs.head?, c ≠ '-' ∧ c ≠ '+') :
    read? format s =
      (readUnsigned? format (sign = .minus) cs <|> readNamed? (sign = .minus) cs) := by
  unfold read?
  rw [hs]
  cases sign with
  | minus => rfl
  | plus => rfl
  | unsigned =>
      simp only [Sign.text, List.nil_append]
      split
      · exact absurd rfl (hhead rfl '-' rfl).1
      · exact absurd rfl (hhead rfl '+' rfl).2
      · rfl

/-- No number that has a name is finite. -/
theorem readNamed?_infinite {negative : Bool} {cs : List Char} {x : Floating}
    (h : readNamed? negative cs = some x) : ¬x.isFinite := by
  unfold readNamed? at h
  dsimp only at h
  split at h
  · cases h
    simp [isFinite]
  · split at h
    · cases h
      simp [isFinite]
    · cases h

end Floating

end SoapBindings.Decimal
