/-
# `SoapBindings.Text.Utf8` — octets and characters

Reads octets as UTF-8, and cuts a text at octet positions.  A cut inside a character has no
result, which is what `cutAt?` says with `none`.
-/
namespace SoapBindings.Text

/-- A continuation octet's six bits. -/
private def tailBits? (b : UInt8) : Option Nat :=
  if 0x80 ≤ b && b < 0xC0 then some (b.toNat - 0x80) else none

/-- The code point of a sequence, refused when a shorter sequence would do, when it is a
surrogate or when it is no code point at all. -/
private def scalarValue? (least n : Nat) : Option Char :=
  if least ≤ n && n.isValidChar then some (Char.ofNat n) else none

/-- The characters that the octets spell, or `none` when they are not UTF-8. -/
def decodeUtf8 : List UInt8 → Option (List Char)
  | [] => some []
  | a :: rest =>
    if a < 0x80 then (decodeUtf8 rest).map (Char.ofNat a.toNat :: ·)
    else match rest with
    | [] => none
    | b :: rest => do
      let b ← tailBits? b
      if a < 0xE0 then
        let c ← scalarValue? 0x80 ((a.toNat - 0xC0) * 0x40 + b)
        (decodeUtf8 rest).map (c :: ·)
      else match rest with
      | [] => none
      | d :: rest => do
        let d ← tailBits? d
        if a < 0xF0 then
          let c ← scalarValue? 0x800 ((a.toNat - 0xE0) * 0x1000 + b * 0x40 + d)
          (decodeUtf8 rest).map (c :: ·)
        else match rest with
        | [] => none
        | e :: rest => do
          let e ← tailBits? e
          let c ← scalarValue? 0x10000 ((a.toNat - 0xF0) * 0x40000 + b * 0x1000 + d * 0x40 + e)
          (decodeUtf8 rest).map (c :: ·)

/-- What spells characters spells them in front of anything else as well. -/
theorem decodeUtf8_append {xs : List UInt8} {cs : List Char} (h : decodeUtf8 xs = some cs)
    (ys : List UInt8) : decodeUtf8 (xs ++ ys) = (decodeUtf8 ys).map (cs ++ ·) := by
  have hcons {c : Char} {rest : List UInt8} {cs : List Char}
      (ih : ∀ {cs : List Char}, decodeUtf8 rest = some cs →
        decodeUtf8 (rest ++ ys) = (decodeUtf8 ys).map (cs ++ ·))
      (h : (decodeUtf8 rest).map (c :: ·) = some cs) :
      (decodeUtf8 (rest ++ ys)).map (c :: ·) = (decodeUtf8 ys).map (cs ++ ·) := by
    obtain ⟨more, hmore, rfl⟩ := Option.map_eq_some_iff.mp h
    rw [ih hmore, Option.map_map]
    rfl
  fun_induction decodeUtf8 xs generalizing cs with
  | case1 =>
      cases h
      simp
  | case2 a rest hshort ih =>
      rw [List.cons_append, decodeUtf8.eq_def]
      simp only [if_pos hshort]
      exact hcons ih h
  | case3 => cases h
  | case4 a hshort b rest ih₂ ih =>
      -- A character of two octets, of three or of four.
      rw [List.cons_append, List.cons_append, decodeUtf8, if_neg hshort]
      simp only [Option.bind_eq_bind, Option.bind_eq_some_iff] at h ⊢
      obtain ⟨b', hb, h⟩ := h
      rw [hb, Option.bind_some]
      by_cases htwo : a < 0xE0
      · simp only [if_pos htwo, Option.bind_eq_some_iff] at h ⊢
        obtain ⟨c, hc, h⟩ := h
        rw [hc, Option.bind_some]
        exact hcons ih₂ h
      · simp only [if_neg htwo] at h ⊢
        cases rest with
        | nil => cases h
        | cons d rest =>
            obtain ⟨ih₃, ih₄⟩ := ih
            simp only [List.cons_append, Option.bind_eq_some_iff] at h ⊢
            obtain ⟨d', hd, h⟩ := h
            rw [hd, Option.bind_some]
            by_cases hthree : a < 0xF0
            · simp only [if_pos hthree, Option.bind_eq_some_iff] at h ⊢
              obtain ⟨c, hc, h⟩ := h
              rw [hc, Option.bind_some]
              exact hcons ih₃ h
            · simp only [if_neg hthree] at h ⊢
              cases rest with
              | nil => cases h
              | cons e rest =>
                  simp only [List.cons_append, Option.bind_eq_some_iff] at h ⊢
                  obtain ⟨e', he, c, hc, h⟩ := h
                  rw [he, Option.bind_some, hc, Option.bind_some]
                  exact hcons ih₄ h

/-- The octets begin a character: some of the least continuations make it whole. -/
private def beginCharacter (octets : List UInt8) : Bool :=
  (List.range 3).any fun n => (decodeUtf8 (octets ++ List.replicate n 0x80)).isSome

/-- The characters that the octets spell, with a replacement character for each beginning of a
character that does not go on, and for each octet that begins none. -/
def decodeUtf8Lossily : List UInt8 → List Char
  | [] => []
  | a :: rest =>
    let spelled := (List.range 4).findSome? fun n =>
      (decodeUtf8 (a :: rest.take n)).map fun cs => (cs, n)
    match spelled with
    | some (cs, n) => cs ++ decodeUtf8Lossily (rest.drop n)
    | none =>
      let n := ([2, 1].find? fun n => beginCharacter (a :: rest.take n)).getD 0
      '\uFFFD' :: decodeUtf8Lossily (rest.drop n)
termination_by octets => octets.length
decreasing_by all_goals grind

/-- How many octets the characters take. -/
def octets : List Char → Nat
  | [] => 0
  | c :: cs => c.utf8Size + octets cs

/-- Both sides of a cut `n` octets into the text, which must fall between two characters. -/
def cutAt? : List Char → Nat → Option (List Char × List Char)
  | [], n => if n = 0 then some ([], []) else none
  | c :: cs, n =>
    if n = 0 then some ([], c :: cs)
    else if c.utf8Size ≤ n then
      (cutAt? cs (n - c.utf8Size)).map fun (before, after) => (c :: before, after)
    else none

/-- The characters from octet `start` up to octet `stop`. -/
def slice? (cs : List Char) (start stop : Nat) : Option (List Char) := do
  let (_, rest) ← cutAt? cs start
  let (piece, _) ← cutAt? rest (stop - start)
  return piece

end SoapBindings.Text
