/-
# `SoapBindings.Proofs.Naming.Words` — names in words

The name of a field, a method or a module is made of the words of a name: the words are joined by
underscores, and what comes of that is repaired where it would begin with a digit or be a reserved
word.  The repairs are underscores as well, but at the ends, where words have none.  So names only
meet if their words do (`moduleName_eq_iff`).
-/
import Mathlib.Data.List.TakeWhile
import SoapBindings.Naming

namespace SoapBindings.Naming

open Text

/-! ## Letters in lower and in upper case -/

theorem ascii_forall {P : Char → Prop} (h : ∀ n < 128, P (Char.ofNat n)) {c : Char}
    (hc : c.toNat < 128) : P c := by
  have hP := h c.toNat hc
  rwa [Char.ofNat_toNat] at hP

/-- What the letters of ASCII keep in lower case every character keeps. -/
theorem toLower_keeps {P : Char → Prop} (h : ∀ n < 128, P (Char.ofNat n) → P (Char.ofNat n).toLower)
    {c : Char} (hc : P c) : P c.toLower := by
  by_cases hascii : c.toNat < 128
  · exact ascii_forall (P := fun c => P c → P c.toLower) h hascii hc
  · unfold Char.toLower
    rw [dif_neg]
    · exact hc
    · rintro ⟨-, hle⟩
      have hle : c.toNat ≤ 90 := UInt32.le_iff_toNat_le.mp hle
      omega

theorem toUpper_keeps {P : Char → Prop} (h : ∀ n < 128, P (Char.ofNat n) → P (Char.ofNat n).toUpper)
    {c : Char} (hc : P c) : P c.toUpper := by
  by_cases hascii : c.toNat < 128
  · exact ascii_forall (P := fun c => P c → P c.toUpper) h hascii hc
  · unfold Char.toUpper
    rw [dif_neg]
    · exact hc
    · rintro ⟨-, hle⟩
      have hle : c.toNat ≤ 122 := UInt32.le_iff_toNat_le.mp hle
      omega

theorem isAlphanumeric_toLower {c : Char} (h : isAlphanumeric c) : isAlphanumeric c.toLower :=
  toLower_keeps (P := fun c => isAlphanumeric c) (by decide +kernel) h

/-! ## Words in a row -/

theorem any_isAlphanumeric (cs : List Char) : cs.any isAlphanumeric = !(letters cs).isEmpty := by
  rw [Bool.eq_iff_iff]
  simp [letters]

@[simp] theorem letters_nil : letters [] = [] := rfl

theorem letters_append (cs ds : List Char) : letters (cs ++ ds) = letters cs ++ letters ds :=
  List.filter_append ..

theorem letters_cons_of_letter {c : Char} (h : isAlphanumeric c) (cs : List Char) :
    letters (c :: cs) = c :: letters cs := List.filter_cons_of_pos h

theorem letters_cons_of_other {c : Char} (h : isAlphanumeric c = false) (cs : List Char) :
    letters (c :: cs) = letters cs := List.filter_cons_of_neg (by simp [h])

theorem isAlphanumeric_underscore : isAlphanumeric '_' = false := by decide

section Words

variable (convert : Char → Char) (name : List Char) (i : Nat)

/-- What is neither letter nor digit ends a word. -/
theorem joinWords_other {c : Char} (hc : isAlphanumeric c = false) (fresh : Bool) (cs : List Char) :
    joinWords convert name i fresh (c :: cs) =
      (if fresh then [] else ['_']) ++ joinWords convert name (i + c.utf8Size) true cs := by
  cases fresh <;> simp [joinWords, hc]

/-- A letter may begin a word inside a run of letters. -/
theorem joinWords_letter {c : Char} (hc : isAlphanumeric c) (fresh : Bool) (cs : List Char) :
    ∃ border : Bool, (fresh → border = false) ∧
      joinWords convert name i fresh (c :: cs) = (if border then ['_'] else []) ++
        convert c :: joinWords convert name (i + c.utf8Size) false cs := by
  cases hborder : !fresh && c == c.toUpper && borders name i with
  | false => exact ⟨false, fun _ => rfl, by simp [joinWords, hc, hborder]⟩
  | true =>
      refine ⟨true, fun hfresh => ?_, by simp [joinWords, hc, hborder]⟩
      rw [hfresh] at hborder
      cases hborder

/-- Words consist of letters and digits, and of underscores between them. -/
theorem mem_joinWords {fresh : Bool} {cs : List Char} {c : Char}
    (h : c ∈ joinWords convert name i fresh cs) :
    c = '_' ∨ ∃ letter ∈ letters cs, c = convert letter := by
  induction cs generalizing i fresh with
  | nil => cases h
  | cons first cs ih =>
      cases hfirst : isAlphanumeric first with
      | false =>
          rw [joinWords_other _ _ _ hfirst, List.mem_append] at h
          obtain h | h := h
          · cases fresh <;> simp_all
          · rw [letters_cons_of_other hfirst]
            exact ih _ h
      | true =>
          obtain ⟨border, -, hwords⟩ := joinWords_letter convert name i hfirst fresh cs
          rw [hwords, List.mem_append, List.mem_cons] at h
          rw [letters_cons_of_letter hfirst]
          obtain h | rfl | h := h
          · cases border <;> simp_all
          · exact .inr ⟨first, List.mem_cons_self, rfl⟩
          · exact (ih _ h).imp_right fun ⟨letter, hletter, h⟩ =>
              ⟨letter, List.mem_cons_of_mem _ hletter, h⟩

/-- Before the first letter there is nothing. -/
theorem head?_joinWords (cs : List Char) :
    (joinWords convert name i true cs).head? = (letters cs).head?.map convert := by
  induction cs generalizing i with
  | nil => rfl
  | cons c cs ih =>
      cases hc : isAlphanumeric c with
      | false => rw [joinWords_other _ _ _ hc, letters_cons_of_other hc]; exact ih _
      | true =>
          obtain ⟨border, hborder, hwords⟩ := joinWords_letter convert name i hc true cs
          rw [hwords, letters_cons_of_letter hc, hborder rfl]
          rfl

/-- After the last letter there is nothing, if nothing stands behind it. -/
theorem getLast?_joinWords {fresh : Bool} {cs : List Char} {c : Char} (h : cs.getLast? = some c)
    (hc : isAlphanumeric c) : (joinWords convert name i fresh cs).getLast? = some (convert c) := by
  induction cs generalizing i fresh with
  | nil => cases h
  | cons first cs ih =>
      cases cs with
      | nil =>
          obtain rfl : first = c := by simpa using h
          obtain ⟨border, -, hwords⟩ := joinWords_letter convert name i hc fresh []
          rw [hwords, List.getLast?_append]
          rfl
      | cons second cs =>
          rw [List.getLast?_cons_cons] at h
          cases hfirst : isAlphanumeric first with
          | false =>
              rw [joinWords_other _ _ _ hfirst, List.getLast?_append, ih _ h]
              rfl
          | true =>
              obtain ⟨border, -, hwords⟩ :=
                joinWords_letter convert name i hfirst fresh (second :: cs)
              rw [hwords, List.getLast?_append, List.getLast?_cons, ih _ h]
              rfl

/-- The letters of a name stay, each in its own case. -/
theorem letters_joinWords (hconvert : ∀ {c}, isAlphanumeric c → isAlphanumeric (convert c))
    (fresh : Bool) (cs : List Char) :
    letters (joinWords convert name i fresh cs) = (letters cs).map convert := by
  have hunderscore : letters ['_'] = [] := letters_cons_of_other isAlphanumeric_underscore []
  induction cs generalizing i fresh with
  | nil => rfl
  | cons c cs ih =>
      cases hc : isAlphanumeric c with
      | false =>
          rw [joinWords_other _ _ _ hc, letters_cons_of_other hc, letters_append, ih]
          cases fresh <;> simp [hunderscore]
      | true =>
          obtain ⟨border, -, hwords⟩ := joinWords_letter convert name i hc fresh cs
          rw [hwords, letters_append, letters_cons_of_letter (hconvert hc), ih,
            letters_cons_of_letter hc]
          cases border <;> simp [hunderscore]

end Words

/-! ## The words of a name -/

/-- A name up to its last letter. -/
def trimmed (cs : List Char) : List Char := (cs.reverse.dropWhile (!isAlphanumeric ·)).reverse

theorem letters_reverse (cs : List Char) : letters cs.reverse = (letters cs).reverse :=
  List.filter_reverse

theorem letters_trimmed (cs : List Char) : letters (trimmed cs) = letters cs := by
  have hbehind : letters (cs.reverse.takeWhile (!isAlphanumeric ·)) = [] := by
    refine List.filter_eq_nil_iff.mpr fun c hc => ?_
    simpa using List.mem_takeWhile_imp hc
  have hsplit : letters cs.reverse = letters (cs.reverse.dropWhile (!isAlphanumeric ·)) := by
    conv => lhs; rw [← List.takeWhile_append_dropWhile (p := (!isAlphanumeric ·)) (l := cs.reverse)]
    rw [letters_append, hbehind, List.nil_append]
  rw [trimmed, letters_reverse, ← hsplit, ← letters_reverse, List.reverse_reverse]

theorem getLast?_trimmed {cs : List Char} {c : Char} (h : (trimmed cs).getLast? = some c) :
    isAlphanumeric c := by
  rw [trimmed, List.getLast?_reverse] at h
  have hfirst := List.head?_dropWhile_not (!isAlphanumeric ·) cs.reverse
  rw [h] at hfirst
  simpa using hfirst

theorem separateWords_toList (convert : Char → Char) (name : String) :
    (separateWords convert name).toList =
      joinWords convert name.toList 0 true (trimmed name.toList) := by
  simp [separateWords, trimmed]

section Words

variable {convert : Char → Char} {name : String}

theorem mem_separateWords {c : Char} (h : c ∈ (separateWords convert name).toList) :
    c = '_' ∨ ∃ letter ∈ letters name.toList, c = convert letter := by
  rw [separateWords_toList] at h
  rw [← letters_trimmed]
  exact mem_joinWords _ _ _ h

theorem separateWords_head? :
    (separateWords convert name).toList.head? = (letters name.toList).head?.map convert := by
  rw [separateWords_toList, head?_joinWords, letters_trimmed]

/-- A name has words if it has letters. -/
theorem separateWords_eq_nil :
    (separateWords convert name).toList = [] ↔ letters name.toList = [] := by
  rw [← List.head?_eq_none_iff, separateWords_head?, Option.map_eq_none_iff, List.head?_eq_none_iff]

variable (hconvert : ∀ {c}, isAlphanumeric c → isAlphanumeric (convert c))
include hconvert

theorem letters_separateWords :
    letters (separateWords convert name).toList = (letters name.toList).map convert := by
  rw [separateWords_toList, letters_joinWords _ _ _ hconvert, letters_trimmed]

/-- Words have no underscores at their ends. -/
theorem separateWords_ends {c : Char}
    (h : (separateWords convert name).toList.head? = some c ∨
      (separateWords convert name).toList.getLast? = some c) : isAlphanumeric c := by
  obtain h | h := h
  · rw [separateWords_head?] at h
    obtain ⟨letter, hletter, rfl⟩ := Option.map_eq_some_iff.mp h
    exact hconvert (List.mem_filter.mp (List.mem_of_mem_head? hletter)).2
  · rw [separateWords_toList] at h
    cases hlast : (trimmed name.toList).getLast? with
    | none =>
        rw [List.getLast?_eq_none_iff.mp hlast] at h
        cases h
    | some letter =>
        have hletter := getLast?_trimmed hlast
        rw [getLast?_joinWords _ _ _ hlast hletter] at h
        exact Option.some.inj h ▸ hconvert hletter

end Words

/-! ## Repairs -/

/-- Words as a name of its own. -/
def repaired (words : List Char) : List Char :=
  let begun := if words.head?.any Char.isDigit then '_' :: words else words
  if isReserved (String.ofList begun) then begun ++ ['_'] else begun

/-- A text without the underscores at its ends. -/
def bare (cs : List Char) : List Char :=
  ((cs.dropWhile (· == '_')).reverse.dropWhile (· == '_')).reverse

theorem dropWhile_underscores (n : Nat) {cs : List Char}
    (h : ∀ c, cs.head? = some c → isAlphanumeric c) :
    (List.replicate n '_' ++ cs).dropWhile (· == '_') = cs := by
  induction n with
  | zero =>
      cases cs with
      | nil => rfl
      | cons c cs =>
          have hc : c ≠ '_' := fun heq => by
            have := h c rfl
            rw [heq, isAlphanumeric_underscore] at this
            cases this
          simp [hc]
  | succ n ih => simpa [List.replicate_succ] using ih

/-- Underscores at the ends are told from words. -/
theorem bare_of_ends {cs : List Char} (hne : cs ≠ [])
    (hends : ∀ c, cs.head? = some c ∨ cs.getLast? = some c → isAlphanumeric c)
    (before after : Nat) :
    bare (List.replicate before '_' ++ cs ++ List.replicate after '_') = cs := by
  have hfirst (c) (h : (cs ++ List.replicate after '_').head? = some c) : isAlphanumeric c := by
    obtain ⟨first, rest, rfl⟩ := List.exists_cons_of_ne_nil hne
    exact hends c (.inl h)
  have hlast (c) (h : cs.reverse.head? = some c) : isAlphanumeric c := by
    rw [List.head?_reverse] at h
    exact hends c (.inr h)
  rw [bare, List.append_assoc, dropWhile_underscores _ hfirst, List.reverse_append,
    List.reverse_replicate, dropWhile_underscores _ hlast, List.reverse_reverse]

/-- Repairs put an underscore before a first digit, and perhaps one at the end. -/
theorem repaired_begun (words : List Char) :
    ∃ after, repaired words = (if words.head?.any Char.isDigit then ['_'] else []) ++ words ++
      List.replicate after '_' := by
  have hbegun : (if words.head?.any Char.isDigit then '_' :: words else words) =
      (if words.head?.any Char.isDigit then ['_'] else []) ++ words := by
    split <;> rfl
  rw [repaired, hbegun]
  generalize (if words.head?.any Char.isDigit then ['_'] else []) ++ words = begun
  split
  · exact ⟨1, rfl⟩
  · exact ⟨0, (List.append_nil _).symm⟩

/-- Repairs add underscores at the ends only. -/
theorem repaired_eq (words : List Char) :
    ∃ before after, repaired words =
      List.replicate before '_' ++ words ++ List.replicate after '_' := by
  obtain ⟨after, hrepaired⟩ := repaired_begun words
  rw [hrepaired]
  split
  · exact ⟨1, after, rfl⟩
  · exact ⟨0, after, rfl⟩

theorem snakeName_eq (name : String) :
    snakeName name = if letters name.toList = [] then ""
      else String.ofList (repaired (separateWords Char.toLower name).toList) := by
  have hkept : (separateWords Char.toLower name).toList.filter
      (fun c => isAlphanumeric c || c == '_') = (separateWords Char.toLower name).toList := by
    refine List.filter_eq_self.mpr fun c hc => ?_
    obtain rfl | ⟨letter, hletter, rfl⟩ := mem_separateWords hc
    · rfl
    · simp [isAlphanumeric_toLower (List.mem_filter.mp hletter).2]
  have hwords : (separateWords Char.toLower name).toList.any isAlphanumeric =
      !(letters name.toList).isEmpty := by
    rw [any_isAlphanumeric, letters_separateWords isAlphanumeric_toLower]
    cases letters name.toList <;> rfl
  unfold snakeName
  simp only [hkept, hwords]
  by_cases hempty : letters name.toList = []
  · simp [hempty]
  · have hne : (separateWords Char.toLower name).toList ≠ [] := mt separateWords_eq_nil.mp hempty
    obtain ⟨c, words, hwords⟩ := List.exists_cons_of_ne_nil hne
    simp only [hempty, hwords, repaired, List.isEmpty_iff, Bool.not_not, if_false, List.head?_cons,
      Option.any_some]
    cases isReserved (String.ofList (if c.isDigit then '_' :: c :: words else c :: words)) with
    | false => rfl
    | true => rfl

/-! ## Modules -/

/-- The words that a module is named by. -/
def moduleWords (package : String) : List Char :=
  if letters package.toList = [] then "schema".toList
  else (separateWords Char.toLower package).toList

theorem moduleWords_ne_nil (package : String) : moduleWords package ≠ [] := by
  unfold moduleWords
  split
  · decide
  · next hletters => exact mt separateWords_eq_nil.mp hletters

theorem moduleWords_ends {package : String} {c : Char}
    (h : (moduleWords package).head? = some c ∨ (moduleWords package).getLast? = some c) :
    isAlphanumeric c := by
  unfold moduleWords at h
  split at h
  · obtain h | h := h <;> exact Option.some.inj h ▸ by decide
  · exact separateWords_ends isAlphanumeric_toLower h

theorem moduleName_eq (package : String) :
    moduleName package = String.ofList (repaired (moduleWords package)) := by
  unfold moduleName moduleWords
  rw [snakeName_eq]
  split
  · decide
  · next hletters =>
      have hne : repaired (separateWords Char.toLower package).toList ≠ [] := by
        obtain ⟨before, after, hrepaired⟩ :=
          repaired_eq (separateWords Char.toLower package).toList
        rw [hrepaired]
        exact List.append_ne_nil_of_left_ne_nil
          (List.append_ne_nil_of_right_ne_nil _ (mt separateWords_eq_nil.mp hletters)) _
      simp [hne]

/-- **Modules have one name exactly if their packages have the same words.** -/
theorem moduleName_eq_iff {a b : String} :
    moduleName a = moduleName b ↔ moduleWords a = moduleWords b := by
  have hbare (package : String) : bare (moduleName package).toList = moduleWords package := by
    obtain ⟨before, after, hrepaired⟩ := repaired_eq (moduleWords package)
    rw [moduleName_eq, String.toList_ofList, hrepaired]
    exact bare_of_ends (moduleWords_ne_nil package) (fun _ => moduleWords_ends) before after
  constructor
  · intro h
    rw [← hbare a, ← hbare b, h]
  · intro h
    rw [moduleName_eq, moduleName_eq, h]

/-- The letters of a package in small letters. -/
def moduleLetters (package : String) : List Char :=
  if letters package.toList = [] then "schema".toList
  else (letters package.toList).map Char.toLower

/-- Words break letters up. -/
theorem letters_moduleWords (package : String) :
    letters (moduleWords package) = moduleLetters package := by
  unfold moduleWords moduleLetters
  split
  · decide
  · exact letters_separateWords isAlphanumeric_toLower

end SoapBindings.Naming
