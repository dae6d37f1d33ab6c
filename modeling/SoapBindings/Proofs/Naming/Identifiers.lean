/-
# `SoapBindings.Proofs.Naming.Identifiers` — names that are identifiers

A name is made an identifier by dropping what is neither letter nor digit, and by an underscore
before a first digit.  That takes for granted that letters can stand in identifiers, which some
cannot: `½` and `Ⓐ` count as letters or digits, and no identifier has them.  `isSpellable` is what
has to be granted.

Then types, fields, methods and modules are named by identifiers.  A constant is so unless the name
of its type begins with a digit, for there the underscore is missing.
-/
import SoapBindings.Emission.SimpleType
import SoapBindings.Proofs.Naming.Unique

namespace SoapBindings.Naming

open Text

/-! ## Identifiers -/

theorem isIdentifier_ofList (c : Char) (rest : List Char) :
    isIdentifier (String.ofList (c :: rest)) =
      ((c == '_' || isIdentifierStart c) && rest.all isIdentifierContinue) := by
  simp [isIdentifier]

theorem isIdentifier_append {cs : List Char} (hne : cs ≠ []) {more : List Char}
    (hmore : ∀ c ∈ more, isIdentifierContinue c) :
    isIdentifier (String.ofList (cs ++ more)) = isIdentifier (String.ofList cs) := by
  obtain ⟨c, rest, rfl⟩ := List.exists_cons_of_ne_nil hne
  rw [List.cons_append, isIdentifier_ofList, isIdentifier_ofList, List.all_append,
    List.all_eq_true.mpr hmore, Bool.and_true]

theorem isIdentifierContinue_underscore : isIdentifierContinue '_' := by decide

theorem isIdentifierContinue_toLower {c : Char} (h : isIdentifierContinue c) :
    isIdentifierContinue c.toLower :=
  toLower_keeps (P := fun c => isIdentifierContinue c) (by decide +kernel) h

theorem isIdentifierContinue_toUpper {c : Char} (h : isIdentifierContinue c) :
    isIdentifierContinue c.toUpper :=
  toUpper_keeps (P := fun c => isIdentifierContinue c) (by decide +kernel) h

/-- What follows from being a digit may be checked for the ten of them. -/
theorem isDigit_forall {P : Char → Prop} (h : ∀ n < 128, (Char.ofNat n).isDigit → P (Char.ofNat n))
    {c : Char} (hc : c.isDigit) : P c := by
  refine ascii_forall (P := fun c => c.isDigit → P c) h ?_ hc
  simp only [Char.isDigit, ge_iff_le, Bool.and_eq_true, decide_eq_true_eq] at hc
  have hle : c.toNat ≤ 57 := UInt32.le_iff_toNat_le.mp hc.2
  omega

theorem isIdentifierStart_of_isDigit {c : Char} (h : c.isDigit) : isIdentifierStart c = false :=
  isDigit_forall (P := fun c => isIdentifierStart c = false) (by decide +kernel) h

theorem isIdentifierContinue_of_isDigit {c : Char} (h : c.isDigit) : isIdentifierContinue c :=
  isDigit_forall (P := fun c => isIdentifierContinue c) (by decide +kernel) h

/-- No identifier begins with a digit. -/
theorem isIdentifier_of_isDigit {c : Char} (h : c.isDigit) (rest : List Char) :
    isIdentifier (String.ofList (c :: rest)) = false := by
  have hunderscore : c ≠ '_' := by
    rintro rfl
    cases h
  rw [isIdentifier_ofList, isIdentifierStart_of_isDigit h]
  simp [hunderscore]

/-! ## Spellings -/

/-- A character that may come first in a name, where digits are put behind an underscore. -/
def isInitial (c : Char) : Bool := isAlphanumeric c && (c.isDigit || isIdentifierStart c)

/-- Text that is an identifier but for an underscore before it. -/
structure Spelling (cs : List Char) : Prop where
  within : ∀ c ∈ cs, isIdentifierContinue c
  initial : ∀ c, cs.head? = some c → isInitial c

instance (cs : List Char) : Decidable (Spelling cs) :=
  decidable_of_iff (cs.all isIdentifierContinue ∧ cs.head?.all isInitial)
    ⟨fun h => ⟨List.all_eq_true.mp h.1, (Option.all_eq_true ..).mp h.2⟩,
      fun h => ⟨List.all_eq_true.mpr h.within, (Option.all_eq_true ..).mpr h.initial⟩⟩

theorem Spelling.nil : Spelling [] := ⟨nofun, nofun⟩

theorem Spelling.append {cs ds : List Char} (h : Spelling cs) (h' : Spelling ds) :
    Spelling (cs ++ ds) := by
  refine ⟨fun c hc => (List.mem_append.mp hc).elim (h.within c) (h'.within c), fun c hc => ?_⟩
  rw [List.head?_append, Option.or_eq_some_iff] at hc
  exact hc.elim (h.initial c) fun hc => h'.initial c hc.2

/-- The letters of a name are a spelling, also with a capital. -/
def isSpellable (name : String) : Bool :=
  decide (Spelling (letters name.toList)) && decide (Spelling (capitalize (letters name.toList)))

theorem spelling_letters {name : String} (h : isSpellable name) :
    Spelling (letters name.toList) := by
  simp only [isSpellable, Bool.and_eq_true, decide_eq_true_eq] at h
  exact h.1

theorem spelling_capitalize {name : String} (h : isSpellable name) :
    Spelling (capitalize (letters name.toList)) := by
  simp only [isSpellable, Bool.and_eq_true, decide_eq_true_eq] at h
  exact h.2

/-- Names in ASCII are spellable. -/
theorem isSpellable_of_ascii {name : String} (h : ∀ c ∈ name.toList, c.toNat < 128) :
    isSpellable name := by
  have hletter : ∀ c ∈ letters name.toList,
      isIdentifierContinue c ∧ isInitial c ∧ Spelling (uppercase c) := by
    intro c hc
    obtain ⟨hmem, halphanumeric⟩ := List.mem_filter.mp hc
    exact ascii_forall (P := fun c => isAlphanumeric c →
      isIdentifierContinue c ∧ isInitial c ∧ Spelling (uppercase c)) (by decide +kernel) (h c hmem)
      halphanumeric
  have hspelling {cs : List Char} (hcs : cs ⊆ letters name.toList) : Spelling cs :=
    ⟨fun c hc => (hletter c (hcs hc)).1,
      fun c hc => (hletter c (hcs (List.mem_of_mem_head? hc))).2.1⟩
  have hcapital : Spelling (capitalize (letters name.toList)) := by
    cases hletters : letters name.toList with
    | nil => exact .nil
    | cons c rest =>
        rw [hletters] at hletter hspelling
        exact (hletter c List.mem_cons_self).2.2.append (hspelling (List.subset_cons_self c rest))
  simp only [isSpellable, hspelling (fun _ h => h), hcapital, decide_true, Bool.and_self]

/-! ## Types -/

theorem letters_value : letters "Value".toList = "Value".toList := by decide

/-- The name of a type is spelled by what spells the name that it comes from. -/
theorem typeName_spelling {name : String} (h : isSpellable name) :
    Spelling (typeName name).toList := by
  have hvalue : Spelling "Value".toList := by decide +kernel
  unfold typeName
  rw [String.toList_ofList, letters_value]
  cases hletters : letters name.toList with
  | nil => exact .nil
  | cons c rest =>
      have hcapital := spelling_capitalize h
      rw [hletters] at hcapital
      split
      · have hsplit : capitalize (c :: rest ++ "Value".toList) =
            capitalize (c :: rest) ++ "Value".toList := by simp [capitalize]
        rw [hsplit]
        exact hcapital.append hvalue
      · exact hcapital

theorem isIdentifier_spelling {c : Char} {rest : List Char} (h : Spelling (c :: rest)) :
    isIdentifier (String.ofList (c :: rest)) = !c.isDigit := by
  cases hdigit : c.isDigit with
  | true => exact isIdentifier_of_isDigit hdigit rest
  | false =>
      have hrest : rest.all isIdentifierContinue :=
        List.all_eq_true.mpr fun d hd => h.within d (List.mem_cons_of_mem c hd)
      have hinitial := h.initial c rfl
      simp only [isInitial, hdigit, Bool.false_or, Bool.and_eq_true] at hinitial
      rw [isIdentifier_ofList, hrest, hinitial.2, Bool.or_true]
      rfl

/-- An underscore takes care of a first digit. -/
theorem isIdentifier_underscore {cs : List Char} (h : Spelling cs) :
    isIdentifier (String.ofList ('_' :: cs)) := by
  rw [isIdentifier_ofList, List.all_eq_true.mpr h.within]
  rfl

/-- Types are named by identifiers. -/
theorem isIdentifier_typeIdentifier {name : String} (h : Spelling name.toList) :
    isIdentifier (typeIdentifier name) := by
  unfold typeIdentifier
  split
  · decide
  · next c rest hname =>
      rw [hname] at h
      have hname : name = String.ofList (c :: rest) := by rw [← hname, String.ofList_toList]
      split
      · have hunderscore : "_" ++ name = String.ofList ('_' :: c :: rest) := by
          rw [hname, ← String.ofList_append]
          rfl
        rw [hunderscore]
        exact isIdentifier_underscore h
      · next hdigit =>
          rw [hname, isIdentifier_spelling h]
          simpa using hdigit

/-! ## Words -/

section Words

variable {convert : Char → Char} {name : String}
  (hcontinue : ∀ {c}, isIdentifierContinue c → isIdentifierContinue (convert c))
  (hinitial : ∀ {c}, isInitial c → isInitial (convert c))

include hcontinue hinitial

/-- The words of a name are spelled by its letters. -/
theorem separateWords_spelling (h : Spelling (letters name.toList)) :
    Spelling (separateWords convert name).toList := by
  refine ⟨fun c hc => ?_, fun c hc => ?_⟩
  · obtain rfl | ⟨letter, hletter, rfl⟩ := mem_separateWords hc
    · exact isIdentifierContinue_underscore
    · exact hcontinue (h.within letter hletter)
  · rw [separateWords_head?] at hc
    obtain ⟨letter, hletter, rfl⟩ := Option.map_eq_some_iff.mp hc
    exact hinitial (h.initial letter hletter)

end Words

theorem isInitial_toLower {c : Char} (h : isInitial c) : isInitial c.toLower :=
  toLower_keeps (P := fun c => isInitial c) (by decide +kernel) h

theorem isInitial_toUpper {c : Char} (h : isInitial c) : isInitial c.toUpper :=
  toUpper_keeps (P := fun c => isInitial c) (by decide +kernel) h

/-- Repaired words are an identifier. -/
theorem isIdentifier_repaired {words : List Char} (h : Spelling words) (hne : words ≠ []) :
    isIdentifier (String.ofList (repaired words)) := by
  have hbegun : isIdentifier (String.ofList
      (if words.head?.any Char.isDigit then '_' :: words else words)) := by
    split
    · exact isIdentifier_underscore h
    · next hdigit =>
        obtain ⟨c, rest, rfl⟩ := List.exists_cons_of_ne_nil hne
        rw [isIdentifier_spelling h]
        simpa using hdigit
  unfold repaired
  generalize (if words.head?.any Char.isDigit then '_' :: words else words) = begun at hbegun ⊢
  dsimp only
  split
  · have hne : begun ≠ [] := by
      rintro rfl
      exact absurd hbegun (by decide)
    rw [isIdentifier_append hne, hbegun]
    exact fun d hd => List.mem_singleton.mp hd ▸ isIdentifierContinue_underscore
  · exact hbegun

/-- Fields and methods are named by identifiers. -/
theorem isIdentifier_fieldName {name : String} (h : isSpellable name) :
    isIdentifier (fieldName name) := by
  unfold fieldName
  rw [snakeName_eq]
  by_cases hempty : letters name.toList = []
  · rw [if_pos hempty]
    decide
  · have hspelling : Spelling (separateWords Char.toLower name).toList :=
      separateWords_spelling isIdentifierContinue_toLower isInitial_toLower (spelling_letters h)
    have hidentifier := isIdentifier_repaired hspelling (mt separateWords_eq_nil.mp hempty)
    rw [if_neg hempty]
    dsimp only
    split
    · decide
    · exact hidentifier

/-- Modules are named by identifiers. -/
theorem isIdentifier_moduleName {package : String} (h : isSpellable package) :
    isIdentifier (moduleName package) := by
  rw [moduleName_eq]
  refine isIdentifier_repaired ?_ (moduleWords_ne_nil package)
  unfold moduleWords
  split
  · decide +kernel
  · exact separateWords_spelling isIdentifierContinue_toLower isInitial_toLower (spelling_letters h)

/-! ## Numbers -/

theorem isDigit_of_mem_toDigits {n : Nat} {c : Char} (h : c ∈ Nat.toDigits 10 n) : c.isDigit :=
  Nat.isDigit_of_mem_toDigits (by decide) (by decide) h

/-- A number behind a name neither makes it an identifier nor prevents that. -/
theorem isIdentifier_unique (used : List String) (base : String) :
    isIdentifier (unique used base) = isIdentifier base := by
  have hnumbered (n : Nat) : isIdentifier (base ++ toString n) = isIdentifier base := by
    have hdigits : ∀ c ∈ Nat.toDigits 10 n, c.isDigit := fun _ => isDigit_of_mem_toDigits
    have happend : base ++ toString n = String.ofList (base.toList ++ Nat.toDigits 10 n) := by
      rw [String.ofList_append, String.ofList_toList]
      rfl
    rw [happend]
    by_cases hbase : base.toList = []
    · obtain ⟨c, rest, hn⟩ := List.exists_cons_of_ne_nil (Nat.toDigits_ne_nil (n := n) (b := 10))
      have hc : c.isDigit := hdigits c (hn ▸ List.mem_cons_self)
      rw [hbase, hn, List.nil_append, isIdentifier_of_isDigit hc]
      simp [isIdentifier, hbase]
    · rw [isIdentifier_append hbase fun c hc => isIdentifierContinue_of_isDigit (hdigits c hc),
        String.ofList_toList]
  obtain h | ⟨n, h⟩ := unique_cases used base
  · rw [h]
  · rw [h, hnumbered]

/-! ## Constants -/

/-- The first letter of a name is a digit. -/
def beginsWithDigit (name : String) : Bool := (letters name.toList).head?.any Char.isDigit

theorem isDigit_toUpper (c : Char) : c.toUpper.isDigit = c.isDigit := by
  cases hc : c.isDigit with
  | true => exact toUpper_keeps (P := fun c => c.isDigit) (by decide +kernel) hc
  | false => exact toUpper_keeps (P := fun c => c.isDigit = false) (by decide +kernel) hc

theorem Spelling.letters {cs : List Char} (h : Spelling cs) : Spelling (Naming.letters cs) := by
  refine ⟨fun c hc => h.within c (List.mem_filter.mp hc).1, fun c hc => ?_⟩
  cases cs with
  | nil => cases hc
  | cons first rest =>
      have hfirst := h.initial first rfl
      simp only [isInitial, Bool.and_eq_true] at hfirst
      rw [letters_cons_of_letter hfirst.1] at hc
      exact Option.some.inj hc ▸ h.initial first rfl

/-- The words of a constant begin with a digit if its name does. -/
theorem constantName_spelling {name : String} (h : Spelling name.toList) :
    Spelling (constantName name).toList :=
  separateWords_spelling isIdentifierContinue_toUpper isInitial_toUpper h.letters

theorem constantName_head? (name : String) :
    (constantName name).toList.head?.any Char.isDigit = beginsWithDigit name := by
  rw [constantName, separateWords_head?, beginsWithDigit]
  cases (letters name.toList).head? with
  | none => rfl
  | some c => exact isDigit_toUpper c

/-- What stands behind a first word makes no difference, and need not follow a word at all. -/
theorem isIdentifier_behind {name : String} (h : Spelling name.toList) {suffix : List Char}
    (hsuffix : ∀ c ∈ suffix, isIdentifierContinue c) :
    isIdentifier (name ++ "_" ++ String.ofList suffix) = !name.toList.head?.any Char.isDigit := by
  have hchars : name ++ "_" ++ String.ofList suffix =
      String.ofList (name.toList ++ '_' :: suffix) := by
    rw [String.append_assoc, String.ofList_append, String.ofList_toList, String.ofList_cons]
    rfl
  rw [hchars]
  cases hname : name.toList with
  | nil =>
      rw [List.nil_append, isIdentifier_ofList, List.all_eq_true.mpr hsuffix]
      rfl
  | cons c rest =>
      rw [hname] at h
      rw [isIdentifier_append (List.cons_ne_nil c rest), isIdentifier_spelling h]
      · rfl
      · exact List.forall_mem_cons.mpr ⟨isIdentifierContinue_underscore, hsuffix⟩

end SoapBindings.Naming

namespace SoapBindings.Emission

open Naming

/-- A constant is named by an identifier unless the name of its type begins with a digit. -/
theorem isIdentifier_constantName {synonym : String} (h : Spelling synonym.toList) (index : Nat)
    {value : String} (hvalue : isSpellable value) :
    isIdentifier (constantName synonym index value) = !beginsWithDigit synonym := by
  have hbehind {suffix : List Char} (hsuffix : ∀ c ∈ suffix, Text.isIdentifierContinue c) :
      isIdentifier (Naming.constantName synonym ++ "_" ++ String.ofList suffix) =
        !beginsWithDigit synonym := by
    rw [isIdentifier_behind (constantName_spelling h) hsuffix, constantName_head?]
  unfold constantName
  dsimp only
  split
  · have hindex : ∀ c ∈ Nat.toDigits 10 index, Text.isIdentifierContinue c :=
      fun c hc => isIdentifierContinue_of_isDigit (isDigit_of_mem_toDigits hc)
    exact hbehind hindex
  · rw [← String.ofList_toList (s := Naming.constantName (typeName value))]
    exact hbehind (constantName_spelling (typeName_spelling hvalue)).within

end SoapBindings.Emission
