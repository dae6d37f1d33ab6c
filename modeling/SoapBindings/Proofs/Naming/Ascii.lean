/-
# `SoapBindings.Proofs.Naming.Ascii` — names made of ASCII

Of a name in ASCII nothing but small letters, digits and underscores goes into the name of a field
or a module.  The repairs come in an order in which none undoes another: an underscore behind a
reserved word is no digit, and no reserved word has an underscore at one of its ends.

A type within another one is named by several type names in a row, and what they spell together is
not looked up among the reserved words.  It need not be: each of them is its own type name, so it
begins with a capital or a digit, and inside a reserved word there is neither.
-/
import SoapBindings.Proofs.Naming.Capitals
import SoapBindings.Proofs.Naming.Identifiers

namespace SoapBindings.Naming

open Text

/-- All characters of the name are from ASCII. -/
def IsAscii (name : String) : Prop := ∀ c ∈ name.toList, c.toNat < 128

-- The instance is named, since another one would go through all the characters there are.
instance (name : String) : Decidable (IsAscii name) := List.decidableBAll _ _

/-! ## Fields and modules -/

/-- A small letter or a digit. -/
def isSmall (c : Char) : Bool := c.isLower || c.isDigit

/-- Small letters, digits and underscores that generated code may use as a name. -/
structure IsSnakeCase (name : String) : Prop where
  nonempty : name ≠ ""
  begins : ∀ c ∈ name.toList.head?, c.isLower ∨ c = '_'
  continues : ∀ c ∈ name.toList.tail, c.isLower ∨ c.isDigit ∨ c = '_'
  told : ∃ c ∈ name.toList, c.isLower ∨ c.isDigit
  unreserved : isReserved name = false

/-- Small letters and digits with underscores among them, but none in front. -/
structure AreWords (cs : List Char) : Prop where
  begins : cs.head?.any isSmall
  within : ∀ c ∈ cs, isSmall c ∨ c = '_'

instance (cs : List Char) : Decidable (AreWords cs) :=
  decidable_of_iff (cs.head?.any isSmall ∧ cs.all fun c => isSmall c || c == '_')
    ⟨fun h => ⟨h.1, by simpa using h.2⟩, fun h => ⟨h.begins, by simpa using h.within⟩⟩

theorem reserved_ends : ∀ word ∈ reservedWords.map String.toList,
    word.head? ≠ some '_' ∧ word.getLast? ≠ some '_' := by
  decide +kernel

/-- An underscore at an end tells a name from the reserved words. -/
theorem isReserved_of_ends {cs : List Char} (h : cs.head? = some '_' ∨ cs.getLast? = some '_') :
    isReserved (String.ofList cs) = false := by
  cases hreserved : isReserved (String.ofList cs) with
  | false => rfl
  | true =>
      have hends := reserved_ends cs (mem_reservedWords hreserved)
      exact h.elim (absurd · hends.1) (absurd · hends.2)

/-- The underscore behind a reserved word makes no other one. -/
theorem isReserved_repaired (words : List Char) :
    isReserved (String.ofList (repaired words)) = false := by
  unfold repaired
  dsimp only
  generalize (if words.head?.any Char.isDigit then '_' :: words else words) = begun
  split
  · exact isReserved_of_ends (.inr List.getLast?_concat)
  · next hfree => simpa using hfree

/-- No module is named by a reserved word, whatever its package is called. -/
theorem isReserved_moduleName (package : String) : isReserved (moduleName package) = false := by
  rw [moduleName_eq]
  exact isReserved_repaired _

/-- Words are a name once they are repaired. -/
theorem isSnakeCase_repaired {words : List Char} (h : AreWords words) :
    IsSnakeCase (String.ofList (repaired words)) := by
  have hfree := isReserved_repaired words
  cases words with
  | nil => exact absurd h.begins (by decide)
  | cons c rest =>
      have hc : c.isLower ∨ c.isDigit := by simpa [isSmall] using h.begins
      obtain ⟨after, hrepaired⟩ := repaired_begun (c :: rest)
      rw [List.head?_cons, Option.any_some] at hrepaired
      have hwithin : ∀ d ∈ repaired (c :: rest), d.isLower ∨ d.isDigit ∨ d = '_' := by
        intro d hd
        rw [hrepaired, List.mem_append, List.mem_append] at hd
        obtain (hd | hd) | hd := hd
        · split at hd
          · exact .inr (.inr (List.mem_singleton.mp hd))
          · cases hd
        · simpa [isSmall, or_assoc] using h.within d hd
        · exact .inr (.inr (List.eq_of_mem_replicate hd))
      have hmem : c ∈ repaired (c :: rest) := by
        rw [hrepaired]
        exact List.mem_append_left _ (List.mem_append_right _ List.mem_cons_self)
      have hhead : ∀ d ∈ (repaired (c :: rest)).head?, d.isLower ∨ d = '_' := by
        rw [hrepaired]
        cases hdigit : c.isDigit with
        | true => rintro _ ⟨⟩; exact .inr rfl
        | false => rintro _ ⟨⟩; exact .inl (hc.resolve_right (by simp [hdigit]))
      refine ⟨fun hempty => ?_, ?_, fun d hd => ?_, ⟨c, ?_, hc⟩, hfree⟩
      · rw [String.ofList_eq_empty_iff.mp hempty] at hmem
        cases hmem
      · rwa [String.toList_ofList]
      · rw [String.toList_ofList] at hd
        exact hwithin d (List.mem_of_mem_tail hd)
      · rwa [String.toList_ofList]

theorem isSmall_toLower {c : Char} (hascii : c.toNat < 128) (hc : isAlphanumeric c) :
    isSmall c.toLower :=
  ascii_forall (P := fun c => isAlphanumeric c → isSmall c.toLower) (by decide +kernel) hascii hc

/-- The words of a name in ASCII, where it has letters or digits at all. -/
theorem areWords_separateWords {name : String} (hascii : IsAscii name)
    (hletters : letters name.toList ≠ []) :
    AreWords (separateWords Char.toLower name).toList := by
  have hsmall : ∀ c ∈ letters name.toList, isSmall c.toLower := fun c hc =>
    isSmall_toLower (hascii c (List.mem_filter.mp hc).1) (isAlphanumeric_of_mem_letters hc)
  refine ⟨?_, fun c hc => ?_⟩
  · obtain ⟨first, others, hfirst⟩ := List.exists_cons_of_ne_nil hletters
    rw [separateWords_head?, hfirst]
    exact hsmall first (hfirst ▸ List.mem_cons_self)
  · obtain rfl | ⟨letter, hletter, rfl⟩ := mem_separateWords hc
    · exact .inr rfl
    · exact .inl (hsmall letter hletter)

theorem isSnakeCase_moduleName {package : String} (hascii : IsAscii package) :
    IsSnakeCase (moduleName package) := by
  rw [moduleName_eq]
  refine isSnakeCase_repaired ?_
  unfold moduleWords
  split
  · decide
  · next hletters => exact areWords_separateWords hascii hletters

theorem isSnakeCase_fieldName {name : String} (hascii : IsAscii name) :
    IsSnakeCase (fieldName name) := by
  unfold fieldName
  rw [snakeName_eq]
  by_cases hletters : letters name.toList = []
  · have hvalue : IsSnakeCase (String.ofList (repaired "value".toList)) :=
      isSnakeCase_repaired (by decide)
    rw [if_pos hletters]
    exact hvalue
  · have hname := isSnakeCase_repaired (areWords_separateWords hascii hletters)
    rw [if_neg hletters]
    dsimp only
    rwa [if_neg (mt String.isEmpty_iff.mp hname.nonempty)]

/-! ## Types -/

/-- A name that generated code may give to a type. -/
structure IsUsable (name : String) : Prop where
  identifier : isIdentifier name
  unreserved : isReserved name = false

/-- The type name of a name in ASCII is one of its own. -/
theorem isTypeName_ascii {name : String} (hascii : IsAscii name) :
    IsTypeName (typeName name).toList := by
  have hletters : ∀ c ∈ letters name.toList, c.toNat < 128 ∧ isAlphanumeric c := fun c hc =>
    ⟨hascii c (List.mem_filter.mp hc).1, isAlphanumeric_of_mem_letters hc⟩
  refine (typeName_eq_self_iff _).mp ((typeName_idempotent_iff name).mpr ⟨fun hself => ?_, ?_⟩)
  · have hlong := (hletters 'ſ' (by rw [hself]; decide)).1
    exact absurd hlong (by decide)
  · intro c hc u hu
    obtain ⟨hc, hletter⟩ := hletters c (List.mem_of_mem_head? hc)
    have hcapital : (uppercase c).all isAlphanumeric :=
      ascii_forall (P := fun c => isAlphanumeric c → (uppercase c).all isAlphanumeric)
        (by decide +kernel) hc hletter
    exact List.all_eq_true.mp hcapital u hu

/-- What type names in a row begin with is its own capital. -/
theorem join_capital {names : List String} (h : ∀ name ∈ names, IsTypeName name.toList) :
    ∀ c ∈ (names.flatMap String.toList).head?, uppercase c = [c] := by
  induction names with
  | nil => nofun
  | cons name names ih =>
      obtain ⟨hname, hnames⟩ := List.forall_mem_cons.mp h
      rw [List.flatMap_cons]
      cases hcs : name.toList with
      | nil => exact ih hnames
      | cons c rest =>
          rintro _ ⟨⟩
          exact hname.capital c (by rw [hcs]; rfl)

/-- In a row, type names do not spell `Self`: no letter inside it is a capital. -/
theorem join_ne_self {names : List String} (h : ∀ name ∈ names, IsTypeName name.toList) :
    names.flatMap String.toList ≠ "Self".toList := by
  induction names with
  | nil => decide
  | cons name names ih =>
      obtain ⟨hname, hnames⟩ := List.forall_mem_cons.mp h
      rw [List.flatMap_cons]
      cases hcs : name.toList with
      | nil => exact ih hnames
      | cons c rest =>
          intro hself
          have hcapital := join_capital hnames
          cases hbehind : names.flatMap String.toList with
          | nil =>
              rw [hbehind, List.append_nil, ← hcs] at hself
              exact absurd hname.unreserved (by rw [hself]; decide)
          | cons d more =>
              have hword : "Self".toList = ['S', 'e', 'l', 'f'] := by decide
              have hsmall : ['e', 'l', 'f'].all fun d => uppercase d != [d] := by decide +kernel
              rw [hbehind] at hself hcapital
              have hrest : rest ++ d :: more = ['e', 'l', 'f'] :=
                (List.cons_eq_cons.mp (hself.trans hword)).2
              have hmem : d ∈ rest ++ d :: more := List.mem_append_right _ List.mem_cons_self
              have hother := List.all_eq_true.mp hsmall d (hrest ▸ hmem)
              exact bne_iff_ne.mp hother (hcapital d rfl)

/-- Type names in a row are no reserved word. -/
theorem isReserved_join {names : List String} (h : ∀ name ∈ names, IsTypeName name.toList) :
    isReserved (String.join names) = false := by
  cases hreserved : isReserved (String.join names) with
  | false => rfl
  | true =>
      rw [← String.ofList_toList (s := String.join names), String.toList_join] at hreserved
      exact absurd (reserved_of_capital hreserved (join_capital h)) (join_ne_self h)

theorem isReserved_typeIdentifier {name : String} (h : isReserved name = false) :
    isReserved (typeIdentifier name) = false := by
  obtain ⟨-, hname⟩ | hname | hname := typeIdentifier_cases name
  · rw [hname]
    decide
  · rwa [hname]
  · have hunderscore : "_" ++ name = String.ofList ('_' :: name.toList) := by
      rw [← List.singleton_append, String.ofList_append, String.ofList_toList]
    rw [hname, hunderscore]
    exact isReserved_of_ends (.inl rfl)

/-- Names in ASCII make up the name of a type, however many of them there are. -/
theorem isUsable_join {names : List String} (hascii : ∀ name ∈ names, IsAscii name) :
    IsUsable (typeIdentifier (String.join (names.map typeName))) := by
  have hspelling : Spelling (String.join (names.map typeName)).toList := by
    rw [String.toList_join, List.flatMap_map]
    induction names with
    | nil => exact .nil
    | cons name names ih =>
        obtain ⟨hname, hnames⟩ := List.forall_mem_cons.mp hascii
        exact (typeName_spelling (isSpellable_of_ascii hname)).append (ih hnames)
  refine ⟨isIdentifier_typeIdentifier hspelling, isReserved_typeIdentifier (isReserved_join ?_)⟩
  exact List.forall_mem_map.mpr fun name hname => isTypeName_ascii (hascii name hname)

/-- **Names in ASCII become names that code may use.**  Fields, methods and modules are named in
snake case and by no reserved word.  So is no type, and it is named by an identifier, whether it has
the type name of one name or, as a type within others, of several in a row. -/
theorem ascii_usable (names : List String) (hascii : ∀ name ∈ names, IsAscii name) :
    (∀ name ∈ names, IsSnakeCase (fieldName name) ∧ IsSnakeCase (moduleName name) ∧
      IsUsable (typeIdentifier (typeName name))) ∧
    IsUsable (typeIdentifier (String.join (names.map typeName))) := by
  refine ⟨fun name hname => ?_, isUsable_join hascii⟩
  have hone := isUsable_join (List.forall_mem_singleton.mpr (hascii name hname))
  have hjoin : String.join ([name].map typeName) = typeName name := by simp [String.join]
  rw [hjoin] at hone
  exact ⟨isSnakeCase_fieldName (hascii name hname), isSnakeCase_moduleName (hascii name hname),
    hone⟩

/-- Names that hardly are any: a reserved word, the two halves of another one, one of digits, one
without letters. -/
theorem ascii_usable_hard :
    (∀ name ∈ ["mod", "Se", "lf", "2nd", "--"], IsAscii name) ∧
    ["mod", "Se", "lf", "2nd", "--"].map moduleName = ["mod_", "se", "lf", "_2nd", "schema"] ∧
    IsSnakeCase "mod_" ∧
    String.join (["Se", "lf"].map typeName) = "SeLf" ∧ IsUsable "SeLf" := by
  have hascii : ∀ name ∈ ["mod", "Se", "lf", "2nd", "--"], IsAscii name := by decide
  have hhalves : ∀ name ∈ ["Se", "lf"], IsAscii name := by decide
  have hmod : moduleName "mod" = "mod_" := by decide +kernel
  have hself : typeIdentifier (String.join (["Se", "lf"].map typeName)) = "SeLf" := by
    decide +kernel
  refine ⟨hascii, by decide +kernel, ?_, by decide +kernel, ?_⟩
  · exact hmod ▸ ((ascii_usable _ hascii).1 "mod" List.mem_cons_self).2.1
  · exact hself ▸ (ascii_usable _ hhalves).2

end SoapBindings.Naming
