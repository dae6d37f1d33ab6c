/-
# `SoapBindings.Proofs.Naming.Capitals` — the type name of a type name

What is a type name already should stay as it is (`IsTypeName`, `typeName_eq_self_iff`).  A type
name need not be one in this sense, since the capital comes last, when letters have been picked and
reserved words changed: the capital of `ſ` is that of `s`, so `ſelf` becomes the word `Self`, and
the capitals of some letters bring marks along that are no letters.  Where neither happens a type
name stays as it is, and from the second time on every one does (`typeName_twice`).

All this is about first letters, so of the case mapping it is enough to know where it leads with the
first character of an image: to letters that are capitals of their own.
-/
import Mathlib.Data.List.Basic
import SoapBindings.Proofs.Naming.Words

namespace SoapBindings

/-! ## Capitals -/

namespace Text

/-- The ranges stand in order, so a range that holds a code point is reached. -/
theorem inRanges_of_mem {ranges : List (Nat × Nat)} (h : ranges.Pairwise fun r s => r.1 ≤ s.1)
    {r : Nat × Nat} (hr : r ∈ ranges) {n : Nat} (hlow : r.1 ≤ n) (hhigh : n ≤ r.2) :
    inRanges ranges n := by
  induction ranges with
  | nil => cases hr
  | cons s rest ih =>
      obtain ⟨hfirst, hrest⟩ := List.pairwise_cons.mp h
      obtain rfl | hr := List.mem_cons.mp hr
      · simp [inRanges, hlow, hhigh]
      · have hbelow : s.1 ≤ n := (hfirst r hr).trans hlow
        simp [inRanges, hbelow, ih hrest hr]

theorem alphanumericRanges_sorted : alphanumericRanges.Pairwise fun r s => r.1 ≤ s.1 := by
  have htrans : IsTrans (Nat × Nat) fun r s => r.1 ≤ s.1 := ⟨fun _ _ _ => Nat.le_trans⟩
  refine List.isChain_iff_pairwise.mp ?_
  decide +kernel

namespace ImageRun

/-- A point of the run, counted from its first one. -/
structure Holds (r : ImageRun) (i : Nat) : Prop where
  within : r.first + i ≤ r.last
  onStride : i % r.stride = 0

/-- An image that is found comes from one of the runs. -/
theorem find?_eq_some {runs : List ImageRun} {n image : Nat} (h : find? runs n = some image) :
    ∃ r ∈ runs, ∃ i, r.Holds i ∧ n = r.first + i ∧ image = r.target + i := by
  induction runs with
  | nil => cases h
  | cons r rest ih =>
      unfold find? at h
      split at h
      · cases h
      · split at h
        · next hbehind hinside =>
            simp only [Bool.and_eq_true, decide_eq_true_eq, beq_iff_eq] at hinside
            obtain rfl := Option.some.inj h
            exact ⟨r, List.mem_cons_self, n - r.first, ⟨by omega, hinside.2⟩, by omega, rfl⟩
        · obtain ⟨s, hs, h⟩ := ih h
          exact ⟨s, List.mem_cons_of_mem r hs, h⟩

/-- The last image of a run. -/
def lastTarget (r : ImageRun) : Nat := r.target + (r.last - r.first)

/-- No image of the other run is in the run.  Where capitals and small letters take turns, the two
may lie in the same stretch. -/
def misses (r s : ImageRun) : Bool :=
  Nat.blt s.lastTarget r.first || Nat.blt r.last s.target ||
    (Nat.beq r.stride 2 && (Nat.beq s.stride 2 || Nat.beq s.first s.last) &&
      Nat.beq ((s.target + r.first) % 2) 1)

theorem image_ne {r s : ImageRun} (h : r.misses s) {i j : Nat} (hi : r.Holds i) (hj : s.Holds j) :
    s.target + j ≠ r.first + i := by
  have hwithin := hi.within
  have hwithin' := hj.within
  have hr := hi.onStride
  have hs := hj.onStride
  simp only [misses, lastTarget, Bool.or_eq_true, Bool.and_eq_true, Nat.blt_eq, Nat.beq_eq] at h
  intro heq
  obtain (h | h) | ⟨⟨hstride, hother | hsingle⟩, hodd⟩ := h
  · omega
  · omega
  · rw [hstride] at hr
    rw [hother] at hs
    omega
  · rw [hstride] at hr
    omega

/-- The images of a run are letters. -/
def leadsToLetters (r : ImageRun) : Bool :=
  (Nat.blt r.lastTarget 0xD800 || (Nat.blt 0xDFFF r.target && Nat.blt r.lastTarget 0x110000)) &&
    (alphanumericRanges.any
        (fun range => Nat.ble range.1 r.target && Nat.ble r.lastTarget range.2) ||
      (List.range (r.last - r.first + 1)).all fun i =>
        i % r.stride != 0 || inRanges alphanumericRanges (r.target + i))

theorem image_letter {r : ImageRun} (h : r.leadsToLetters) {i : Nat} (hi : r.Holds i) :
    (Char.ofNat (r.target + i)).toNat = r.target + i ∧
      isAlphanumeric (Char.ofNat (r.target + i)) := by
  have hwithin := hi.within
  simp only [leadsToLetters, lastTarget, Bool.and_eq_true, Bool.or_eq_true, Nat.blt_eq, Nat.ble_eq,
    List.any_eq_true, List.all_eq_true, List.mem_range, bne_iff_ne, ne_eq] at h
  obtain ⟨hvalid, hletters⟩ := h
  have hvalid : (r.target + i).isValidChar := by
    obtain hlow | ⟨hlow, hhigh⟩ := hvalid
    · exact .inl (by omega)
    · exact .inr ⟨by omega, by omega⟩
  have hpoint : (Char.ofNat (r.target + i)).toNat = r.target + i := by
    rw [Char.ofNat, dif_pos hvalid]
    rfl
  refine ⟨hpoint, ?_⟩
  rw [isAlphanumeric, hpoint]
  obtain ⟨range, hrange, hlow, hhigh⟩ | hletters := hletters
  · exact inRanges_of_mem alphanumericRanges_sorted hrange (by omega) (by omega)
  · exact (hletters i (by omega)).resolve_left (not_not_intro hi.onStride)

end ImageRun

/-- The runs of the case mapping, where a letter that becomes several characters counts by the first
of them. -/
def capitalRuns : List ImageRun :=
  upperRuns ++ upperExpansions.map fun (n, image) => ⟨n, n, 1, image.headD 0⟩

theorem capitalRuns_apart : capitalRuns.all fun s => capitalRuns.all fun r => r.misses s := by
  decide +kernel

theorem capitalRuns_letters : capitalRuns.all ImageRun.leadsToLetters := by
  decide +kernel

/-- A character is its own capital, or its capital comes from a run. -/
theorem uppercase_cases (c : Char) : uppercase c = [c] ∨
    ∃ r ∈ capitalRuns, ∃ i, r.Holds i ∧ c.toNat = r.first + i ∧
      ∃ more, uppercase c = Char.ofNat (r.target + i) :: more := by
  unfold uppercase
  split
  · next image himage =>
      obtain ⟨before, after, htable, -⟩ := List.lookup_eq_some_iff.mp himage
      have hentry : (c.toNat, image) ∈ upperExpansions := by
        rw [htable]
        exact List.mem_append_right _ List.mem_cons_self
      have hnonempty : ∀ e ∈ upperExpansions, e.2 ≠ [] := by decide +kernel
      obtain ⟨n, more, rfl⟩ := List.exists_cons_of_ne_nil (hnonempty _ hentry)
      refine .inr ⟨_, List.mem_append_right _ (List.mem_map_of_mem hentry), 0, ⟨?_, rfl⟩, ?_, ?_⟩
      · exact Nat.le_refl _
      · exact (Nat.add_zero _).symm
      · exact ⟨more.map Char.ofNat, rfl⟩
  · cases hfound : ImageRun.find? upperRuns c.toNat with
    | none => exact .inl rfl
    | some image =>
        obtain ⟨r, hr, i, hi, hc, rfl⟩ := ImageRun.find?_eq_some hfound
        exact .inr ⟨r, List.mem_append_left _ hr, i, hi, hc, [], rfl⟩

/-- **A capital begins with a letter that is its own capital**, unless the character is neither
letter nor digit and has none. -/
theorem uppercase_head (c : Char) : ∃ first more, uppercase c = first :: more ∧
    uppercase first = [first] ∧ (isAlphanumeric c → isAlphanumeric first) := by
  obtain hself | ⟨r, hr, i, hi, -, more, hcapital⟩ := uppercase_cases c
  · exact ⟨c, [], hself, hself, id⟩
  · obtain ⟨hpoint, hletter⟩ :=
      ImageRun.image_letter (List.all_eq_true.mp capitalRuns_letters r hr) hi
    refine ⟨_, more, hcapital, ?_, fun _ => hletter⟩
    obtain hself | ⟨s, hs, j, hj, hfrom, -⟩ := uppercase_cases (Char.ofNat (r.target + i))
    · exact hself
    · have hmisses := List.all_eq_true.mp (List.all_eq_true.mp capitalRuns_apart r hr) s hs
      exact absurd (hpoint.symm.trans hfrom) (ImageRun.image_ne hmisses hj hi)

end Text

/-! ## Type names -/

namespace Naming

open Text

/-- Letters that are no reserved word and begin with a capital. -/
structure IsTypeName (cs : List Char) : Prop where
  letters : ∀ c ∈ cs, isAlphanumeric c
  unreserved : isReserved (String.ofList cs) = false
  capital : ∀ c ∈ cs.head?, uppercase c = [c]

instance (cs : List Char) : Decidable (IsTypeName cs) :=
  decidable_of_iff (cs.all isAlphanumeric ∧ isReserved (String.ofList cs) = false ∧
      cs.head?.all fun c => uppercase c = [c])
    ⟨fun h => ⟨List.all_eq_true.mp h.1, h.2.1, by simpa [Option.all_eq_true] using h.2.2⟩,
      fun h => ⟨List.all_eq_true.mpr h.letters, h.unreserved,
        by simpa [Option.all_eq_true] using h.capital⟩⟩

/-- Letters that are no reserved word any more. -/
def unreserved (kept : List Char) : List Char :=
  if isReserved (String.ofList kept) then kept ++ letters "Value".toList else kept

theorem toList_typeName (name : String) :
    (typeName name).toList = capitalize (unreserved (letters name.toList)) := String.toList_ofList

theorem unreserved_of_free {kept : List Char} (h : isReserved (String.ofList kept) = false) :
    unreserved kept = kept := if_neg (by simp [h])

theorem letters_of_letters {cs : List Char} (h : ∀ c ∈ cs, isAlphanumeric c) : letters cs = cs :=
  List.filter_eq_self.mpr h

theorem isAlphanumeric_of_mem_letters {cs : List Char} {c : Char} (h : c ∈ letters cs) :
    isAlphanumeric c := (List.mem_filter.mp h).2

theorem mem_reservedWords {kept : List Char} (h : isReserved (String.ofList kept)) :
    kept ∈ reservedWords.map String.toList := by
  have hmem := List.mem_map_of_mem (f := String.toList) (List.contains_iff_mem.mp h)
  rwa [String.toList_ofList] at hmem

/-- A reserved word becomes a type name, and another one. -/
theorem reserved_capitalize : ∀ word ∈ reservedWords.map String.toList,
    IsTypeName (capitalize (word ++ letters "Value".toList)) ∧
      capitalize (word ++ letters "Value".toList) ≠ word ∧ word ≠ "ſelf".toList ∧
      word.head?.all fun c => (uppercase c).all isAlphanumeric := by
  decide +kernel

/-- Of the reserved words one begins with a capital. -/
theorem reserved_of_capital {cs : List Char} (h : isReserved (String.ofList cs))
    (hcapital : ∀ c ∈ cs.head?, uppercase c = [c]) : cs = "Self".toList := by
  have hwords : ∀ word ∈ reservedWords.map String.toList,
      (word.head?.all fun c => uppercase c = [c]) → word = "Self".toList := by
    decide +kernel
  exact hwords cs (mem_reservedWords h) (by simpa [Option.all_eq_true] using hcapital)

/-- What begins with `S` as a capital: three letters, and some that have more than one capital. -/
theorem uppercase_eq_S {c : Char} {more : List Char} (h : uppercase c = 'S' :: more) :
    more = [] ∧ (c = 'S' ∨ c = 's' ∨ c = 'ſ') ∨ more.head?.any (· ≠ 'e') := by
  obtain hself | ⟨r, hr, i, hi, hc, more', hrun⟩ := uppercase_cases c
  · rw [hself] at h
    obtain ⟨rfl, rfl⟩ := List.cons_eq_cons.mp h
    exact .inl ⟨rfl, .inl rfl⟩
  · have hpoint := (ImageRun.image_letter (List.all_eq_true.mp capitalRuns_letters r hr) hi).1
    rw [hrun] at h
    obtain ⟨hfirst, rfl⟩ := List.cons_eq_cons.mp h
    rw [hfirst] at hpoint
    -- The points that the runs lead from to the capital.
    have hsources : ∀ r ∈ capitalRuns, r.target ≤ 'S'.toNat → 'S'.toNat ≤ r.lastTarget →
        r.first + ('S'.toNat - r.target) ∈ [115, 383, 223, 64261, 64262] := by
      decide +kernel
    have hwithin := hi.within
    have hmem := hsources r hr (by omega) (by unfold ImageRun.lastTarget; omega)
    have hi : i = 'S'.toNat - r.target := by omega
    rw [← hi, ← hc] at hmem
    have himages : ∀ n ∈ [115, 383, 223, 64261, 64262],
        (uppercase (Char.ofNat n)).tail = [] ∧ (Char.ofNat n = 's' ∨ Char.ofNat n = 'ſ') ∨
          (uppercase (Char.ofNat n)).tail.head?.any (· ≠ 'e') := by
      decide +kernel
    have himage := himages _ hmem
    rw [Char.ofNat_toNat, hrun, List.tail_cons] at himage
    exact himage.imp_left (And.imp_right .inr)

/-- What becomes the one reserved word with a capital. -/
theorem capitalize_eq_self {kept : List Char} (h : capitalize kept = "Self".toList) :
    kept = "Self".toList ∨ kept = "self".toList ∨ kept = "ſelf".toList := by
  cases kept with
  | nil => cases h
  | cons c rest =>
      obtain ⟨first, more, hcapital, -, -⟩ := uppercase_head c
      have hword : first :: (more ++ rest) = 'S' :: "elf".toList := by
        rw [← List.cons_append, ← hcapital]
        exact h
      obtain ⟨rfl, hrest⟩ := List.cons_eq_cons.mp hword
      obtain ⟨rfl, hletter⟩ | hother := uppercase_eq_S hcapital
      · obtain rfl : rest = "elf".toList := hrest
        obtain rfl | rfl | rfl := hletter
        · exact .inl rfl
        · exact .inr (.inl rfl)
        · exact .inr (.inr rfl)
      · cases more with
        | nil => cases hother
        | cons second more =>
            obtain ⟨rfl, -⟩ := List.cons_eq_cons.mp hrest
            cases hother

/-- **What is a type name already is its own type name**, and nothing else is. -/
theorem typeName_eq_self_iff (name : String) : typeName name = name ↔ IsTypeName name.toList := by
  rw [← String.toList_inj, toList_typeName]
  generalize name.toList = cs
  constructor
  · intro hself
    have hletters : letters (capitalize (unreserved (letters cs))) = letters cs := by rw [hself]
    cases hreserved : isReserved (String.ofList (letters cs)) with
    | true =>
        obtain ⟨hname, hlonger, -⟩ := reserved_capitalize _ (mem_reservedWords hreserved)
        rw [unreserved, if_pos hreserved, letters_of_letters hname.letters] at hletters
        exact absurd hletters hlonger
    | false =>
        rw [unreserved_of_free hreserved] at hself hletters
        cases hkept : letters cs with
        | nil =>
            rw [hkept] at hself
            rw [← hself]
            decide
        | cons c rest =>
            rw [hkept] at hself hletters hreserved
            have hmem (d : Char) (hd : d ∈ c :: rest) : isAlphanumeric d := by
              rw [← hkept] at hd
              exact isAlphanumeric_of_mem_letters hd
            obtain ⟨first, more, hcapital, hfirst, hletter⟩ := uppercase_head c
            have hletter := hletter (hmem c List.mem_cons_self)
            rw [capitalize, hcapital, List.cons_append, letters_cons_of_letter hletter] at hletters
            obtain ⟨rfl, -⟩ := List.cons_eq_cons.mp hletters
            have hsame : cs = first :: rest := by
              rw [← hself, capitalize, hfirst]
              rfl
            rw [hsame]
            refine ⟨hmem, hreserved, ?_⟩
            rintro _ ⟨⟩
            exact hfirst
  · rintro ⟨hletters, hfree, hcapital⟩
    rw [letters_of_letters hletters, unreserved_of_free hfree]
    cases cs with
    | nil => rfl
    | cons c rest =>
        rw [capitalize, hcapital c rfl]
        rfl

/-- The first character of a type name is a letter that is its own capital. -/
theorem typeName_head {name : String} {c : Char} (h : (typeName name).toList.head? = some c) :
    isAlphanumeric c ∧ uppercase c = [c] := by
  rw [toList_typeName] at h
  have hmem : ∀ c ∈ unreserved (letters name.toList), isAlphanumeric c := by
    intro c hc
    unfold unreserved at hc
    split at hc
    · exact (List.mem_append.mp hc).elim isAlphanumeric_of_mem_letters isAlphanumeric_of_mem_letters
    · exact isAlphanumeric_of_mem_letters hc
  cases hkept : unreserved (letters name.toList) with
  | nil =>
      rw [hkept] at h
      cases h
  | cons d rest =>
      obtain ⟨first, more, hcapital, hself, hletter⟩ := uppercase_head d
      rw [hkept, capitalize, hcapital] at h
      obtain rfl : first = c := Option.some.inj h
      exact ⟨hletter (hmem d (hkept ▸ List.mem_cons_self)), hself⟩

/-- A type name is its own type name unless its capital makes it reserved or brings marks along. -/
theorem typeName_idempotent_iff (name : String) : typeName (typeName name) = typeName name ↔
    letters name.toList ≠ "ſelf".toList ∧
      ∀ c ∈ (letters name.toList).head?, ∀ u ∈ uppercase c, isAlphanumeric u := by
  rw [typeName_eq_self_iff, toList_typeName]
  have hmem (c : Char) : c ∈ letters name.toList → isAlphanumeric c := isAlphanumeric_of_mem_letters
  generalize letters name.toList = kept at hmem ⊢
  cases hreserved : isReserved (String.ofList kept) with
  | true =>
      obtain ⟨hname, -, hother, hletters⟩ := reserved_capitalize _ (mem_reservedWords hreserved)
      rw [unreserved, if_pos hreserved]
      exact iff_of_true hname ⟨hother, by simpa [Option.all_eq_true] using hletters⟩
  | false =>
      rw [unreserved_of_free hreserved]
      cases kept with
      | nil => exact iff_of_true (by decide) ⟨by decide, nofun⟩
      | cons c rest =>
          constructor
          · intro hname
            refine ⟨?_, ?_⟩
            · intro hself
              rw [hself] at hname
              exact absurd hname.unreserved (by decide +kernel)
            · rintro _ ⟨⟩ u hu
              exact hname.letters u (List.mem_append_left rest hu)
          · rintro ⟨hother, hcapital⟩
            obtain ⟨first, more, hupper, hfirst, -⟩ := uppercase_head c
            have hhead : ∀ d ∈ (capitalize (c :: rest)).head?, uppercase d = [d] := by
              rw [capitalize, hupper]
              rintro _ ⟨⟩
              exact hfirst
            refine ⟨fun d hd => ?_, ?_, hhead⟩
            · obtain hd | hd := List.mem_append.mp hd
              · exact hcapital c rfl d hd
              · exact hmem d (List.mem_cons_of_mem c hd)
            · by_contra hword
              have hself := reserved_of_capital (by simpa using hword) hhead
              obtain h | h | h := capitalize_eq_self hself
              · rw [h] at hreserved
                exact absurd hreserved (by decide)
              · rw [h] at hreserved
                exact absurd hreserved (by decide)
              · exact hother h

/-- **A type name is its own type name** unless the letters of the name are those of `ſelf`, whose
capital makes it the reserved word `Self`, or the capital of the first letter has marks behind it
that are no letters.  The type name of a type name always is. -/
theorem typeName_twice (name : String) :
    (typeName (typeName name) = typeName name ↔
      letters name.toList ≠ "ſelf".toList ∧
        ∀ c ∈ (letters name.toList).head?, ∀ u ∈ uppercase c, isAlphanumeric u) ∧
    typeName (typeName (typeName name)) = typeName (typeName name) := by
  refine ⟨typeName_idempotent_iff name, (typeName_idempotent_iff (typeName name)).mpr ?_⟩
  cases hname : (typeName name).toList with
  | nil => exact ⟨by decide, nofun⟩
  | cons c rest =>
      obtain ⟨hletter, hcapital⟩ := typeName_head (c := c) (by rw [hname]; rfl)
      rw [letters_cons_of_letter hletter]
      refine ⟨?_, ?_⟩
      · intro hself
        obtain ⟨rfl, -⟩ := List.cons_eq_cons.mp hself
        exact absurd hcapital (by decide +kernel)
      · rintro _ ⟨⟩ u hu
        rw [hcapital] at hu
        rwa [List.mem_singleton.mp hu]

/-- A name that becomes a reserved word with its capital, and one whose capital has two marks. -/
theorem typeName_restless :
    typeName "ſelf" = "Self" ∧ typeName (typeName "ſelf") = "SelfValue" ∧
      typeName "\u0390" = "\u0399\u0308\u0301" ∧ typeName (typeName "\u0390") = "\u0399" := by
  decide +kernel

end Naming

end SoapBindings
