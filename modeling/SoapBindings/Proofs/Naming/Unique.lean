/-
# `SoapBindings.Proofs.Naming.Unique` — names that differ

A name that is taken gets a number, and there are as many numbered forms to try as names in use.
The forms differ from each other and from the name itself, which is in use, so one of them is free.

Type names are letters and digits.  Writing one down puts an underscore before a first digit, which
no other type name begins with, so only the name that has no letters at all can meet another one:
it is written `Value`.
-/
import Mathlib.Data.List.Nodup
import Mathlib.Data.List.Perm.Subperm
import SoapBindings.Naming.Unique
import SoapBindings.Proofs.Naming.Words

namespace SoapBindings.Naming

open Text

/-! ## Numbers -/

theorem toList_numbered (base : String) (n : Nat) :
    (base ++ toString n).toList = base.toList ++ Nat.toDigits 10 n := by
  rw [String.toList_append, Nat.toString_eq_repr, Nat.toList_repr]

theorem numbered_injective (base : String) {i j : Nat}
    (h : base ++ toString i = base ++ toString j) : i = j := by
  have hchars := congrArg String.toList h
  rw [toList_numbered, toList_numbered] at hchars
  have hread := congrArg (Nat.ofDigitChars 10 · 0) (List.append_cancel_left hchars)
  simpa using hread

theorem numbered_ne (base : String) (n : Nat) : base ++ toString n ≠ base := by
  intro h
  have hchars := congrArg String.toList h
  rw [toList_numbered] at hchars
  exact Nat.toDigits_ne_nil (List.append_right_eq_self.mp hchars)

/-- A name and its numbered forms are as many texts as they are counted. -/
theorem nodup_numbered (base : String) (count : Nat) : (base :: numbered base count).Nodup := by
  refine List.nodup_cons.mpr ⟨fun h => ?_, ?_⟩
  · obtain ⟨i, -, hi⟩ := List.mem_map.mp h
    exact numbered_ne base (i + 2) hi
  · refine List.Nodup.map (fun i j h => ?_) List.nodup_range
    have hsame := numbered_injective base h
    omega

/-- One of the numbered forms is free. -/
theorem exists_numbered {used : List String} {base : String} (h : base ∈ used) :
    ∃ name ∈ numbered base used.length, name ∉ used := by
  by_contra hnone
  have hall : base :: numbered base used.length ⊆ used := by
    refine List.cons_subset.mpr ⟨h, fun name hname => ?_⟩
    by_contra hfree
    exact hnone ⟨name, hname, hfree⟩
  have hlength := ((nodup_numbered base used.length).subperm hall).length_le
  simp only [numbered, List.length_cons, List.length_map, List.length_range] at hlength
  omega

/-- A unique name is not in use. -/
theorem unique_fresh (used : List String) (base : String) : unique used base ∉ used := by
  unfold unique
  split
  · next hused =>
      obtain ⟨name, hname, hfree⟩ := exists_numbered (List.contains_iff_mem.mp hused)
      cases hfound : (numbered base used.length).find? fun name => !used.contains name with
      | none =>
          have htaken := List.find?_eq_none.mp hfound name hname
          exact absurd hfree (by simpa using htaken)
      | some found =>
          have hopen := List.find?_some hfound
          simpa using hopen
  · next hunused => simpa using hunused

/-- A unique name is the name itself or a numbered form of it. -/
theorem unique_cases (used : List String) (base : String) :
    unique used base = base ∨ ∃ n : Nat, unique used base = base ++ toString n := by
  unfold unique
  split
  · cases hfound : (numbered base used.length).find? fun name => !used.contains name with
    | none => exact .inl rfl
    | some name =>
        obtain ⟨i, -, rfl⟩ := List.mem_map.mp (List.mem_of_find?_eq_some hfound)
        exact .inr ⟨i + 2, rfl⟩
  · exact .inl rfl

/-! ## Type names -/

/-- No run of letters has an underscore among its capitals. -/
theorem underscore_runs {runs : List ImageRun}
    (hruns : ∀ r ∈ runs, '_'.toNat < r.target ∨ r.target + (r.last - r.first) < '_'.toNat)
    {n image : Nat} (h : ImageRun.find? runs n = some image) : image ≠ '_'.toNat := by
  induction runs with
  | nil => cases h
  | cons r rest ih =>
      unfold ImageRun.find? at h
      split at h
      · cases h
      · split at h
        · next hinside =>
            obtain rfl := Option.some.inj h
            have hlast : n ≤ r.last := by simp_all
            have hr := hruns r List.mem_cons_self
            omega
        · exact ih (fun r hr => hruns r (List.mem_cons_of_mem _ hr)) h

theorem ofNat_ne_underscore {n : Nat} (h : n ≠ '_'.toNat) : Char.ofNat n ≠ '_' := by
  intro heq
  have hvalue := congrArg Char.toNat heq
  by_cases hvalid : n.isValidChar
  · rw [Char.ofNat, dif_pos hvalid] at hvalue
    exact h hvalue
  · rw [Char.ofNat, dif_neg hvalid] at hvalue
    cases hvalue

/-- Nothing but an underscore has one in upper case. -/
theorem underscore_uppercase {c : Char} (h : c ≠ '_') : '_' ∉ uppercase c := by
  unfold uppercase
  split
  · next image himage =>
      have hexpansions : ∀ e ∈ upperExpansions, '_'.toNat ∉ e.2 := by decide +kernel
      obtain ⟨before, after, htable, -⟩ := List.lookup_eq_some_iff.mp himage
      have hentry : (c.toNat, image) ∈ upperExpansions := by
        rw [htable]
        exact List.mem_append_right _ List.mem_cons_self
      intro hmem
      obtain ⟨n, hn, heq⟩ := List.mem_map.mp hmem
      refine ofNat_ne_underscore ?_ heq
      rintro rfl
      exact hexpansions _ hentry hn
  · have hruns : ∀ r ∈ upperRuns,
        '_'.toNat < r.target ∨ r.target + (r.last - r.first) < '_'.toNat := by
      decide +kernel
    cases hfound : ImageRun.find? upperRuns c.toNat with
    | none => simpa using Ne.symm h
    | some image =>
        have hne := ofNat_ne_underscore (underscore_runs hruns hfound)
        simpa using hne.symm

theorem underscore_typeName (name : String) : '_' ∉ (typeName name).toList := by
  have hletters (cs : List Char) : ∀ c ∈ letters cs, c ≠ '_' := by
    rintro c hc rfl
    exact absurd (List.mem_filter.mp hc).2 (by decide)
  have hcapitalize (cs : List Char) (h : ∀ c ∈ cs, c ≠ '_') : '_' ∉ capitalize cs := by
    cases cs with
    | nil => nofun
    | cons c rest =>
        intro hmem
        obtain hmem | hmem := List.mem_append.mp hmem
        · exact underscore_uppercase (h c List.mem_cons_self) hmem
        · exact h _ (List.mem_cons_of_mem _ hmem) rfl
  unfold typeName
  dsimp only
  rw [String.toList_ofList]
  refine hcapitalize _ fun c hc => ?_
  split at hc
  · obtain hc | hc := List.mem_append.mp hc
    · exact hletters _ c hc
    · exact hletters _ c hc
  · exact hletters _ c hc

/-- How a type name is written: as the text for none, as it is, or behind an underscore. -/
theorem typeIdentifier_cases (name : String) :
    name = "" ∧ typeIdentifier name = "Value" ∨ typeIdentifier name = name ∨
      typeIdentifier name = "_" ++ name := by
  unfold typeIdentifier
  split
  · next hempty => exact .inl ⟨String.toList_eq_nil_iff.mp hempty, rfl⟩
  · split
    · exact .inr (.inr rfl)
    · exact .inr (.inl rfl)

/-- Names without underscores are written alike only if they are the same, or one is empty and the
other the text that is written for it. -/
theorem typeIdentifier_eq_iff {a b : String} (ha : '_' ∉ a.toList) (hb : '_' ∉ b.toList) :
    typeIdentifier a = typeIdentifier b ↔
      a = b ∨ a = "" ∧ b = "Value" ∨ a = "Value" ∧ b = "" := by
  have hmem (name : String) : '_' ∈ ("_" ++ name).toList := by
    rw [String.toList_append]
    exact List.mem_append_left _ List.mem_cons_self
  have hbehind {name other : String} (hname : '_' ∉ name.toList) : name ≠ "_" ++ other := by
    rintro rfl
    exact hname (hmem other)
  constructor
  · intro h
    obtain ⟨rfl, hwa⟩ | hwa | hwa := typeIdentifier_cases a <;>
      obtain ⟨rfl, hwb⟩ | hwb | hwb := typeIdentifier_cases b <;>
      replace h := hwa.symm.trans (h.trans hwb)
    · exact .inl rfl
    · exact .inr (.inl ⟨rfl, h.symm⟩)
    · exact absurd h (hbehind (by decide))
    · exact .inr (.inr ⟨h, rfl⟩)
    · exact .inl h
    · exact absurd h (hbehind ha)
    · exact absurd h.symm (hbehind (by decide))
    · exact absurd h.symm (hbehind hb)
    · have hchars := congrArg String.toList h
      rw [String.toList_append, String.toList_append] at hchars
      exact .inl (String.toList_injective (List.append_cancel_left hchars))
  · rintro (rfl | ⟨rfl, rfl⟩ | ⟨rfl, rfl⟩)
    · rfl
    · decide
    · decide

end SoapBindings.Naming
