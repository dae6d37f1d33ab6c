/-
# `SoapBindings.Proofs.Emission.Constants` — the constants of a synonym

Each value that a simple type enumerates (`Enumerates`) becomes a constant.  It is a value of the
synonym if the target of the synonym is a scalar and the text of the value denotes something in it,
and otherwise it is the text.  `Scalar.Denotes` says what texts denote without reading them, and
`literal?_eq_some` that reading agrees.
-/
import SoapBindings.Proofs.Decimal.Overflow
import SoapBindings.Proofs.Emission.Distinct

namespace SoapBindings

open Decimal

/-! ## What texts denote -/

/-- The whole numbers of a scalar lie between two bounds: those that as many bits hold as its name
says, with a sign or without. -/
inductive Scalar.Ranges : Scalar → Int → Int → Prop
  | i8 : Ranges .i8 (-2 ^ 7) (2 ^ 7 - 1)
  | i16 : Ranges .i16 (-2 ^ 15) (2 ^ 15 - 1)
  | i32 : Ranges .i32 (-2 ^ 31) (2 ^ 31 - 1)
  | i64 : Ranges .i64 (-2 ^ 63) (2 ^ 63 - 1)
  | u8 : Ranges .u8 0 (2 ^ 8 - 1)
  | u16 : Ranges .u16 0 (2 ^ 16 - 1)
  | u32 : Ranges .u32 0 (2 ^ 32 - 1)
  | u64 : Ranges .u64 0 (2 ^ 64 - 1)

/-- The numbers of a scalar have a binary format. -/
inductive Scalar.Floats : Scalar → BinaryFormat → Prop
  | f32 : Floats .f32 binary32
  | f64 : Floats .f64 binary64

/-- What a text denotes in a scalar: a whole number within the bounds of the scalar, where only
bounds below zero admit a minus sign; a number that is not too great for the format of the scalar;
or a truth value. -/
inductive Scalar.Denotes : Scalar → String → Literal → Prop
  | integer {scalar : Scalar} {low high : Int} {text : String} {sign : Sign} {digits : List Char}
      (hranges : scalar.Ranges low high) (htext : text.toList = sign.text ++ digits)
      (hdigits : IsDigits digits) (hsign : sign = .minus → low < 0)
      (hlow : low ≤ sign.apply (Nat.ofDigitChars 10 digits 0))
      (hhigh : sign.apply (Nat.ofDigitChars 10 digits 0) ≤ high) :
      Denotes scalar text (.integer scalar (sign.apply (Nat.ofDigitChars 10 digits 0)))
  | floating {scalar : Scalar} {format : BinaryFormat} {text : String} {sign : Sign} {d : Numeral}
      (hfloats : scalar.Floats format) (htext : text.toList = sign.text ++ d.text)
      (hd : d.IsWellFormed) (hvalue : d.value < format.overflow) :
      Denotes scalar text (.floating scalar format
        (.ofDecimal format (sign = .minus) (Nat.ofDigitChars 10 d.digits 0) d.scale))
  | yes {text : String} (h : text = "true" ∨ text = "1") : Denotes .bool text (.boolean true)
  | no {text : String} (h : text = "false" ∨ text = "0") : Denotes .bool text (.boolean false)

namespace Scalar

theorem ranges_iff {scalar : Scalar} {low high : Int} :
    scalar.Ranges low high ↔ scalar.bounds? = some (low, high) := by
  constructor
  · intro h
    cases h <;> rfl
  · intro h
    cases scalar <;> cases h <;> constructor

theorem Ranges.low_nonpos {scalar : Scalar} {low high : Int} (h : scalar.Ranges low high) :
    low ≤ 0 := by
  cases h <;> decide

theorem floats_iff {scalar : Scalar} {format : BinaryFormat} :
    scalar.Floats format ↔ scalar.format? = some format := by
  constructor
  · intro h
    cases h <;> rfl
  · intro h
    cases scalar <;> cases h <;> constructor

theorem Floats.isUsual {scalar : Scalar} {format : BinaryFormat} (h : scalar.Floats format) :
    format.IsUsual := by
  cases h with
  | f32 => exact isUsual_binary32
  | f64 => exact isUsual_binary64

/-- No scalar has numbers of both sorts. -/
theorem Floats.bounds? {scalar : Scalar} {format : BinaryFormat} (h : scalar.Floats format) :
    scalar.bounds? = none := by
  cases h <;> rfl

theorem readInteger?_eq_some {low high n : Int} (hlow : low ≤ 0) {text : String} :
    readInteger? (low, high) text = some n ↔ ∃ sign digits, text.toList = Sign.text sign ++ digits ∧
      IsDigits digits ∧ (sign = .minus → low < 0) ∧ low ≤ n ∧ n ≤ high ∧
      n = sign.apply (Nat.ofDigitChars 10 digits 0) := by
  unfold readInteger?
  dsimp only
  rw [Option.filter_eq_some_iff, Bool.and_eq_true, decide_eq_true_eq, decide_eq_true_eq]
  split
  case isTrue hzero =>
    constructor
    · rintro ⟨hread, hbetween⟩
      obtain ⟨m, hm, rfl⟩ := Option.map_eq_some_iff.mp hread
      obtain ⟨sign, digits, hsign, htext, hdigits, rfl⟩ := readNatural?_eq_some.mp hm
      refine ⟨sign, digits, htext, hdigits, fun h => absurd h hsign, hbetween.1, hbetween.2, ?_⟩
      cases sign with
      | minus => exact absurd rfl hsign
      | _ => rfl
    · rintro ⟨sign, digits, htext, hdigits, hsign, hlow, hhigh, rfl⟩
      refine ⟨Option.map_eq_some_iff.mpr ⟨Nat.ofDigitChars 10 digits 0, ?_, ?_⟩, hlow, hhigh⟩
      · refine readNatural?_eq_some.mpr ⟨sign, digits, ?_, htext, hdigits, rfl⟩
        intro hminus
        have hbelow := hsign hminus
        omega
      · cases sign with
        | minus =>
            have hbelow := hsign rfl
            omega
        | _ => rfl
  case isFalse hzero =>
    rw [Decimal.readInteger?_eq_some]
    constructor
    · rintro ⟨⟨sign, digits, htext, hdigits, rfl⟩, hbetween⟩
      exact ⟨sign, digits, htext, hdigits, fun _ => by omega, hbetween.1, hbetween.2, rfl⟩
    · rintro ⟨sign, digits, htext, hdigits, -, hlow, hhigh, rfl⟩
      exact ⟨⟨sign, digits, htext, hdigits, rfl⟩, hlow, hhigh⟩

theorem readBool?_eq_some {text : String} {b : Bool} : readBool? text = some b ↔
    if b then text = "true" ∨ text = "1" else text = "false" ∨ text = "0" := by
  unfold readBool?
  split
  case isTrue htrue =>
    have htrue : text = "true" ∨ text = "1" := by simpa using htrue
    cases b with
    | true => simpa using htrue
    | false => rcases htrue with rfl | rfl <;> decide
  case isFalse htrue =>
    have htrue : ¬(text = "true" ∨ text = "1") := by simpa using htrue
    split
    case isTrue hfalse =>
      have hfalse : text = "false" ∨ text = "0" := by simpa using hfalse
      cases b with
      | true => simpa using htrue
      | false => simpa using hfalse
    case isFalse hfalse =>
      have hfalse : ¬(text = "false" ∨ text = "0") := by simpa using hfalse
      cases b with
      | true => simpa using htrue
      | false => simpa using hfalse

/-- **An enumerated value is read as what its text denotes**, blanks at its ends aside. -/
theorem literal?_eq_some {scalar : Scalar} {value : String} {l : Literal} :
    scalar.literal? value = some l ↔ scalar.Denotes (Text.trim value) l := by
  unfold literal?
  dsimp only
  constructor
  · intro h
    split at h
    · rename_i bounds _ hbounds
      have hranges := ranges_iff.mpr hbounds
      obtain ⟨n, hn, rfl⟩ := Option.map_eq_some_iff.mp h
      obtain ⟨sign, digits, htext, hdigits, hsign, hlow, hhigh, rfl⟩ :=
        (readInteger?_eq_some hranges.low_nonpos).mp hn
      exact .integer hranges htext hdigits hsign hlow hhigh
    · rename_i format _ hformat
      have hfloats := floats_iff.mpr hformat
      obtain ⟨x, hx, rfl⟩ := Option.map_eq_some_iff.mp h
      obtain ⟨sign, d, hd, htext, hvalue, rfl⟩ :=
        (Floating.read?_finite hfloats.isUsual).mp (Option.filter_eq_some_iff.mp hx)
      exact .floating hfloats htext hd hvalue
    · split at h
      · obtain ⟨b, hb, rfl⟩ := Option.map_eq_some_iff.mp h
        have hb := readBool?_eq_some.mp hb
        cases b with
        | true => exact .yes hb
        | false => exact .no hb
      · cases h
  · intro h
    cases h with
    | @integer _ low high _ sign digits hranges htext hdigits hsign hlow hhigh =>
        rw [ranges_iff.mp hranges]
        exact Option.map_eq_some_iff.mpr ⟨_, (readInteger?_eq_some hranges.low_nonpos).mpr
          ⟨sign, digits, htext, hdigits, hsign, hlow, hhigh, rfl⟩, rfl⟩
    | @floating _ format _ sign d hfloats htext hd hvalue =>
        rw [hfloats.bounds?, floats_iff.mp hfloats]
        exact Option.map_eq_some_iff.mpr ⟨_, Option.filter_eq_some_iff.mpr
          ((Floating.read?_finite hfloats.isUsual).mpr ⟨sign, d, hd, htext, hvalue, rfl⟩), rfl⟩
    | yes h => exact Option.map_eq_some_iff.mpr ⟨true, readBool?_eq_some.mpr h, rfl⟩
    | no h => exact Option.map_eq_some_iff.mpr ⟨false, readBool?_eq_some.mpr h, rfl⟩

end Scalar

/-- **A whole number is written with the name of its scalar**: a sign as a token of its own, and
digits that denote its size. -/
theorem Literal.tokens_integer (scalar : Scalar) (n : Int) : ∃ digits,
    (Literal.integer scalar n).tokens = (if n < 0 then ["-"] else []) ++
      [String.ofList digits ++ String.join scalar.tokens] ∧
      IsDigits digits ∧ Nat.ofDigitChars 10 digits 0 = n.natAbs := by
  refine ⟨Nat.toDigits 10 n.natAbs, ?_, ⟨Nat.toDigits_ne_nil, ?_⟩, Nat.ofDigitChars_ten_toDigits⟩
  · have htokens : (Literal.integer scalar n).tokens =
        if decide (n < 0) then ["-", toString n.natAbs ++ String.join scalar.tokens]
        else [toString n.natAbs ++ String.join scalar.tokens] := rfl
    rw [htokens, Nat.toString_eq_ofList_toDigits]
    by_cases hn : n < 0 <;> simp [hn]
  · intro c hc
    exact Nat.isDigit_of_mem_toDigits (by decide) (by decide) hc

/-! ## Constants as code -/

namespace Code

/-- The code of a constant's value with the type in front of it: the synonym for what is written as
a literal of its target, and for a text a type of texts. -/
inductive WrittenValue (synonym : String) : ConstantValue → Tokens → Prop
  | integer {scalar : Scalar} {n : Int} {digits : List Char} (hdigits : IsDigits digits)
      (hsize : Nat.ofDigitChars 10 digits 0 = n.natAbs) :
      WrittenValue synonym (.literal (.integer scalar n)) ([synonym, "="] ++
        ((if n < 0 then ["-"] else []) ++ [String.ofList digits ++ String.join scalar.tokens]))
  | floating (scalar : Scalar) (format : BinaryFormat) (x : Floating) :
      WrittenValue synonym (.literal (.floating scalar format x))
        ([synonym, "="] ++ (Literal.floating scalar format x).tokens)
  | boolean (b : Bool) :
      WrittenValue synonym (.literal (.boolean b)) [synonym, "=", if b then "true" else "false"]
  | text (text : String) : WrittenValue synonym (.text text) ["& str =", quoted text]

/-- A constant as code. -/
def Constant.IsWritten (synonym : String) (c : Constant) : Prop := ∃ value,
  c.tokens synonym =
    comments c.documentation ++ ["pub const", c.ident, ":"] ++ value ++ [";"] ∧
    WrittenValue synonym c.value value

theorem Constant.isWritten (synonym : String) (c : Constant) : c.IsWritten synonym := by
  obtain ⟨ident, documentation, value⟩ := c
  cases value with
  | text text => exact ⟨_, rfl, .text text⟩
  | literal l =>
      cases l with
      | integer scalar n =>
          obtain ⟨digits, htokens, hdigits, hsize⟩ := Literal.tokens_integer scalar n
          refine ⟨_, ?_, .integer hdigits hsize⟩
          rw [← htokens]
          rfl
      | floating scalar format x => exact ⟨_, rfl, .floating scalar format x⟩
      | boolean b => exact ⟨_, rfl, .boolean b⟩

end Code

namespace Emission

open Xsd

/-! ## Constants -/

/-- The values that a simple type enumerates: those of its restriction or, if it is a union instead,
those of the restrictions that are declared inside it, one after another. -/
inductive Enumerates (type : SimpleType) : List Enumeration → Prop
  | restriction {restriction : Restriction} (h : type.restriction = some restriction) :
      Enumerates type restriction.enumerations
  | union {union : UnionType} (hrestriction : type.restriction = none)
      (h : type.union = some union) :
      Enumerates type ((union.simpleTypes.filterMap (·.restriction)).flatMap (·.enumerations))
  | neither (hrestriction : type.restriction = none) (h : type.union = none) : Enumerates type []

theorem enumerations_union {type : SimpleType} {union : UnionType}
    (hrestriction : type.restriction = none) (h : type.union = some union) :
    enumerations type = (union.simpleTypes.filterMap (·.restriction)).flatMap (·.enumerations) := by
  unfold enumerations
  rw [hrestriction, h]
  dsimp only
  induction union.simpleTypes with
  | nil => rfl
  | cons member members ih =>
      rw [List.flatMap_cons, ih]
      cases hmember : member.restriction <;> simp [hmember]

/-- The values are collected as they stand. -/
theorem enumerates (type : SimpleType) : Enumerates type (enumerations type) := by
  cases hrestriction : type.restriction with
  | some restriction =>
      have hown : enumerations type = restriction.enumerations := by
        simp [enumerations, hrestriction]
      exact hown ▸ .restriction hrestriction
  | none =>
      cases hunion : type.union with
      | some union => exact enumerations_union hrestriction hunion ▸ .union hrestriction hunion
      | none =>
          have hnone : enumerations type = [] := by simp [enumerations, hrestriction, hunion]
          exact hnone ▸ .neither hrestriction hunion

/-- What the constant for an enumerated value holds in a synonym of a type: what the text denotes if
the type is a scalar in which it denotes something, and else the text. -/
inductive Represents (target : TypeRef) (value : String) (c : Code.Constant) : Prop
  | literal {scalar : Scalar} {l : Literal} (htarget : target = .builtin scalar)
      (hdenotes : scalar.Denotes (Text.trim value) l) (hvalue : c.value = .literal l)
  | text (hplain : ∀ scalar l, target = .builtin scalar → ¬scalar.Denotes (Text.trim value) l)
      (hvalue : c.value = .text value)

theorem represents_iff {target : TypeRef} {value : String} {c : Code.Constant} :
    Represents target value c ↔ c.value = constantValue target value := by
  constructor
  · rintro (⟨rfl, hdenotes, hvalue⟩ | ⟨hplain, hvalue⟩)
    · rw [hvalue, constantValue, Scalar.literal?_eq_some.mpr hdenotes]
    · rw [hvalue]
      unfold constantValue
      split
      · rename_i scalar
        split
        · rename_i l hl
          exact absurd (Scalar.literal?_eq_some.mp hl) (hplain scalar l rfl)
        · rfl
      · rfl
  · intro hvalue
    unfold constantValue at hvalue
    split at hvalue
    · rename_i scalar
      split at hvalue
      · rename_i l hl
        exact .literal rfl (Scalar.literal?_eq_some.mp hl) hvalue
      · rename_i hnone
        refine .text ?_ hvalue
        rintro _ l ⟨⟩ hdenotes
        rw [Scalar.literal?_eq_some.mpr hdenotes] at hnone
        cases hnone
    · rename_i hother
      exact .text (fun scalar _ htarget => absurd htarget (hother scalar)) hvalue

/-- The values of the constants are those of the enumeration, one by one. -/
theorem constants_values (synonym : String) (target : TypeRef) (values : List Enumeration) :
    (constants synonym target values).map (·.value) =
      values.map fun e => constantValue target e.value := by
  suffices h : ∀ (items : List (Enumeration × Nat)) (done : List Code.Constant),
      (items.foldl (fun done item => done ++ [{
        ident := Naming.unique (done.map (·.ident)) (constantName synonym item.2 item.1.value)
        documentation := item.1.documentation.toList ++
          ["Value of [`" ++ Naming.typeIdentifier synonym ++ "`]."]
        value := constantValue target item.1.value }]) done).map (·.value) =
      done.map (·.value) ++ (items.map (·.1)).map fun e => constantValue target e.value by
    have hall := h values.zipIdx []
    rwa [List.zipIdx_map_fst] at hall
  intro items
  induction items with
  | nil => simp
  | cons item items ih =>
      intro done
      rw [List.foldl_cons, ih]
      simp

/-- **The constants of a simple type.**  A simple type is declared unless its name is taken.  There
is one constant to each value that it enumerates, in order, no two of one name, and each holds what
the text of its value denotes in the target of the synonym, or the text.  It is written with the
synonym for its type in the first case, and its literal with the name of the target. -/
theorem simpleType_constants (r : Resolver) (name : String) (type : SimpleType)
    (documentation : Option String) (s : Emission) :
    ∃ (a : Code.Synonym) (values : List Enumeration),
      ((simpleType r name type documentation).run s).1 =
          (if s.context.isEmitted name then none else some (.synonym a)) ∧
        a.name = name ∧ (a.constants.map (·.ident)).Nodup ∧ Enumerates type values ∧
        List.Forall₂
          (fun e c => Represents a.target e.value c ∧ c.IsWritten (Naming.typeIdentifier name))
          values a.constants := by
  refine ⟨synonymOf r s.context.package name type documentation, enumerations type, ?_, rfl,
    constants_nodup _ _ _, enumerates type, ?_⟩
  · have hbase := simpleBase_acts (r := r) type (s.marked name)
      (Context.markEmitted_package ..) rfl
    simp only [simpleType, claim, run_bind, run_get, run_modify, run_pure]
    by_cases htaken : s.context.isEmitted name
    · simp only [htaken, Bool.not_true, Bool.not_false, if_true]
      rfl
    · have hmarked : { s with context := s.context.markEmitted name } = s.marked name := rfl
      simp only [htaken, Bool.not_false, Bool.not_true, if_false, Bool.false_eq_true, run_bind,
        hmarked, hbase]
      rfl
  · simp only [represents_iff]
    have hvalues : List.Forall₂ (· = ·)
        ((enumerations type).map fun e => constantValue
          (synonymOf r s.context.package name type documentation).target e.value)
        ((synonymOf r s.context.package name type documentation).constants.map (·.value)) := by
      rw [List.forall₂_eq_eq_eq]
      exact (constants_values _ _ _).symm
    rw [List.forall₂_map_left_iff, List.forall₂_map_right_iff] at hvalues
    exact hvalues.imp fun e c h => ⟨h.symm, c.isWritten _⟩

/-- A union of two types that enumerate values and one that does not.  Two of the values come to the
same without their punctuation, and one is nothing else. -/
def sizeType : SimpleType where
  name := some "Size"
  union := some {
    simpleTypes := [
      { restriction := some {
          base := some "byte"
          enumerations := [⟨"7-up", none⟩, ⟨"%", none⟩] } },
      { list := some "int" },
      { restriction := some { enumerations := [⟨"7 up", none⟩] } }] }

/-- Two values of a scalar, one with blanks around it, and one that is too great for it. -/
def levelType : SimpleType where
  name := some "Level"
  restriction := some {
    base := some "s:byte"
    enumerations := [⟨"-128", none⟩, ⟨" 127 ", none⟩, ⟨"128", none⟩] }

/-- The constants of a union are texts.  Those of a scalar are numbers where they can be. -/
theorem simpleType_constants_union :
    let r : Resolver := { symbols := {}, rootPackage := "shop" }
    (∃ (a : Code.Synonym) (values : List Enumeration),
      ((simpleType r "Size" sizeType none).run { context := {} }).1 = some (.synonym a) ∧
        values.map (·.value) = ["7-up", "%", "7 up"] ∧
        (a.constants.map (·.ident)).Nodup ∧ a.constants.length = values.length ∧
        a.tokens = ["pub type", "Size", "=", "::", "std", "::", "string", "::", "String", ";"] ++
          ["# [ doc =", "\" Value of [`Size`].\"", "]"] ++
          ["pub const", "SIZE_7UP", ":", "& str =", "\"7-up\"", ";"] ++
          ["# [ doc =", "\" Value of [`Size`].\"", "]"] ++
          ["pub const", "SIZE_1", ":", "& str =", "\"%\"", ";"] ++
          ["# [ doc =", "\" Value of [`Size`].\"", "]"] ++
          ["pub const", "SIZE_7UP2", ":", "& str =", "\"7 up\"", ";"]) ∧
    ∃ (a : Code.Synonym) (values : List Enumeration),
      ((simpleType r "Level" levelType none).run { context := {} }).1 = some (.synonym a) ∧
        values.map (·.value) = ["-128", " 127 ", "128"] ∧
        (a.constants.map (·.ident)).Nodup ∧ a.constants.length = values.length ∧
        a.tokens = ["pub type", "Level", "=", "i8", ";"] ++
          ["# [ doc =", "\" Value of [`Level`].\"", "]"] ++
          ["pub const", "LEVEL_128", ":", "Level", "=", "-", "128i8", ";"] ++
          ["# [ doc =", "\" Value of [`Level`].\"", "]"] ++
          ["pub const", "LEVEL_127", ":", "Level", "=", "127i8", ";"] ++
          ["# [ doc =", "\" Value of [`Level`].\"", "]"] ++
          ["pub const", "LEVEL_1282", ":", "& str =", "\"128\"", ";"] := by
  intro r
  constructor
  · obtain ⟨a, values, hrun, -, hnodup, henumerates, hconstants⟩ :=
      simpleType_constants r "Size" sizeType none { context := {} }
    have hvalues : values.map (·.value) = ["7-up", "%", "7 up"] := by
      cases henumerates with
      | restriction h => cases h
      | union _ h => cases h; rfl
      | neither _ h => cases h
    have htokens : ((simpleType r "Size" sizeType none).run { context := {} }).1.map (·.tokens) =
        some a.tokens := by rw [hrun]; rfl
    exact ⟨a, values, hrun, hvalues, hnodup, hconstants.length_eq.symm,
      Option.some.inj (htokens.symm.trans (by decide +kernel))⟩
  · obtain ⟨a, values, hrun, -, hnodup, henumerates, hconstants⟩ :=
      simpleType_constants r "Level" levelType none { context := {} }
    have hvalues : values.map (·.value) = ["-128", " 127 ", "128"] := by
      cases henumerates with
      | restriction h => cases h; rfl
      | union h => cases h
      | neither h => cases h
    have htokens : ((simpleType r "Level" levelType none).run { context := {} }).1.map (·.tokens) =
        some a.tokens := by rw [hrun]; rfl
    exact ⟨a, values, hrun, hvalues, hnodup, hconstants.length_eq.symm,
      Option.some.inj (htokens.symm.trans (by decide +kernel))⟩

end Emission

end SoapBindings
