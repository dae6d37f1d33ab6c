/-
# `SoapBindings.Proofs.Decimal.Overflow` — which numbers are too great

A number is rounded to a mantissa and a power of two, and it is too great for a format where that
power is.  The greatest mantissa is odd, so half a step beyond it the mantissa is rounded up, to a
power of two: there the finite numbers end (`ofRatio_isFinite`).  A decimal that is settled by its
size alone lies far from there (`ofDecimal_isFinite`).
-/
import Mathlib.Algebra.Order.Field.Power
import Mathlib.Data.Rat.Cast.Order
import Mathlib.Tactic.FieldSimp
import Mathlib.Tactic.Linarith
import Mathlib.Tactic.Ring
import SoapBindings.Proofs.Decimal.Numerals

namespace SoapBindings.Decimal

/-- Half a step beyond the greatest finite number, where the numbers begin that are too great. -/
def BinaryFormat.overflow (format : BinaryFormat) : Rat :=
  (2 ^ format.precision - 1 / 2) * (2 : Rat) ^ format.maxExponent

/-- A format whose exponents leave room for some numbers and not for all, long before sizes alone
decide. -/
structure BinaryFormat.IsUsual (format : BinaryFormat) : Prop where
  precision : 0 < format.precision
  exponents : format.minExponent < format.maxExponent
  nonneg : 0 ≤ format.maxExponent
  bounded : format.precision + format.maxExponent ≤ 1200

theorem isUsual_binary32 : binary32.IsUsual := by constructor <;> decide

theorem isUsual_binary64 : binary64.IsUsual := by constructor <;> decide

theorem two_zpow_pos (e : Int) : (0 : Rat) < 2 ^ e := zpow_pos (by norm_num) e

theorem overflow_le (format : BinaryFormat) :
    format.overflow ≤ (2 : Rat) ^ (format.precision + format.maxExponent) := by
  rw [BinaryFormat.overflow, zpow_add₀ (by norm_num), zpow_natCast]
  exact mul_le_mul_of_nonneg_right (by linarith) (two_zpow_pos _).le

theorem le_overflow {format : BinaryFormat} (h : 0 < format.precision) :
    (2 : Rat) ^ (format.precision + format.maxExponent - 1) ≤ format.overflow := by
  obtain ⟨p, hp⟩ := Nat.exists_eq_succ_of_ne_zero h.ne'
  have hone : (1 : Rat) ≤ 2 ^ p := one_le_pow₀ (by norm_num)
  rw [BinaryFormat.overflow, hp, show ((p.succ : Nat) : Int) + format.maxExponent - 1 =
    (p : Int) + format.maxExponent by omega, zpow_add₀ (by norm_num), zpow_natCast, pow_succ]
  exact mul_le_mul_of_nonneg_right (by linarith) (two_zpow_pos _).le

namespace BinaryFormat.IsUsual

variable {format : BinaryFormat}

theorem low (h : format.IsUsual) : 1 ≤ format.overflow := by
  have hprecision := h.precision
  have hnonneg := h.nonneg
  exact (one_le_zpow₀ (by norm_num) (by omega)).trans (le_overflow h.precision)

theorem high (h : format.IsUsual) : format.overflow ≤ (10 : Rat) ^ (400 : Int) := by
  have hpower : (2 : Rat) ^ (1200 : Int) = 8 ^ (400 : Int) := by
    rw [show (1200 : Int) = 3 * 400 by norm_num, zpow_mul]
    norm_num
  refine (overflow_le format).trans ((zpow_le_zpow_right₀ (by norm_num) h.bounded).trans ?_)
  rw [hpower]
  exact zpow_le_zpow_left₀ (by norm_num) (by norm_num) (by norm_num)

end BinaryFormat.IsUsual

namespace Floating

/-! ## Rounding -/

/-- Half a step below an even number, rounding comes to it. -/
theorem le_roundQuotient {num den n : Nat} (hden : 0 < den) (hpos : 0 < n) (heven : n % 2 = 0) :
    n ≤ roundQuotient num den ↔ (2 * n - 1) * den ≤ 2 * num := by
  have hnum : num = den * (num / den) + num % den := (Nat.div_add_mod num den).symm
  have hmod : num % den < den := Nat.mod_lt num hden
  have hround : roundQuotient num den =
      if 2 * (num % den) < den then num / den
      else if den < 2 * (num % den) then num / den + 1 else num / den + (num / den) % 2 := rfl
  obtain ⟨k, rfl⟩ : ∃ k, n = 2 * (k + 1) := ⟨n / 2 - 1, by omega⟩
  generalize num / den = q at hnum hround
  generalize num % den = r at hnum hmod hround
  have hform : (2 * (2 * (k + 1)) - 1) * den = 2 * (den * (2 * k + 1)) + den := by
    rw [show 2 * (2 * (k + 1)) - 1 = 2 * (2 * k + 1) + 1 by omega]
    ring
  rw [hround, hnum, hform]
  rcases Nat.lt_trichotomy q (2 * k + 1) with hq | rfl | hq
  · have hless : den * q + den ≤ den * (2 * k + 1) := by
      rw [← Nat.mul_succ]
      exact Nat.mul_le_mul_left den hq
    refine iff_of_false ?_ (by omega)
    split
    · omega
    · split <;> omega
  · split
    · omega
    · split <;> omega
  · have hmore : den * (2 * k + 1) + den ≤ den * q := by
      rw [← Nat.mul_succ]
      exact Nat.mul_le_mul_left den hq
    refine iff_of_true ?_ (by omega)
    split
    · omega
    · split <;> omega

theorem roundQuotient_le (num den : Nat) : roundQuotient num den ≤ num / den + 1 := by
  have hmod : num / den % 2 < 2 := Nat.mod_lt _ (by decide)
  unfold roundQuotient
  dsimp only
  split
  · omega
  · split <;> omega

theorem le_roundQuotient_self (num den : Nat) : num / den ≤ roundQuotient num den := by
  unfold roundQuotient
  dsimp only
  split
  · exact le_refl _
  · split <;> omega

/-- The quotient of the fraction is that of the numbers, by a power of two. -/
theorem shifted_ratio (num : Nat) {den : Nat} (hden : 0 < den) (e : Int) :
    0 < (shifted num den e).2 ∧
      ((shifted num den e).1 : Rat) / (shifted num den e).2 = num / den / (2 : Rat) ^ e := by
  have hden' : (den : Rat) ≠ 0 := by exact_mod_cast hden.ne'
  have htwo (n : Nat) : ((twoTo n : Nat) : Rat) = 2 ^ n := by
    rw [show twoTo n = 2 ^ n from rfl, Nat.cast_pow, Nat.cast_ofNat]
  unfold shifted
  split
  case isTrue he =>
    obtain ⟨n, rfl⟩ := Int.eq_ofNat_of_zero_le he
    refine ⟨Nat.mul_pos hden (Nat.pow_pos (by decide)), ?_⟩
    simp only [Int.toNat_natCast, Nat.cast_mul, htwo, zpow_natCast]
    rw [div_div]
  case isFalse he =>
    obtain ⟨n, hn⟩ := Int.eq_ofNat_of_zero_le (show 0 ≤ -e by omega)
    obtain rfl : e = -n := by omega
    refine ⟨hden, ?_⟩
    simp only [neg_neg, Int.toNat_natCast, Nat.cast_mul, htwo, zpow_neg, zpow_natCast]
    rw [div_inv_eq_mul, div_mul_eq_mul_div]

/-! ## The place of the mantissa -/

/-- The power of two by which a quotient has as many bits as the mantissa. -/
def leading (format : BinaryFormat) (num den : Nat) : Int :=
  let guess : Int := (num.log2 : Int) - den.log2 - format.precision
  if (shifted num den guess).1 < (shifted num den guess).2 * twoTo format.precision then guess
  else guess + 1

/-- The number with this mantissa, which may have become a power of two, if it is not too great. -/
def settle (format : BinaryFormat) (negative : Bool) (m : Nat) (e : Int) : Floating :=
  let (m, e) := if m = twoTo format.precision then (m / 2, e + 1) else (m, e)
  if m = 0 then finite negative 0 0
  else if format.maxExponent < e then infinite negative
  else finite negative m e

theorem ofRatio_eq (format : BinaryFormat) (negative : Bool) {num : Nat} (hnum : num ≠ 0)
    (den : Nat) :
    ofRatio format negative num den =
      let e := max (leading format num den) format.minExponent
      settle format negative (roundQuotient (shifted num den e).1 (shifted num den e).2) e := by
  unfold ofRatio
  rw [if_neg hnum]
  rfl

theorem settle_isFinite {format : BinaryFormat} (h : 0 < format.precision) (negative : Bool)
    (m : Nat) (e : Int) : (settle format negative m e).isFinite ↔
      m = 0 ∨ (if m = twoTo format.precision then e + 1 else e) ≤ format.maxExponent := by
  obtain ⟨p, hp⟩ := Nat.exists_eq_succ_of_ne_zero h.ne'
  have hbounded (m : Nat) (e : Int) : (if format.maxExponent < e then infinite negative
      else finite negative m e).isFinite ↔ e ≤ format.maxExponent := by
    split
    case isTrue hgreat => exact iff_of_false nofun (not_le.mpr hgreat)
    case isFalse hgreat => exact iff_of_true rfl (not_lt.mp hgreat)
  unfold settle
  by_cases hm : m = twoTo format.precision
  · have hhalf : m / 2 ≠ 0 := by
      rw [hm, hp, show twoTo p.succ = 2 ^ p * 2 from Nat.pow_succ ..,
        Nat.mul_div_cancel _ (by decide)]
      exact (Nat.two_pow_pos p).ne'
    have hzero : m ≠ 0 := by
      rintro rfl
      exact hhalf rfl
    simp only [hm] at hhalf hzero ⊢
    simp only [if_true, hhalf, hzero, if_false, false_or]
    exact hbounded _ _
  · simp only [hm, if_false]
    by_cases hzero : m = 0
    · simp [hzero, isFinite]
    · simp only [hzero, if_false, false_or]
      exact hbounded _ _

/-- Shifted by its leading place, a quotient has the bits of the mantissa. -/
theorem leading_bounds (format : BinaryFormat) {num den : Nat} (hnum : 0 < num) (hden : 0 < den) :
    (2 : Rat) ^ (format.precision - 1 : Int) ≤ num / den / (2 : Rat) ^ leading format num den ∧
      num / den / (2 : Rat) ^ leading format num den < (2 : Rat) ^ format.precision := by
  have hden' : (0 : Rat) < den := by exact_mod_cast hden
  have hbelow (n : Nat) (hn : 0 < n) : (2 : Rat) ^ (n.log2 : Int) ≤ n := by
    rw [zpow_natCast]
    exact_mod_cast Nat.log2_self_le hn.ne'
  have habove (n : Nat) : (n : Rat) < 2 ^ ((n.log2 : Int) + 1) := by
    rw [zpow_add_one₀ (by norm_num), zpow_natCast, ← pow_succ]
    exact_mod_cast Nat.lt_log2_self
  -- The logarithms tell the quotient but for one place up or down.
  have hlow : (2 : Rat) ^ ((num.log2 : Int) - den.log2 - 1) ≤ num / den := by
    rw [le_div_iff₀ hden']
    calc (2 : Rat) ^ ((num.log2 : Int) - den.log2 - 1) * den
        ≤ 2 ^ ((num.log2 : Int) - den.log2 - 1) * 2 ^ ((den.log2 : Int) + 1) :=
          mul_le_mul_of_nonneg_left (habove den).le (two_zpow_pos _).le
      _ = 2 ^ (num.log2 : Int) := by
          rw [← zpow_add₀ (by norm_num)]
          congr 1
          omega
      _ ≤ num := hbelow num hnum
  have hhigh : (num / den : Rat) < 2 ^ ((num.log2 : Int) - den.log2 + 1) := by
    rw [div_lt_iff₀ hden']
    calc (num : Rat) < 2 ^ ((num.log2 : Int) + 1) := habove num
      _ = 2 ^ ((num.log2 : Int) - den.log2 + 1) * 2 ^ (den.log2 : Int) := by
          rw [← zpow_add₀ (by norm_num)]
          congr 1
          omega
      _ ≤ 2 ^ ((num.log2 : Int) - den.log2 + 1) * den :=
          mul_le_mul_of_nonneg_left (hbelow den hden) (two_zpow_pos _).le
  have hshift (e : Int) : (shifted num den e).1 < (shifted num den e).2 * twoTo format.precision ↔
      num / den / (2 : Rat) ^ e < (2 : Rat) ^ format.precision := by
    obtain ⟨hpos, hratio⟩ := shifted_ratio num hden e
    rw [← hratio, div_lt_iff₀ (by exact_mod_cast hpos), mul_comm,
      show twoTo format.precision = 2 ^ format.precision from rfl]
    exact_mod_cast Iff.rfl
  unfold leading
  dsimp only
  split
  case isTrue hfits =>
    refine ⟨?_, (hshift _).mp hfits⟩
    rw [le_div_iff₀ (two_zpow_pos _), ← zpow_add₀ (by norm_num)]
    refine le_trans (le_of_eq ?_) hlow
    congr 1
    omega
  case isFalse hfits =>
    rw [hshift, not_lt, le_div_iff₀ (two_zpow_pos _), ← zpow_natCast,
      ← zpow_add₀ (by norm_num)] at hfits
    constructor
    · rw [le_div_iff₀ (two_zpow_pos _), ← zpow_add₀ (by norm_num)]
      refine le_trans (le_of_eq ?_) hfits
      congr 1
      omega
    · rw [div_lt_iff₀ (two_zpow_pos _), ← zpow_natCast, ← zpow_add₀ (by norm_num)]
      refine hhigh.trans_le (le_of_eq ?_)
      congr 1
      omega

/-- A quotient with as many bits as the mantissa is rounded to one of them at least. -/
theorem one_le_roundQuotient {format : BinaryFormat} (h : format.IsUsual) {num den : Nat}
    (hden : 0 < den) {e : Int}
    (hbelow : (2 : Rat) ^ (format.precision - 1 : Int) ≤ num / den / (2 : Rat) ^ e) :
    1 ≤ roundQuotient (shifted num den e).1 (shifted num den e).2 := by
  obtain ⟨hpos, hratio⟩ := shifted_ratio num hden e
  have hprecision := h.precision
  have hone : (1 : Rat) ≤ (shifted num den e).1 / (shifted num den e).2 := by
    rw [hratio]
    exact (one_le_zpow₀ (by norm_num) (by omega)).trans hbelow
  rw [one_le_div₀ (by exact_mod_cast hpos)] at hone
  have hquotient : 1 ≤ (shifted num den e).1 / (shifted num den e).2 :=
    (Nat.one_le_div_iff hpos).mpr (by exact_mod_cast hone)
  exact hquotient.trans (le_roundQuotient_self _ _)

/-- At the greatest power of two, the mantissa is rounded up to a power of two from half a step
beyond the greatest one on. -/
theorem roundQuotient_isFinite {format : BinaryFormat} (h : format.IsUsual) {num den : Nat}
    (hden : 0 < den)
    (habove : num / den / (2 : Rat) ^ format.maxExponent < (2 : Rat) ^ format.precision) :
    (roundQuotient (shifted num den format.maxExponent).1
        (shifted num den format.maxExponent).2 = 0 ∨
      (if roundQuotient (shifted num den format.maxExponent).1
            (shifted num den format.maxExponent).2 = twoTo format.precision
        then format.maxExponent + 1 else format.maxExponent) ≤ format.maxExponent) ↔
      (num / den : Rat) < format.overflow := by
  obtain ⟨hpos, hratio⟩ := shifted_ratio num hden format.maxExponent
  rw [← hratio] at habove
  rw [BinaryFormat.overflow, ← div_lt_iff₀ (two_zpow_pos _), ← hratio]
  generalize (shifted num den format.maxExponent).1 = n at habove ⊢
  generalize (shifted num den format.maxExponent).2 = d at hpos habove ⊢
  have hd : (0 : Rat) < d := by exact_mod_cast hpos
  obtain ⟨p, hp⟩ := Nat.exists_eq_succ_of_ne_zero h.precision.ne'
  have hpower : twoTo format.precision = 2 * 2 ^ p := by
    rw [hp]
    exact Nat.pow_succ'
  have hpow : 0 < 2 ^ p := Nat.two_pow_pos p
  have hcast : (2 : Rat) ^ format.precision = (2 * 2 ^ p : Nat) := by
    rw [hp, pow_succ]
    push_cast
    ring
  have hcritical : twoTo format.precision ≤ roundQuotient n d ↔
      (2 * twoTo format.precision - 1) * d ≤ 2 * n :=
    le_roundQuotient hpos (by omega) (by omega)
  have hmost : roundQuotient n d ≤ twoTo format.precision := by
    have hquotient : n / d < twoTo format.precision := by
      rw [Nat.div_lt_iff_lt_mul hpos, hpower]
      rw [div_lt_iff₀ hd, hcast] at habove
      exact_mod_cast habove
    exact (roundQuotient_le n d).trans hquotient
  have hbound : ((n / d : Rat) < 2 ^ format.precision - 1 / 2) ↔
      2 * n < (2 * twoTo format.precision - 1) * d := by
    obtain ⟨k, hk⟩ : ∃ k, 2 * 2 ^ p = k + 1 := ⟨2 * 2 ^ p - 1, by omega⟩
    rw [div_lt_iff₀ hd, hcast, hpower, hk, show 2 * (k + 1) - 1 = 2 * k + 1 by omega]
    constructor
    · intro hless
      have hdouble : ((2 * n : Nat) : Rat) < ((2 * k + 1) * d : Nat) := by
        push_cast at hless ⊢
        linarith
      exact_mod_cast hdouble
    · intro hless
      have hdouble : ((2 * n : Nat) : Rat) < ((2 * k + 1) * d : Nat) := by exact_mod_cast hless
      push_cast at hdouble ⊢
      linarith
  rw [hbound, ← not_le, ← hcritical]
  by_cases hround : twoTo format.precision ≤ roundQuotient n d
  · obtain heq : roundQuotient n d = twoTo format.precision := by omega
    simp only [heq, if_true, le_refl, not_true, iff_false]
    omega
  · have hne : roundQuotient n d ≠ twoTo format.precision := by omega
    simp [hne, hround]

/-- **A quotient is rounded to a finite number** exactly if it lies below half a step beyond the
greatest one. -/
theorem ofRatio_isFinite {format : BinaryFormat} (h : format.IsUsual) (negative : Bool) (num : Nat)
    {den : Nat} (hden : 0 < den) :
    (ofRatio format negative num den).isFinite ↔ (num / den : Rat) < format.overflow := by
  have hlow := h.low
  have hexponents := h.exponents
  rcases Nat.eq_zero_or_pos num with rfl | hnum
  · simp only [ofRatio, if_true, isFinite, Nat.cast_zero, zero_div, true_iff]
    linarith
  obtain ⟨hbelow, habove⟩ := leading_bounds format hnum hden
  rw [ofRatio_eq format negative hnum.ne' den]
  dsimp only
  rw [settle_isFinite h.precision]
  generalize leading format num den = e at hbelow habove ⊢
  rcases lt_trichotomy (max e format.minExponent) format.maxExponent with he | he | he
  · -- Even a mantissa that became a power of two has room.
    refine iff_of_true (.inr (by split <;> omega)) ?_
    rw [div_lt_iff₀ (two_zpow_pos _), ← zpow_natCast, ← zpow_add₀ (by norm_num)] at habove
    refine habove.trans_le ((zpow_le_zpow_right₀ (by norm_num) ?_).trans (le_overflow h.precision))
    omega
  · -- The mantissa has room unless it is rounded up to a power of two.
    obtain rfl : e = format.maxExponent := by omega
    rw [he]
    exact roundQuotient_isFinite h hden habove
  · -- The mantissa is not zero, since the quotient has all its bits.
    obtain heq : max e format.minExponent = e := by omega
    rw [heq]
    rw [heq] at he
    refine iff_of_false ?_ (not_lt.mpr ?_)
    · have hround := one_le_roundQuotient h hden hbelow
      split <;> omega
    · rw [le_div_iff₀ (two_zpow_pos _), ← zpow_add₀ (by norm_num)] at hbelow
      refine (overflow_le format).trans ((zpow_le_zpow_right₀ (by norm_num) ?_).trans hbelow)
      omega

/-! ## Decimals -/

theorem tenTo_cast (n : Nat) : ((tenTo n : Nat) : Rat) = 10 ^ n := by
  rw [show tenTo n = 10 ^ n from rfl, Nat.cast_pow, Nat.cast_ofNat]

/-- How many digits a number has says how great it is. -/
theorem size_bounds {digits : Nat} (h : digits ≠ 0) (exponent : Int) :
    (10 : Rat) ^ ((Nat.toDigits 10 digits).length + exponent - 1) ≤ digits * 10 ^ exponent ∧
      digits * 10 ^ exponent < (10 : Rat) ^ ((Nat.toDigits 10 digits).length + exponent) := by
  have hlength : 0 < (Nat.toDigits 10 digits).length := Nat.length_toDigits_pos
  obtain ⟨k, hk⟩ := Nat.exists_eq_succ_of_ne_zero hlength.ne'
  have hten : (0 : Rat) < 10 ^ exponent := zpow_pos (by norm_num) exponent
  have hbelow : 10 ^ k ≤ digits := by
    rcases Nat.eq_zero_or_pos k with rfl | hpos
    · exact Nat.one_le_iff_ne_zero.mpr h
    · have hshort := Nat.length_toDigits_le_iff (n := digits) (show 1 < 10 by decide) hpos
      rw [hk] at hshort
      omega
  have habove : digits < 10 ^ (k + 1) := by
    have hshort := Nat.length_toDigits_le_iff (n := digits) (show 1 < 10 by decide) k.succ_pos
    rw [hk] at hshort
    exact hshort.mp le_rfl
  rw [hk]
  constructor
  · rw [show ((k.succ : Nat) : Int) + exponent - 1 = (k : Int) + exponent by omega,
      zpow_add₀ (by norm_num), zpow_natCast]
    exact mul_le_mul_of_nonneg_right (by exact_mod_cast hbelow) hten.le
  · rw [zpow_add₀ (by norm_num), zpow_natCast]
    exact mul_lt_mul_of_pos_right (by exact_mod_cast habove) hten

/-- **A decimal is rounded to a finite number** exactly if it lies below half a step beyond the
greatest one. -/
theorem ofDecimal_isFinite {format : BinaryFormat} (h : format.IsUsual) (negative : Bool)
    (digits : Nat) (exponent : Int) : (ofDecimal format negative digits exponent).isFinite ↔
      (digits * 10 ^ exponent : Rat) < format.overflow := by
  have hlow := h.low
  have hhigh := h.high
  unfold ofDecimal
  dsimp only
  split
  case isTrue hzero =>
    subst hzero
    simp only [isFinite, Nat.cast_zero, zero_mul, true_iff]
    linarith
  case isFalse hzero =>
  obtain ⟨hbelow, habove⟩ := size_bounds hzero exponent
  split
  case isTrue hsize =>
    refine iff_of_false (by simp [isFinite]) (not_lt.mpr ?_)
    exact hhigh.trans ((zpow_le_zpow_right₀ (by norm_num) (by omega)).trans hbelow)
  case isFalse hsize =>
  split
  case isTrue hsize =>
    refine iff_of_true rfl (habove.trans_le ((zpow_le_one_of_nonpos₀ (by norm_num) ?_).trans hlow))
    omega
  case isFalse =>
  split
  case isTrue hexponent =>
    obtain ⟨n, rfl⟩ := Int.eq_ofNat_of_zero_le hexponent
    rw [ofRatio_isFinite h negative _ Nat.one_pos]
    simp only [Int.toNat_natCast, Nat.cast_mul, tenTo_cast, Nat.cast_one, div_one, zpow_natCast]
  case isFalse hexponent =>
    obtain ⟨n, hn⟩ := Int.eq_ofNat_of_zero_le (show 0 ≤ -exponent by omega)
    obtain rfl : exponent = -n := by omega
    have hten : 0 < tenTo n := Nat.pow_pos (by decide)
    simp only [neg_neg, Int.toNat_natCast]
    rw [ofRatio_isFinite h negative digits hten, tenTo_cast, zpow_neg, zpow_natCast, div_eq_mul_inv]

/-- **A text is a finite number** exactly if it is a numeral, perhaps with a sign,
whose value is not too great. -/
theorem read?_finite {format : BinaryFormat} (h : format.IsUsual) {s : String} {x : Floating} :
    (read? format s = some x ∧ x.isFinite) ↔ ∃ sign, ∃ d : Numeral, d.IsWellFormed ∧
      s.toList = Sign.text sign ++ d.text ∧ d.value < format.overflow ∧
      x = ofDecimal format (sign = .minus) (Nat.ofDigitChars 10 d.digits 0) d.scale := by
  constructor
  · rintro ⟨hread, hfinite⟩
    obtain ⟨sign, rest, hs, hhead⟩ := exists_sign s.toList
    rw [read?_sign format hs hhead] at hread
    cases hunsigned : readUnsigned? format (sign = .minus) rest with
    | none =>
        rw [hunsigned] at hread
        exact absurd hfinite (readNamed?_infinite hread)
    | some y =>
        rw [hunsigned] at hread
        obtain rfl : y = x := Option.some.inj hread
        obtain ⟨d, hd, rfl, rfl⟩ := readUnsigned?_eq_some.mp hunsigned
        exact ⟨sign, d, hd, hs, (ofDecimal_isFinite h _ _ _).mp hfinite, rfl⟩
  · rintro ⟨sign, d, hd, hs, hvalue, rfl⟩
    have hhead : ∀ c ∈ d.text.head?, c ≠ '-' ∧ c ≠ '+' := by
      obtain ⟨c, rest, htext, hc⟩ := head_numeral hd
      rw [htext]
      rintro c' ⟨⟩
      exact hc
    refine ⟨?_, (ofDecimal_isFinite h _ _ _).mpr hvalue⟩
    rw [read?_sign format hs fun _ => hhead, readUnsigned?_eq_some.mpr ⟨d, hd, rfl, rfl⟩]
    rfl

end Floating

end SoapBindings.Decimal
