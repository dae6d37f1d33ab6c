/-
# `SoapBindings.Text.Ranges` — sets and maps of characters as sorted ranges

A character class is a list of closed ranges of code points in increasing order.  The search
stops at the first range that lies above the code point, so a test on a common letter looks at
the first few ranges only.  A map from characters to characters is a list of runs in the same way,
since neighbours mostly have neighbouring images.
-/
namespace SoapBindings.Text

/-- `n` lies in one of the ranges, which stand in increasing order. -/
def inRanges : List (Nat × Nat) → Nat → Bool
  | [], _ => false
  | (lo, hi) :: rest, n => lo ≤ n && (n ≤ hi || inRanges rest n)

/-- Every `stride`-th code point from `first` to `last`, the first of which maps to `target` and the
others as far behind it as they are behind `first`. -/
structure ImageRun where
  first : Nat
  last : Nat
  stride : Nat
  target : Nat

/-- The image of a code point under the runs, which stand in the order of their first points, if one
of them holds it. -/
def ImageRun.find? : List ImageRun → Nat → Option Nat
  | [], _ => none
  | r :: rest, n =>
    if n < r.first then none
    else if n ≤ r.last && (n - r.first) % r.stride == 0 then some (r.target + (n - r.first))
    else find? rest n

end SoapBindings.Text
