/-
# `SoapBindings.Text.Hex` — hexadecimal digits
-/
namespace SoapBindings.Text

/-- The value of a hexadecimal digit. -/
def hexValue? (c : Char) : Option Nat :=
  if c.isDigit then some (c.toNat - '0'.toNat)
  else if 'a' ≤ c && c ≤ 'f' then some (c.toNat - 'a'.toNat + 10)
  else if 'A' ≤ c && c ≤ 'F' then some (c.toNat - 'A'.toNat + 10)
  else none

/-- The capital digit of a value below sixteen. -/
def hexDigit (n : Nat) : Char := (Nat.digitChar n).toUpper

end SoapBindings.Text
