/-
# `SoapBindings.Decimal.Integer` — reading whole numbers

Digits, with a sign before them at most.  Nothing else may stand in the text: no blanks, no
separators, no point.
-/
namespace SoapBindings.Decimal

/-- A power of two. -/
def twoTo (n : Nat) : Nat := Nat.pow 2 n

/-- A power of ten. -/
def tenTo (n : Nat) : Nat := Nat.pow 10 n

/-- The number that a non-empty run of decimal digits denotes. -/
def readDigits? (cs : List Char) : Option Nat :=
  if !cs.isEmpty && cs.all Char.isDigit then
    some (cs.foldl (fun n c => n * 10 + (c.toNat - '0'.toNat)) 0)
  else none

/-- A whole number without a minus sign. -/
def readNatural? (s : String) : Option Nat :=
  match s.toList with
  | '+' :: digits => readDigits? digits
  | digits => readDigits? digits

/-- A whole number. -/
def readInteger? (s : String) : Option Int :=
  match s.toList with
  | '-' :: digits => (readDigits? digits).map fun n => -(n : Int)
  | '+' :: digits => (readDigits? digits).map fun n => (n : Int)
  | digits => (readDigits? digits).map fun n => (n : Int)

end SoapBindings.Decimal
