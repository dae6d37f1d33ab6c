/-
# `SoapBindings.Decimal.Floating` — binary floating-point numbers and their decimal texts

A finite number is a mantissa times a power of two, kept exactly.  Reading a decimal rounds the
exact quotient to the nearest number of the format, a half to the even mantissa.  Writing gives
the fewest digits that read back as the same number, the nearest of those, and never an exponent.
-/
import SoapBindings.Decimal.Integer

namespace SoapBindings.Decimal

/-- A number of a binary format: `mantissa · 2 ^ exponent` with a sign, or none at all. -/
inductive Floating where
  | nan
  | infinite (negative : Bool)
  | finite (negative : Bool) (mantissa : Nat) (exponent : Int)
  deriving DecidableEq, Repr

/-- A binary format: how many bits a mantissa has, and between which bounds the exponent of its
last bit lies. -/
structure BinaryFormat where
  precision : Nat
  minExponent : Int
  maxExponent : Int

def binary32 : BinaryFormat := ⟨24, -149, 104⟩

def binary64 : BinaryFormat := ⟨53, -1074, 971⟩

namespace Floating

def isFinite : Floating → Bool
  | finite _ _ _ => true
  | _ => false

/-! ## Rounding -/

/-- The quotient rounded to the nearest whole number, a half to the even one. -/
def roundQuotient (num den : Nat) : Nat :=
  let q := num / den
  let twice := 2 * (num % den)
  if twice < den then q else if den < twice then q + 1 else q + q % 2

/-- `num / (den · 2 ^ e)` as a fraction of natural numbers. -/
def shifted (num den : Nat) (e : Int) : Nat × Nat :=
  if 0 ≤ e then (num, den * twoTo e.toNat) else (num * twoTo (-e).toNat, den)

/-- The number of the format nearest to `num / den`. -/
def ofRatio (format : BinaryFormat) (negative : Bool) (num den : Nat) : Floating :=
  if num = 0 then finite negative 0 0
  else
    let guess : Int := (num.log2 : Int) - den.log2 - format.precision
    let place := fun e : Int =>
      let (n, d) := shifted num den e
      roundQuotient n d
    -- the guess is exact or one place too low
    let fits := fun e : Int =>
      let (n, d) := shifted num den e
      n < d * twoTo format.precision
    let e := if fits guess then guess else guess + 1
    let e := max e format.minExponent
    let m := place e
    let (m, e) := if m = twoTo format.precision then (m / 2, e + 1) else (m, e)
    if m = 0 then finite negative 0 0
    else if format.maxExponent < e then infinite negative
    else finite negative m e

/-- The number of the format nearest to `digits · 10 ^ exponent`.  Numbers far outside every
format are settled by their size alone. -/
def ofDecimal (format : BinaryFormat) (negative : Bool) (digits : Nat) (exponent : Int) :
    Floating :=
  let size : Int := (Nat.toDigits 10 digits).length + exponent
  if digits = 0 then finite negative 0 0
  else if 400 < size then infinite negative
  else if size < -400 then finite negative 0 0
  else if 0 ≤ exponent then ofRatio format negative (digits * tenTo exponent.toNat) 1
  else ofRatio format negative digits (tenTo (-exponent).toNat)

/-- The nearest number of another format. -/
def round (format : BinaryFormat) : Floating → Floating
  | finite negative m e =>
    let (num, den) := shifted m 1 (-e)
    ofRatio format negative num den
  | x => x

/-! ## Reading -/

/-- The exponent behind an `e`, which must have digits. -/
def readExponent? : List Char → Option Int
  | [] => some 0
  | c :: rest => if c == 'e' || c == 'E' then readInteger? (String.ofList rest) else none

/-- Digits with at most one point and perhaps an exponent. -/
def readUnsigned? (format : BinaryFormat) (negative : Bool) (cs : List Char) :
    Option Floating := do
  let whole := cs.takeWhile Char.isDigit
  let rest := cs.dropWhile Char.isDigit
  let (fraction, rest) := match rest with
    | '.' :: rest => (rest.takeWhile Char.isDigit, rest.dropWhile Char.isDigit)
    | rest => ([], rest)
  let digits ← readDigits? (whole ++ fraction)
  let exponent ← readExponent? rest
  return ofDecimal format negative digits (exponent - fraction.length)

/-- The names of the numbers that have no digits, in any case. -/
def readNamed? (negative : Bool) (cs : List Char) : Option Floating :=
  let name := String.ofList (cs.map Char.toLower)
  if name == "nan" then some nan
  else if name == "inf" || name == "infinity" then some (infinite negative)
  else none

/-- The number that a text denotes in the format. -/
def read? (format : BinaryFormat) (s : String) : Option Floating :=
  let (negative, cs) := match s.toList with
    | '-' :: cs => (true, cs)
    | '+' :: cs => (false, cs)
    | cs => (false, cs)
  readUnsigned? format negative cs <|> readNamed? negative cs

/-! ## Writing -/

/-- The nearer of the two `n`-digit decimals around `m · 2 ^ e` that read back as it, if one does.
`places` is how many digits the number has before its point. -/
private def candidate? (format : BinaryFormat) (m : Nat) (e places : Int) (n : Nat) :
    Option (Nat × Int) :=
  let k := places - n
  -- the numbers that round to this one reach half a step up, and half the step below it down
  let low := if m = twoTo (format.precision - 1) && format.minExponent < e then 4 * m - 1
    else 4 * m - 2
  let high := 4 * m + 2
  let step := tenTo k.toNat * twoTo (2 - e).toNat
  let unit := tenTo (-k).toNat * twoTo (e - 2).toNat
  let value := 4 * m * unit
  let holds := fun g : Nat =>
    let g := g * step
    if m % 2 = 0 then low * unit ≤ g && g ≤ high * unit else low * unit < g && g < high * unit
  let below := value / step
  let above := below + 1
  if holds below then
    if holds above && above * step - value ≤ value - below * step then some (above, k)
    else some (below, k)
  else if holds above then some (above, k)
  else none

/-- How many digits `m · 2 ^ e` has before its point; a number below one tenth has fewer than
none. -/
private def integerPlaces (m : Nat) (e : Int) : Int :=
  let num := m * twoTo e.toNat
  let den := twoTo (-e).toNat
  let d : Int := (Nat.toDigits 10 num).length - (Nat.toDigits 10 den).length
  let reaches := num * tenTo (-d).toNat ≥ den * tenTo d.toNat
  if reaches then d + 1 else d

/-- The fewest digits that read back as `m · 2 ^ e`, with their power of ten. -/
def shortestDigits (format : BinaryFormat) (m : Nat) (e : Int) : Nat × Int :=
  let places := integerPlaces m e
  ((List.range 17).findSome? fun n => candidate? format m e places (n + 1)).getD (0, 0)

/-- `digits · 10 ^ exponent` with a point and zeros, but without an exponent. -/
private def positional (digits : Nat) (exponent : Int) : List Char :=
  let cs := Nat.toDigits 10 digits
  if 0 ≤ exponent then cs ++ List.replicate exponent.toNat '0'
  else
    let places := (-exponent).toNat
    let cs := List.replicate (places + 1 - cs.length) '0' ++ cs
    let whole := cs.take (cs.length - places)
    let fraction := (cs.drop (cs.length - places)).reverse.dropWhile (· == '0') |>.reverse
    if fraction.isEmpty then whole else whole ++ '.' :: fraction

/-- The text of a number without its sign. -/
def magnitude (format : BinaryFormat) : Floating → String
  | nan => "NaN"
  | infinite _ => "inf"
  | finite _ m e =>
    if m = 0 then "0"
    else
      let (digits, exponent) := shortestDigits format m e
      String.ofList (positional digits exponent)

def isNegative : Floating → Bool
  | nan => false
  | infinite negative => negative
  | finite negative _ _ => negative

/-- The text of a number. -/
def toText (format : BinaryFormat) (x : Floating) : String :=
  if x.isNegative then "-" ++ x.magnitude format else x.magnitude format

/-! ## Bits -/

/-- The 64 bits of a finite number in the double format. -/
def bits64? : Floating → Option Nat
  | finite negative m e =>
    let sign := if negative then twoTo 63 else 0
    if m = 0 then some sign
    else
      -- shift until the mantissa has all its bits or the exponent is the least one
      let room := min (52 - (m.log2 : Int)) (e + 1074)
      let m := if 0 ≤ room then m * twoTo room.toNat else m / twoTo (-room).toNat
      let e := e - room
      if m < twoTo 52 then some (sign + m)
      else some (sign + (e + 1075).toNat * twoTo 52 + (m - twoTo 52))
  | _ => none

end Floating

end SoapBindings.Decimal
