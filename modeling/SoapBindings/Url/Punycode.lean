/-
# `SoapBindings.Url.Punycode` — labels outside ASCII

Writes a label of a domain name in ASCII: the ASCII characters first, then for each other
character, in the order of code points, the distance to it from the one before.  Reading inserts
the characters one by one.
-/
namespace SoapBindings.Url

/-! ## Digits -/

private def punycodeDigit (d : Nat) : Char :=
  if d < 26 then Char.ofNat ('a'.toNat + d) else Char.ofNat ('0'.toNat + d - 26)

private def punycodeValue? (c : Char) : Option Nat :=
  if 'a' ≤ c && c ≤ 'z' then some (c.toNat - 'a'.toNat)
  else if '0' ≤ c && c ≤ '9' then some (c.toNat - '0'.toNat + 26)
  else none

/-- A digit below this one at place `k` is the last of its number. -/
private def threshold (bias k : Nat) : Nat :=
  if k ≤ bias then 1 else if bias + 26 ≤ k then 26 else k - bias

/-- Halve the distance scale until it is small, counting the steps. -/
private def adaptScale : Nat → Nat → Nat → Nat
  | 0, _, k => k
  | fuel + 1, delta, k =>
    if delta > 455 then adaptScale fuel (delta / 35) (k + 36) else k + 36 * delta / (delta + 38)

private def adaptBias (delta points : Nat) (first : Bool) : Nat :=
  let delta := if first then delta / 700 else delta / 2
  let delta := delta + delta / points
  adaptScale delta delta 0

/-! ## Writing -/

/-- A distance as digits of variable weight. -/
private def distanceDigits : Nat → Nat → Nat → Nat → List Char
  | 0, _, _, _ => []
  | fuel + 1, bias, k, q =>
    let t := threshold bias k
    if q < t then [punycodeDigit q]
    else punycodeDigit (t + (q - t) % (36 - t)) ::
      distanceDigits fuel bias (k + 36) ((q - t) / (36 - t))

/-- What the encoder carries from one character to the next. -/
private structure PunycodeState where
  delta : Nat := 0
  bias : Nat := 72
  handled : Nat
  first : Bool := true
  out : List Char

/-- Pass over the label once for the code point `n`. -/
private def punycodePass (label : List Char) (n : Nat) (s : PunycodeState) : PunycodeState :=
  label.foldl
    (fun s c =>
      if c.toNat < n then { s with delta := s.delta + 1 }
      else if c.toNat = n then
        { delta := 0
          bias := adaptBias s.delta (s.handled + 1) s.first
          handled := s.handled + 1
          first := false
          out := s.out ++ distanceDigits (s.delta + 1) s.bias 36 s.delta }
      else s)
    s

/-- The code points of the label outside ASCII, in order. -/
private def punycodePoints (label : List Char) : List Nat :=
  (((label.map Char.toNat).filter (128 ≤ ·)).mergeSort (· ≤ ·)).eraseDups

/-- A label in ASCII letters and digits, without the mark that says so. -/
def punycode (label : List Char) : List Char :=
  let basic := label.filter (·.toNat < 128)
  let start : PunycodeState :=
    { handled := basic.length, out := if basic.isEmpty then [] else basic ++ ['-'] }
  let step := fun (s, n) m =>
    let s := { s with delta := s.delta + (m - n) * (s.handled + 1) }
    let s := punycodePass label m s
    ({ s with delta := s.delta + 1 }, m + 1)
  ((punycodePoints label).foldl step (start, 128)).1.out

/-! ## Reading -/

/-- Read a distance and add it to `sum`; the digits that follow are worth `weight` and more. -/
private def readDistance (bias k weight sum : Nat) : List Char → Option (Nat × List Char)
  | [] => none
  | c :: rest => do
    let d ← punycodeValue? c
    let t := threshold bias k
    let sum := sum + d * weight
    if d < t then some (sum, rest) else readDistance bias (k + 36) (weight * (36 - t)) sum rest

/-- Insert into `out` the characters that the digits tell of, `fuel` at most.  The last one was `n`,
and the next is `i` places on at least. -/
private def insertPoints : Nat → List Char → Nat → Nat → Nat → List Char → Option (List Char)
  | _, out, _, _, _, [] => some out
  | 0, _, _, _, _, _ => none
  | fuel + 1, out, n, i, bias, digits => do
    let (j, rest) ← readDistance bias 36 1 i digits
    let count := out.length + 1
    let n := n + j / count
    let place := j % count
    if n.isValidChar then
      insertPoints fuel (out.take place ++ Char.ofNat n :: out.drop place) n (place + 1)
        (adaptBias (j - i) count (i == 0)) rest
    else none

/-- The label behind its letters and digits.  The last hyphen, unless it comes first, ends the ASCII
characters. -/
def decodePunycode? (code : List Char) : Option (List Char) :=
  let digits := (code.reverse.takeWhile (· != '-')).reverse
  let basic := code.take (code.length - digits.length - 1)
  if basic.isEmpty then insertPoints code.length [] 128 0 72 code
  else insertPoints code.length basic 128 0 72 digits

end SoapBindings.Url
