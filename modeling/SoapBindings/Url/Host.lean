/-
# `SoapBindings.Url.Host` — host names and addresses

A host of a special scheme is a domain name or an address, and is brought to one spelling: small
letters, labels in ASCII, numbers without needless digits.  Any other scheme takes a host as it
stands, so long as no character in it could end it.
-/
import SoapBindings.Decimal.Integer
import SoapBindings.Url.Domain
import SoapBindings.Url.Percent

namespace SoapBindings.Url

/-! ## Addresses of four octets -/

/-- A part of an address: decimal, or octal behind a zero, or hexadecimal behind `0x`. -/
private def readAddressPart? (cs : List Char) : Option Nat :=
  let read := fun (radix : Nat) (digits : List Char) =>
    digits.foldlM
      (fun n c => (Text.hexValue? c).bind fun d =>
        if d < radix then some (n * radix + d) else none) 0
  match cs with
  | [] => none
  | '0' :: x :: digits => if x == 'x' || x == 'X' then read 16 digits else read 8 (x :: digits)
  | digits => read 10 digits

/-- The parts of an address, without the empty one behind a final point. -/
private def addressParts (cs : List Char) : List (List Char) :=
  let parts := cs.splitOn '.'
  if parts.length > 1 && parts.getLast? == some [] then parts.dropLast else parts

/-- The last part is a number, which makes the whole host an address. -/
private def endsInNumber (cs : List Char) : Bool :=
  match (addressParts cs).getLast? with
  | none => false
  | some part => (!part.isEmpty && part.all Char.isDigit) || (readAddressPart? part).isSome

/-- The number an address stands for.  The last part fills the octets that the others leave. -/
private def readAddress? (cs : List Char) : Option Nat := do
  let parts ← (addressParts cs).mapM readAddressPart?
  let last ← parts.getLast?
  let others := parts.dropLast
  if parts.length > 4 || others.any (255 < ·) ||
    last ≥ Decimal.twoTo (8 * (5 - parts.length)) then none
  else
    let high := others.zipIdx.foldl (fun sum (n, i) => sum + n * Decimal.twoTo (8 * (3 - i))) 0
    some (high + last)

private def addressText (n : Nat) : List Char :=
  ".".toList.intercalate
    ([n / 0x1000000, n / 0x10000 % 256, n / 0x100 % 256, n % 256].map (Nat.toDigits 10))

/-! ## Addresses of eight pieces -/

/-- A piece of one to four hexadecimal digits. -/
private def readPiece? (cs : List Char) : Option Nat :=
  if cs.isEmpty || cs.length > 4 then none
  else cs.foldlM (fun n c => (Text.hexValue? c).map (n * 16 + ·)) 0

/-- Pieces between colons, the last of which may be an address of four octets. -/
private def readPieces? (cs : List Char) : Option (List Nat) :=
  let parts := cs.splitOn ':'
  match parts.getLast? with
  | none => none
  | some last =>
    if last.contains '.' then do
      let quad := last.splitOn '.'
      let plain := fun part : List Char =>
        !part.isEmpty && part.all Char.isDigit && (part.length == 1 || part.head? != some '0')
      if quad.length != 4 || !quad.all plain then none
      else
        let n ← readAddress? last
        let high ← parts.dropLast.mapM readPiece?
        return high ++ [n / 0x10000, n % 0x10000]
    else parts.mapM readPiece?

/-- The text before and behind the first double colon. -/
private def splitAtGap (before : List Char) : List Char → Option (List Char × List Char)
  | ':' :: ':' :: rest => some (before.reverse, rest)
  | c :: rest => splitAtGap (c :: before) rest
  | [] => none

/-- The eight pieces of an address; a double colon stands for as many zeros as are missing. -/
private def readPieceAddress? (cs : List Char) : Option (List Nat) :=
  let side := fun part : List Char => if part.isEmpty then some [] else readPieces? part
  match splitAtGap [] cs with
  | none => (readPieces? cs).filter (·.length == 8)
  | some (before, after) => do
    let high ← side before
    let low ← side after
    if before.contains '.' || high.length + low.length > 7 then none
    else some (high ++ List.replicate (8 - high.length - low.length) 0 ++ low)

/-- The first longest run of at least two zeros, as its place and length. -/
private def longestZeroRun (pieces : List Nat) : Option (Nat × Nat) :=
  let runs := (List.range pieces.length).map fun i =>
    (i, ((pieces.drop i).takeWhile (· == 0)).length)
  let best := runs.foldl (fun best run => if best.2 < run.2 then run else best) (0, 0)
  if best.2 ≥ 2 then some best else none

private def pieceAddressText (pieces : List Nat) : List Char :=
  let join := fun pieces : List Nat => ":".toList.intercalate (pieces.map (Nat.toDigits 16))
  let body := match longestZeroRun pieces with
    | none => join pieces
    | some (i, n) => join (pieces.take i) ++ "::".toList ++ join (pieces.drop (i + n))
  "[".toList ++ body ++ "]".toList

/-! ## Hosts -/

/-- Characters that no host may hold. -/
private def forbiddenInHost (c : Char) : Bool :=
  c.toNat == 0 || c.toNat == 9 || c.toNat == 10 || c.toNat == 13 ||
    " #/:<>?@[\\]^|".toList.contains c

/-- Characters that no domain name may hold. -/
private def forbiddenInDomain (c : Char) : Bool :=
  forbiddenInHost c || c.toNat < 0x20 || c == '%' || c.toNat == 0x7F

private def readBracketed? (cs : List Char) : Option (List Char) :=
  if cs.getLast? == some ']' then (readPieceAddress? cs.dropLast).map pieceAddressText else none

/-- The one spelling of a host of a special scheme. -/
def domain? (cs : List Char) : Option (List Char) :=
  match cs with
  | '[' :: rest => readBracketed? rest
  | cs => do
    let name ← asciiDomain? (← decode? cs)
    if name.isEmpty || name.any forbiddenInDomain then none
    else if endsInNumber name then (readAddress? name).map addressText
    else some name

/-- A host of any other scheme. -/
def opaqueHost? (cs : List Char) : Option (List Char) :=
  match cs with
  | '[' :: rest => readBracketed? rest
  | cs => if cs.any forbiddenInHost then none else some (encode inControlSet cs)

end SoapBindings.Url
