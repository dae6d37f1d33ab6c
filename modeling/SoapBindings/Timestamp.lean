/-
# `SoapBindings.Timestamp` — points in time

A point in time is a date and a time of day at some offset from universal time.  It is written in
one way: with a fraction of three, six or nine digits, or none, as many as it needs, and with `Z`
for no offset.  It is read in more ways: white space may stand around the numbers, a space instead
of the `T`, numbers may have fewer digits, and the offset needs no colon.

A minute may have a leap second, whatever the minute.
-/
import SoapBindings.Decimal.Integer
import SoapBindings.Text.Blank

namespace SoapBindings

structure Timestamp where
  year : Int
  month : Nat
  day : Nat
  hour : Nat
  minute : Nat
  /-- Up to 60, which is a leap second. -/
  second : Nat
  nanosecond : Nat
  /-- How many minutes the time of day is ahead of universal time. -/
  offset : Int
  deriving DecidableEq, Repr

namespace Timestamp

/-- The point in time that stands for none. -/
def epoch : Timestamp :=
  { year := 1970, month := 1, day := 1, hour := 0, minute := 0, second := 0, nanosecond := 0,
    offset := 0 }

/-! ## Calendar -/

def isLeapYear (year : Int) : Bool := year % 4 = 0 && (year % 100 ≠ 0 || year % 400 = 0)

def daysIn (year : Int) (month : Nat) : Nat :=
  if month = 2 then if isLeapYear year then 29 else 28
  else if month ∈ [4, 6, 9, 11] then 30
  else 31

def firstYear : Int := -262143

def lastYear : Int := 262142

/-- The minute of the day in universal time, which may lie in the day before or behind. -/
def universalMinute (t : Timestamp) : Int := t.hour * 60 + t.minute - t.offset

/-- The day in universal time lies in one of the years that there are. -/
def isInRange (t : Timestamp) : Bool :=
  let first := t.year = firstYear && t.month = 1 && t.day = 1
  let last := t.year = lastYear && t.month = 12 && t.day = 31
  firstYear ≤ t.year && t.year ≤ lastYear && !(first && t.universalMinute < 0) &&
    !(last && 24 * 60 ≤ t.universalMinute)

/-- The date exists, the time of day as well, and the offset is less than a day. -/
def isValid (t : Timestamp) : Bool :=
  t.isInRange && 1 ≤ t.month && t.month ≤ 12 && 1 ≤ t.day && t.day ≤ daysIn t.year t.month &&
    t.hour ≤ 23 && t.minute ≤ 59 && t.second ≤ 60 && t.offset.natAbs < 24 * 60

/-! ## Writing -/

/-- A number in at least `width` digits. -/
private def padded (width n : Nat) : String :=
  let digits := Nat.toDigits 10 n
  String.ofList (List.replicate (width - digits.length) '0' ++ digits)

private def yearText (year : Int) : String :=
  if 0 ≤ year && year ≤ 9999 then padded 4 year.natAbs
  else (if year < 0 then "-" else "+") ++ padded 4 year.natAbs

private def fractionText (nanosecond : Nat) : String :=
  if nanosecond = 0 then ""
  else if nanosecond % 1000000 = 0 then "." ++ padded 3 (nanosecond / 1000000)
  else if nanosecond % 1000 = 0 then "." ++ padded 6 (nanosecond / 1000)
  else "." ++ padded 9 nanosecond

private def offsetText (offset : Int) : String :=
  if offset = 0 then "Z"
  else (if offset < 0 then "-" else "+") ++ padded 2 (offset.natAbs / 60) ++ ":" ++
    padded 2 (offset.natAbs % 60)

def toText (t : Timestamp) : String :=
  yearText t.year ++ "-" ++ padded 2 t.month ++ "-" ++ padded 2 t.day ++ "T" ++
    padded 2 t.hour ++ ":" ++ padded 2 t.minute ++ ":" ++ padded 2 t.second ++
    fractionText t.nanosecond ++ offsetText t.offset

/-! ## Reading -/

/-- A reader of the beginning of a text, which gives what it read and the rest. -/
private abbrev Reader (α : Type) := StateT (List Char) Option α

private def skipBlanks : Reader PUnit := modify (·.dropWhile Text.isBlank)

/-- A number of one digit up to `most` digits. -/
private def number (most : Nat) : Reader Nat := do
  let digits := ((← get).take most).takeWhile Char.isDigit
  modify (·.drop digits.length)
  Decimal.readDigits? digits

/-- A number in a date or a time, behind any white space. -/
private def component (most : Nat) : Reader Nat := do
  skipBlanks
  number most

/-- One of the characters. -/
private def oneOf (cs : List Char) : Reader Char := do
  match ← get with
  | c :: rest =>
    if cs.contains c then
      set rest
      return c
    else failure
  | [] => failure

/-- A separator behind any white space. -/
private def separator (c : Char) : Reader PUnit := do
  skipBlanks
  discard <| oneOf [c]

/-- A year of up to four digits, or of any number of digits behind a sign. -/
private def readYear : Reader Int := do
  skipBlanks
  let length := (← get).length
  match (← get).head? with
  | some '-' =>
    modify (·.drop 1)
    return -(← number length)
  | some '+' =>
    modify (·.drop 1)
    return (← number length)
  | _ => return (← number 4)

/-- A fraction of a second in nanoseconds, less what lies beyond them. -/
private def readFraction : Reader Nat := do
  match ← get with
  | '.' :: rest =>
    let digits := rest.takeWhile Char.isDigit
    set (rest.drop digits.length)
    let kept := digits.take 9
    return (← Decimal.readDigits? kept) * Decimal.tenTo (9 - kept.length)
  | _ => return 0

/-- An offset behind its sign: two digits of hours and two of minutes. -/
private def readOffsetDigits : Reader Nat := do
  let hours := (← get).take 2
  modify fun cs => (cs.drop 2).dropWhile fun c => c == ':' || Text.isBlank c
  let minutes := (← get).take 2
  modify (·.drop 2)
  let h ← Decimal.readDigits? hours
  let m ← Decimal.readDigits? minutes
  if hours.length = 2 && minutes.length = 2 && m < 60 then return h * 60 + m else failure

/-- An offset in minutes. -/
private def readOffset : Reader Int := do
  let cs ← get
  if (cs.take 3).map Char.toUpper = ['U', 'T', 'C'] then
    set (cs.drop 3)
    return 0
  match ← oneOf ['Z', 'z', '+', '-', '\u2212'] with
  | '+' => return (← readOffsetDigits)
  | '-' | '\u2212' => return -(← readOffsetDigits)
  | _ => return 0

private def readTimestamp : Reader Timestamp := do
  let year ← readYear
  separator '-'
  let month ← component 2
  separator '-'
  let day ← component 2
  discard <| oneOf ['T', 't', ' ']
  let hour ← component 2
  separator ':'
  let minute ← component 2
  separator ':'
  let second ← component 2
  let nanosecond ← readFraction
  skipBlanks
  let offset ← readOffset
  skipBlanks
  return { year, month, day, hour, minute, second, nanosecond, offset }

/-- The point in time that a text gives. -/
def read? (text : String) : Option Timestamp := do
  let (t, rest) ← readTimestamp.run text.toList
  if rest.isEmpty && t.isValid then some t else none

end Timestamp

end SoapBindings
