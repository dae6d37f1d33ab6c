/-
# `SoapBindings.Markup.TextUnit` — what a document is read by

Markup is ASCII, so a document can be scanned by its characters or by its octets alike.  A message
is a text and is scanned by characters.  A document whose octets are not UTF-8 is scanned octet by
octet: whether its bad octets matter depends on who reads the place where they stand.
-/
import SoapBindings.Text.Utf8

namespace SoapBindings.Markup

/-- A unit of text. -/
class TextUnit (α : Type) where
  /-- The unit of an ASCII character. -/
  ofAscii : Char → α
  /-- The characters that the units spell, if they spell any. -/
  decode? : List α → Option (List Char)
  /-- The mark at the very beginning that says nothing but how the text is encoded. -/
  byteOrderMark : List α

/-- Characters spell themselves. -/
instance : TextUnit Char where
  ofAscii c := c
  decode? := some
  byteOrderMark := ['\uFEFF']

/-- Octets spell characters if they are UTF-8. -/
instance : TextUnit UInt8 where
  ofAscii := Char.toUInt8
  decode? := Text.decodeUtf8
  byteOrderMark := [0xEF, 0xBB, 0xBF]

variable {α : Type} [DecidableEq α] [TextUnit α]

/-- The unit is a given ASCII character. -/
def is (c : Char) (x : α) : Bool := x == TextUnit.ofAscii c

/-- The units of an ASCII text. -/
def ascii (s : String) : List α := s.toList.map TextUnit.ofAscii

/-- The four characters that separate markup. -/
def isSpace (x : α) : Bool := is ' ' x || is '\t' x || is '\r' x || is '\n' x

/-- The unit is a given ASCII letter, large or small. -/
def isLetter (c : Char) (x : α) : Bool := is c.toUpper x || is c.toLower x

/-- The units begin with the keyword, in letters of any case. -/
def startsWithKeyword : List Char → List α → Bool
  | [], _ => true
  | _ :: _, [] => false
  | c :: keyword, x :: xs => isLetter c x && startsWithKeyword keyword xs

/-- A name without the part before its first colon. -/
def localPart (name : List α) : List α :=
  match name.dropWhile (!is ':' ·) with
  | [] => name
  | _ :: rest => rest

end SoapBindings.Markup
