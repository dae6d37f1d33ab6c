/-
# `SoapBindings.Url.Percent` — percent-encoding

Which characters each part of a URL must not hold as they are, and how such a character is written
and read: octet by octet, as a percent sign and two hexadecimal digits.
-/
import SoapBindings.Text.Hex
import SoapBindings.Text.Utf8

namespace SoapBindings.Url

/-- Controls, and everything outside ASCII. -/
def inControlSet (c : Char) : Bool := c.toNat < 0x20 || 0x7E < c.toNat

def inFragmentSet (c : Char) : Bool := inControlSet c || " \"<>`".toList.contains c

def inQuerySet (c : Char) : Bool := inControlSet c || " \"#<>".toList.contains c

/-- The query of a special scheme may not hold an apostrophe either. -/
def inSpecialQuerySet (c : Char) : Bool := inQuerySet c || c == '\''

def inPathSet (c : Char) : Bool := inFragmentSet c || "#?\x7b\x7d".toList.contains c

/-- What a file name must not hold as it is: here a percent sign stands for itself. -/
def inFileNameSet (c : Char) : Bool := inPathSet c || "/%\\".toList.contains c

def inUserinfoSet (c : Char) : Bool := inPathSet c || "/:;=@[\\]^|".toList.contains c

/-- An octet as a percent sign and two digits. -/
def escapeOctet (b : UInt8) : List Char :=
  ['%', Text.hexDigit (b.toNat / 16), Text.hexDigit (b.toNat % 16)]

/-- The text with every character of the set written as octets. -/
def encode (inSet : Char → Bool) (cs : List Char) : List Char :=
  cs.flatMap fun c => if inSet c then (String.utf8EncodeChar c).flatMap escapeOctet else [c]

/-- The octets of a text in which percent signs may stand for octets.  A percent sign without two
digits behind it stands for itself. -/
def decodeOctets : List Char → List UInt8
  | [] => []
  | c :: rest =>
    match c, rest with
    | '%', high :: low :: after =>
      match Text.hexValue? high, Text.hexValue? low with
      | some h, some l => (h * 16 + l).toUInt8 :: decodeOctets after
      | _, _ => String.utf8EncodeChar c ++ decodeOctets (high :: low :: after)
    | c, rest => String.utf8EncodeChar c ++ decodeOctets rest

/-- The text that the octets behind percent signs spell, if they are UTF-8. -/
def decode? (cs : List Char) : Option (List Char) := Text.decodeUtf8 (decodeOctets cs)

end SoapBindings.Url
