/-
# `SoapBindings.Markup.Name` — names of elements and attributes

Reading takes any name.  Writing admits the names that the markup language defines, and the empty
one, which nothing in it forbids.
-/
import SoapBindings.Text.Ranges

namespace SoapBindings.Markup

/-- The characters that a name may begin with. -/
def nameStartRanges : List (Nat × Nat) :=
  [(0x3A, 0x3A), (0x41, 0x5A), (0x5F, 0x5F), (0x61, 0x7A), (0xC0, 0xD6), (0xD8, 0xF6),
    (0xF8, 0x2FF), (0x370, 0x37D), (0x37F, 0x1FFF), (0x200C, 0x200D), (0x2070, 0x218F),
    (0x2C00, 0x2FEF), (0x3001, 0xD7FF), (0xF900, 0xFDCF), (0xFDF0, 0xFFFD), (0x10000, 0xEFFFF)]

/-- The characters that may follow besides. -/
def nameFurtherRanges : List (Nat × Nat) :=
  [(0x2D, 0x2E), (0x30, 0x39), (0xB7, 0xB7), (0x300, 0x36F), (0x203F, 0x2040)]

def isNameStart (c : Char) : Bool := Text.inRanges nameStartRanges c.toNat

def isNameChar (c : Char) : Bool := isNameStart c || Text.inRanges nameFurtherRanges c.toNat

/-- A name that may be written. -/
def isName (name : String) : Bool :=
  match name.toList with
  | [] => true
  | c :: rest => isNameStart c && rest.all isNameChar

end SoapBindings.Markup
