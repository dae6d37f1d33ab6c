/-
# `SoapBindings.Url.Domain` — domain names in ASCII

A domain name may be written in any script.  It is brought to one spelling character by character,
its labels are checked, and those that are not ASCII are encoded.  A label that comes encoded is
decoded, so that the checks see what it stands for.
-/
import SoapBindings.Text.Composition
import SoapBindings.Url.Direction
import SoapBindings.Url.DomainTable
import SoapBindings.Url.Joining
import SoapBindings.Url.Punycode

namespace SoapBindings.Url

/-- What tells that a label is encoded. -/
private def encodedMark : List Char := "xn--".toList

private def isAscii (cs : List Char) : Bool := cs.all (·.toNat < 128)

/-- The characters are spelled as a domain name spells them. -/
private def isSettled (cs : List Char) : Bool :=
  cs.all (fun c => domainImage? c == some [c]) && Text.compose cs == cs

/-- What a label stands for.  The code of an encoded one must be in ASCII and hold something that is
not. -/
private def plainLabel? (label : List Char) : Option (List Char) :=
  if encodedMark.isPrefixOf label then
    let code := label.drop encodedMark.length
    if isAscii code && code.length ≤ 2000 && code.getLast?.any (· != '-') then
      (decodePunycode? code).filter isSettled
    else none
  else some label

/-- The label may stand in a domain name: it does not begin with a mark, its joiners are where they
belong, and it is not too long to be encoded. -/
private def isLabel (label : List Char) : Bool :=
  !label.head?.any Text.isMark && joinersFit [] label && (isAscii label || label.length ≤ 1000)

private def encodedLabel (label : List Char) : List Char :=
  if isAscii label then label else encodedMark ++ punycode label

/-- A domain name in ASCII and small letters.  If anything in it runs to the left, every label must
run one way. -/
def asciiDomain? (cs : List Char) : Option (List Char) := do
  let images ← cs.mapM domainImage?
  let labels ← ((Text.compose images.flatten).splitOn '.').mapM plainLabel?
  if labels.all isLabel && (!labels.any runsLeft || labels.all runsOneWay) then
    some (['.'].intercalate (labels.map encodedLabel))
  else none

end SoapBindings.Url
