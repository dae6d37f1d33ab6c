/-
# `SoapBindings.Soap.Error` — how an exchange of messages fails

A service may answer with a fault, with something that is no message, or not at all; and a value may
have no form as a message, or a message no meaning as a value.
-/
import SoapBindings.Markup.Error

namespace SoapBindings.Soap

/-- What a service reports instead of an answer. -/
structure Fault where
  code : String := ""
  reason : String := ""
  /-- Who is at fault. -/
  actor : Option String := none
  detail : Option String := none
  deriving DecidableEq, Repr

def Fault.toText (f : Fault) : String := f.code ++ ": " ++ f.reason

inductive SoapError where
  /-- The service could not be asked or did not answer. -/
  | unreachable
  /-- The service answered with a status of failure and nothing else. -/
  | status (code : Nat)
  | malformed (error : Markup.MarkupError)
  /-- A value has no form as a message, or a message does not have the form of the value. -/
  | unmappable
  | fault (fault : Fault)
  | unexpectedRoot (name : String)
  | missingBody
  /-- The place of the content was miscounted, and falls into the middle of a character. -/
  | misplaced
  /-- The text of a scalar is cut in two, which reading does not provide for. -/
  | cutText
  deriving DecidableEq, Repr

namespace SoapError

/-- The text of a failure, where its cause has one of its own. -/
def message? : SoapError → Option String
  | status code => some (toString code)
  | fault f => some ("SOAP fault " ++ f.toText)
  | unexpectedRoot name =>
    some ("Invalid SOAP envelope: unexpected root element <" ++ name ++ ">")
  | missingBody => some "Invalid SOAP envelope: missing <Body> element"
  | _ => none

end SoapError

end SoapBindings.Soap
