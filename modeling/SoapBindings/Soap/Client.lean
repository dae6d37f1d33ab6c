/-
# `SoapBindings.Soap.Client` — asking a service

A client puts a value into an envelope, posts it, and takes the answer out of the envelope that
comes back.  How messages are posted is for its user to say.

Faults usually come with a status of failure, so the envelope is looked at before the status.  The
status counts where the envelope has nothing to say.
-/
import SoapBindings.Markup.Namespace
import SoapBindings.Message.Read
import SoapBindings.Message.Write
import SoapBindings.Soap.Fault

namespace SoapBindings.Soap

open Markup Message

/-! ## Messages -/

/-- The message of a request: a value under a name, perhaps in a namespace. -/
def request (ts : MessageTypes) (package : String) (type : TypeRef) (root uri : String)
    (value : Value) : Except SoapError (List Char) :=
  match Message.write? ts package type root value with
  | none => .error .unmappable
  | some xml =>
    if uri.isEmpty then .ok xml
    else (withNamespace uri.toList xml).mapError .malformed

/-- The content of a header: a value under the name of its type. -/
def header (ts : MessageTypes) (package : String) (type : TypeRef) (value : Value) :
    Except SoapError (List Char) :=
  match (Message.rootName? ts package type).bind fun name =>
      Message.write? ts package type name value with
  | none => .error .unmappable
  | some xml => .ok xml

/-- The value in the envelope of a response, if there is any.  A fault is a failure. -/
def response {α : Type} (read : List Char → Except Misreading α) (text : List Char) :
    Except SoapError (Option α) := do
  if text.all Text.isBlank then return none
  match ← content text with
  | none => return none
  | some c =>
    if c.name == "Fault" then
      match Fault.read c.xml with
      | .ok fault => throw (.fault fault)
      | .error error => throw (.malformed error)
    else match read c.xml with
    | .ok value => return some value
    | .error .misshapen => throw .unmappable
    | .error .cutText => throw .cutText

/-! ## Exchanges -/

/-- What is posted to a service. -/
structure Post where
  url : String
  headers : List (String × String)
  body : List Char

/-- What comes back. -/
structure Reply where
  status : Nat
  text : List Char

namespace Reply

def isSuccess (r : Reply) : Bool := 200 ≤ r.status && r.status < 300

/-- The value in a reply, or the reason why there is none. -/
def value {α : Type} (r : Reply) (read : List Char → Except Misreading α) :
    Except SoapError (Option α) :=
  match response read r.text with
  | .ok none => if r.isSuccess then .ok none else .error (.status r.status)
  | .error (.unexpectedRoot name) =>
    .error (if r.isSuccess then .unexpectedRoot name else .status r.status)
  | .error .missingBody => .error (if r.isSuccess then .missingBody else .status r.status)
  | .error (.malformed e) => .error (if r.isSuccess then .malformed e else .status r.status)
  | result => result

end Reply

/-- The post of a message and a header to a service.  An action is announced if it has a name. -/
def post (url action : String) (message header : Option (List Char)) : Post :=
  { url
    headers := ("Content-Type", "text/xml; charset=\"utf-8\"") ::
      if action.isEmpty then [] else [("SOAPAction", action)]
    body := envelope message header }

/-- Ask a service.  `exchange` is how messages are posted: nothing comes back where that fails. -/
def call {α : Type} (exchange : Post → Option Reply) (p : Post)
    (read : List Char → Except Misreading α) : Except SoapError (Option α) :=
  match exchange p with
  | some reply => reply.value read
  | none => .error .unreachable

end SoapBindings.Soap
