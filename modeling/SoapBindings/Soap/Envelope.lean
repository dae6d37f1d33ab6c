/-
# `SoapBindings.Soap.Envelope` — envelopes around messages

A message travels in the body of an envelope, perhaps with a header before the body.  `envelope`
puts it there as it is, and `content` cuts it out again.

A place in an envelope is a number of octets, counted from behind the byte order mark if there is
one.  The content is cut out of the whole text at such places, so behind a mark the cut falls three
octets early.
-/
import SoapBindings.Markup.Escape
import SoapBindings.Markup.Scan
import SoapBindings.Soap.Error
import SoapBindings.Text.Blank

namespace SoapBindings.Soap

open Markup

def envelopeNamespace : String := "http://schemas.xmlsoap.org/soap/envelope/"

/-! ## Writing -/

/-- The content in an element of the envelope's own. -/
def wrapped (name : String) (content : List Char) : List Char :=
  ("<soap:" ++ name ++ ">").toList ++ content ++ ("</soap:" ++ name ++ ">").toList

/-- An envelope around a message and a header, both of which may be missing. -/
def envelope (message header : Option (List Char)) : List Char :=
  "<?xml version=\"1.0\" encoding=\"utf-8\"?><soap:Envelope xmlns:soap=\"".toList ++
    escape envelopeNamespace.toList ++ "\">".toList ++
    (match header with
      | some content => wrapped "Header" content
      | none => []) ++
    wrapped "Body" (message.getD []) ++ "</soap:Envelope>".toList

/-! ## Reading -/

/-- An element that stands in an envelope. -/
structure Content where
  name : String
  /-- The element as it is written. -/
  xml : List Char
  deriving DecidableEq, Repr

/-- An element's name without its namespace prefix. -/
def elementName (tag : List Char) : String := String.ofList (localPart (tagName tag))

/-- How far the element reaches whose start tag has been read, in octets: up to the end of its end
tag.  `depth` elements of the same name are open inside it. -/
def reach? (name : List Char) : Nat → List (Lexeme Char) → Option Nat
  | _, [] => none
  | depth, l :: rest =>
    let size := Text.octets l.source
    match l.token with
    | .start tag =>
      (reach? name (if tagName tag = name then depth + 1 else depth) rest).map (size + ·)
    | .stop closed =>
      if closed = name then
        match depth with
        | 0 => some size
        | depth + 1 => (reach? name depth rest).map (size + ·)
      else (reach? name depth rest).map (size + ·)
    | _ => (reach? name depth rest).map (size + ·)

/-- A text of nothing but white space, which does not count as read. -/
def isPadding : Token Char → Bool
  | .text content => content.all isSpace
  | _ => false

/-- The first element in the body, with the places where it begins and ends.  `depth` elements are
open, the outermost an envelope and the second, if `inBody`, its body.  `place` is where the lexemes
begin, and `behind` where the last one before them ended that was no padding. -/
def locate (fault : Option MarkupError) (depth : Nat) (inBody : Bool) (place behind : Nat) :
    List (Lexeme Char) → Except SoapError (Option (String × Nat × Nat))
  | [] =>
    match fault with
    | some error => .error (.malformed error)
    | none => .error .missingBody
  | l :: rest =>
    let next := place + Text.octets l.source
    let reached := if isPadding l.token then behind else next
    match l.token with
    | .start tag =>
      let name := elementName tag
      if depth = 0 && name != "Envelope" then .error (.unexpectedRoot name)
      else if depth = 2 && inBody then
        match reach? (tagName tag) 0 rest with
        | some length => .ok (some (name, behind, next + length))
        | none => .error (.malformed (fault.getD .unclosedElement))
      else locate fault (depth + 1) (inBody || (depth = 1 && name == "Body")) next reached rest
    | .empty tag =>
      let name := elementName tag
      if depth = 0 && name != "Envelope" then .error (.unexpectedRoot name)
      else if depth = 2 && inBody then .ok (some (name, behind, next))
      else if depth = 1 && name == "Body" then .ok none
      else locate fault depth inBody next reached rest
    | .stop _ =>
      if depth = 2 && inBody then .ok none
      else locate fault (depth - 1) inBody next reached rest
    | _ => locate fault depth inBody next reached rest

/-- The first element in the body of an envelope, or nothing if the body is empty. -/
def content (cs : List Char) : Except SoapError (Option Content) := do
  let s := scan cs
  match ← locate s.fault 0 false 0 0 s.lexemes with
  | none => return none
  | some (name, start, stop) =>
    match Text.slice? cs start stop with
    | some xml => return some { name, xml := Text.stripWhile Text.isBlank xml }
    | none => throw .misplaced

end SoapBindings.Soap
