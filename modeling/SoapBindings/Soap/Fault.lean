/-
# `SoapBindings.Soap.Fault` — reading faults

A fault says what happened in elements of fixed names.  Their content is taken as text, with any
markup in it as it is written; of elements with one name the last one counts.
-/
import SoapBindings.Soap.Envelope

namespace SoapBindings.Soap

open Markup

/-- Where a lexeme stands that is read for the texts of an element's children. -/
inductive Place where
  | outside
  | inRoot
  /-- In a child, with its tag, the number of elements of the same name that are open inside it, and
  what it holds so far. -/
  | inChild (tag : List Char) (depth : Nat) (content : List Char)

/-- The text of an element from its content as it is written. -/
def innerText (content : List Char) : Except MarkupError String :=
  match unescape? (Text.stripWhile Text.isBlank content) with
  | some text => .ok (String.ofList text)
  | none => .error .badReference

/-- Complete a list of texts by one more. -/
def withText (tag content : List Char) (others : Except MarkupError (List (String × String))) :
    Except MarkupError (List (String × String)) := do
  let text ← innerText content
  return (elementName tag, text) :: (← others)

/-- The name and the text of each child of the root from a place on, where `fault` ends the
lexemes. -/
def textsFrom (fault : Option MarkupError) :
    Place → List (Lexeme Char) → Except MarkupError (List (String × String))
  | .inChild _ _ _, [] => .error (fault.getD .unclosedElement)
  | _, [] =>
    match fault with
    | some error => .error error
    | none => .ok []
  | .inChild tag depth content, l :: rest =>
    let further := fun depth => textsFrom fault (.inChild tag depth (content ++ l.source)) rest
    match l.token with
    | .start inner => further (if tagName inner = tagName tag then depth + 1 else depth)
    | .stop name =>
      if name = tagName tag then
        match depth with
        | 0 => withText tag content (textsFrom fault .inRoot rest)
        | depth + 1 => further depth
      else further depth
    | _ => further depth
  | .inRoot, l :: rest =>
    match l.token with
    | .start tag => textsFrom fault (.inChild tag 0 []) rest
    | .empty tag => withText tag [] (textsFrom fault .inRoot rest)
    | .stop _ => textsFrom fault .outside rest
    | _ => textsFrom fault .inRoot rest
  | .outside, l :: rest =>
    match l.token with
    | .start _ => textsFrom fault .inRoot rest
    | _ => textsFrom fault .outside rest

/-- The name and the text of every child of the root, in order. -/
def childTexts (cs : List Char) : Except MarkupError (List (String × String)) :=
  let s := scan cs
  textsFrom s.fault .outside s.lexemes

namespace Fault

/-- Take note of one of the texts. -/
def note (f : Fault) (name text : String) : Fault :=
  match name with
  | "faultcode" => { f with code := text }
  | "faultstring" => { f with reason := text }
  | "faultactor" => { f with actor := some text }
  | "detail" => { f with detail := some text }
  | _ => f

def read (cs : List Char) : Except MarkupError Fault := do
  return (← childTexts cs).foldl (fun f (name, text) => f.note name text) {}

end Fault

end SoapBindings.Soap
