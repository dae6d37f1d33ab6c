/-
# `SoapBindings.Markup.Attribute` — the attributes of a tag

What stands behind the name of a tag is a sequence of keys with quoted values.  The reading goes on
behind a piece that is no attribute, so the result lists attributes and faults in the order in
which they stand; a reader that accepts no fault stops at the first one.
-/
import SoapBindings.Markup.Token

namespace SoapBindings.Markup

/-- A key and its value, as they are written. -/
structure Attribute (α : Type) where
  key : List α
  value : List α
  deriving DecidableEq, Repr

/-- Why a piece is no attribute. -/
inductive AttributeFault where
  | missingEquals
  | missingValue
  | unquotedValue
  | unclosedQuote
  | duplicate
  deriving DecidableEq, Repr

/-- Where the reading stands between two keys.  Behind a key that has been seen before, and behind a
value without quotes, everything up to the next space is passed over, quotes or not. -/
inductive AttributeMode (α : Type) where
  | gap
  | key (name : List α)
  | behindKey (name : List α)
  | behindEquals (name : List α)
  | value (name : List α) (quote : α) (content : List α)
  | passing

structure AttributeReader (α : Type) where
  mode : AttributeMode α := .gap
  keys : List (List α) := []
  found : List (Except AttributeFault (Attribute α)) := []

variable {α : Type} [DecidableEq α] [TextUnit α]

namespace AttributeReader

def fault (r : AttributeReader α) (f : AttributeFault) : AttributeReader α :=
  { r with found := .error f :: r.found }

/-- The equals sign behind a key. -/
def closeKey (r : AttributeReader α) (name : List α) : AttributeReader α :=
  let name := name.reverse
  if r.keys.contains name then { r.fault .duplicate with mode := .passing }
  else { r with mode := .behindEquals name, keys := name :: r.keys }

def step (r : AttributeReader α) (x : α) : AttributeReader α :=
  match r.mode with
  | .gap => if isSpace x then r else { r with mode := .key [x] }
  | .key name =>
    if is '=' x then r.closeKey name
    else if isSpace x then { r with mode := .behindKey name }
    else { r with mode := .key (x :: name) }
  | .behindKey name =>
    if isSpace x then r
    else if is '=' x then r.closeKey name
    else { r.fault .missingEquals with mode := .key [x] }
  | .behindEquals name =>
    if isSpace x then r
    else if is '"' x || is '\'' x then { r with mode := .value name x [] }
    else { r.fault .unquotedValue with mode := .passing }
  | .value name quote content =>
    if x = quote then { r with mode := .gap, found := .ok ⟨name, content.reverse⟩ :: r.found }
    else { r with mode := .value name quote (x :: content) }
  | .passing => if isSpace x then { r with mode := .gap } else r

def finish (r : AttributeReader α) : AttributeReader α :=
  match r.mode with
  | .key _ | .behindKey _ => r.fault .missingEquals
  | .behindEquals _ => r.fault .missingValue
  | .value _ _ _ => r.fault .unclosedQuote
  | _ => r

end AttributeReader

/-- The attributes of a tag and the faults between them. -/
def attributes (content : List α) : List (Except AttributeFault (Attribute α)) :=
  ((tagRest content).foldl AttributeReader.step {}).finish.found.reverse

/-- An attribute that declares what a namespace is called. -/
def Attribute.isNamespace (a : Attribute α) : Bool :=
  a.key = ascii "xmlns" || (ascii "xmlns:").isPrefixOf a.key

end SoapBindings.Markup
