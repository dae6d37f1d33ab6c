/-
# `SoapBindings.Message.Read` — values of messages

An element gives a record: its attributes and children are found by their names without prefixes,
and what has no field is passed over.  A field that is read twice is refused, and so are two items
of a list with something else between them.  While a list goes on, text between its items is an item
too.

A scalar is an element with text and nothing else.  What is passed over is not looked into, apart
from the text that it may begin with.

White space around a text is no part of it.  There is one exception: where an element that is passed
over has text behind its first child, what follows that element is taken as if it went on with the
text, so white space in front of it counts.
-/
import SoapBindings.Markup.Tree
import SoapBindings.Message.Value

namespace SoapBindings.Message

open Markup

/-- A list that is being read: the name of its field and of its elements, the shape of its items,
and the items so far, last item first. -/
structure Run where
  key : String
  tag : List Char
  item : Shape
  values : List Value

/-- The fields of a record so far, and the list that goes on. -/
structure Progress where
  fields : List (String × Value) := []
  run : Option Run := none

namespace Progress

/-- End the list that goes on. -/
def endRun (p : Progress) : Progress :=
  match p.run with
  | some run => { fields := (run.key, .list run.values.reverse) :: p.fields, run := none }
  | none => p

def has (p : Progress) (key : String) : Bool := p.fields.any (·.1 == key)

def add (p : Progress) (key : String) (value : Value) : Progress :=
  { p with fields := (key, value) :: p.fields }

end Progress

/-- The field of a record that has a name in messages. -/
def field? (r : Code.Record) (key : String) : Option Code.Field :=
  r.fields.find? (·.content.name? == some key)

/-- The shape of the items, for a field whose elements are the items of a list.  Octets are one even
where the schema has a single element. -/
def itemShape? (content : Code.Content) (shape : Shape) : Option Shape :=
  match content, shape with
  | .elements _ _, shape => some shape
  | _, .scalar .bytes => some (.scalar .u8)
  | _, _ => none

/-- Why a message has no value. -/
inductive Misreading where
  /-- The message does not have the form of its type. -/
  | misshapen
  /-- The text of a scalar is cut in two, which reading does not provide for. -/
  | cutText
  deriving DecidableEq, Repr

/-- The result of a step that can only fail for want of form. -/
private def shaped {α : Type} : Option α → Except Misreading α
  | some a => .ok a
  | none => .error .misshapen

/-- What a run of text says. -/
def textOf (keepsFront : Bool) (pieces : List Piece) : Except Misreading String :=
  shaped ((Piece.text? (Piece.trim keepsFront pieces)).map String.ofList)

/-- The text of an element that holds nothing else. -/
def plainText (children : List Node) : Except Misreading String :=
  match dropBlanks children with
  | [] => .ok ""
  | .text pieces :: rest => do
    let text ← textOf false pieces
    match dropBlanks rest with
    | [] => .ok text
    | .text pieces :: _ => (textOf false pieces).bind fun _ => .error .cutText
    | _ => .error .misshapen
  | _ => .error .misshapen

/-- What is passed over begins with no bad text. -/
def passable (children : List Node) : Bool :=
  match dropBlanks children with
  | .text pieces :: _ => (Piece.text? (Piece.trim false pieces)).isSome
  | _ => true

/-- What is passed over has text behind its first child, if only white space where that begins with
text as well. -/
def endsInText (children : List Node) : Bool :=
  match dropBlanks children with
  | .element _ inner :: .text pieces :: _ =>
    beginsWithText inner || beginsWithText [.text pieces]
  | _ => false

/-! ## Attributes -/

/-- The name of an attribute's field. -/
def attributeKey (a : Attribute Char) : String :=
  "@" ++ String.ofList (if a.isNamespace then a.key else localPart a.key)

/-- The value of an attribute.  Only where it is text may references stand in it. -/
def attributeValue? (scalar : Scalar) (content : List Char) : Option Value :=
  match scalar with
  | .string | .timestamp => (unescape? content).bind fun cs => scalar.readValue? (String.ofList cs)
  | _ => scalar.readValue? (String.ofList content)

/-- Read an attribute, if there is a field for it. -/
def readAttribute (ts : MessageTypes) (package : String) (r : Code.Record) (p : Progress)
    (a : Attribute Char) : Option Progress :=
  let key := attributeKey a
  match field? r key with
  | none => some p
  | some f =>
    if p.has key then none
    else match ts.shape? package f.content.type with
    | some (.scalar scalar) => (attributeValue? scalar a.value).map (p.add key)
    | _ => none

/-- Read all attributes of a tag, none of which may be at fault. -/
def readAttributes (ts : MessageTypes) (package : String) (r : Code.Record) (tag : List Char) :
    Option Progress :=
  (attributes tag).foldlM (fun p a =>
    match a with
    | .ok a => readAttribute ts package r p a
    | .error _ => none) {}

/-! ## Children -/

/-- The text of a record, which has a field or is passed over. -/
def readText (ts : MessageTypes) (package : String) (r : Code.Record) (p : Progress)
    (text : String) : Option Progress :=
  match field? r "$text" with
  | none => some p
  | some f =>
    if p.has "$text" then none
    else match ts.shape? package f.content.type with
    | some (.scalar scalar) => (scalar.readValue? text).map (p.add "$text")
    | _ => none

/-- An item of a list that is text between elements. -/
def textItem? (shape : Shape) (text : String) : Option Value :=
  match shape with
  | .scalar scalar => scalar.readValue? text
  | .record _ _ => none

/-- The values of a record in the order of its fields.  A text that is not there has a value all the
same. -/
def arrange (ts : MessageTypes) (package : String) (r : Code.Record) (p : Progress) : Value :=
  .record <| r.fields.filterMap fun f =>
    f.content.name?.bind fun key =>
      match p.endRun.fields.lookup key with
      | some value => some (key, value)
      | none =>
        if f.content.isText then
          match ts.shape? package f.content.type with
          | some (.scalar scalar) => some (key, scalar.defaultValue)
          | _ => none
        else none

/-- The list goes on with an element of the name. -/
def Run.continues (run : Option Run) (name : List Char) : Option Run :=
  run.filter (·.tag = name)

mutual

/-- The value of a shape that an element gives. -/
def readElement (ts : MessageTypes) (shape : Shape) : Node → Except Misreading Value
  | .element tag children =>
    match shape with
    | .scalar scalar => (plainText children).bind fun text => shaped (scalar.readValue? text)
    | .record package r =>
      (shaped (readAttributes ts package r tag)).bind fun p =>
        readChildren ts package r p false children
  | _ => .error .misshapen

/-- The value of a record, from what has been read of it and the children that are left. -/
def readChildren (ts : MessageTypes) (package : String) (r : Code.Record) (p : Progress)
    (keepsFront : Bool) : List Node → Except Misreading Value
  | [] => .ok (arrange ts package r p)
  | .doctype :: rest => readChildren ts package r p false rest
  | .text pieces :: rest =>
    if (Piece.trim keepsFront pieces).isEmpty then readChildren ts package r p false rest
    else (textOf keepsFront pieces).bind fun text =>
      match p.run with
      | some run =>
        (shaped (textItem? run.item text)).bind fun value =>
          readChildren ts package r
            { p with run := some { run with values := value :: run.values } } false rest
      | none =>
        (shaped (readText ts package r p text)).bind fun p =>
          readChildren ts package r p false rest
  | .element tag children :: rest =>
    match Run.continues p.run (tagName tag) with
    | some run =>
      (readElement ts run.item (.element tag children)).bind fun value =>
        readChildren ts package r
          { p with run := some { run with values := value :: run.values } } false rest
    | none =>
      let p := p.endRun
      let key := String.ofList (localPart (tagName tag))
      match field? r key with
      | none =>
        if passable children then readChildren ts package r p (endsInText children) rest
        else .error .misshapen
      | some f =>
        if p.has key then .error .misshapen
        else match ts.shape? package f.content.type with
        | none => .error .misshapen
        | some shape =>
          match itemShape? f.content shape with
          | some item =>
            (readElement ts item (.element tag children)).bind fun value =>
              readChildren ts package r
                { p with run := some { key, tag := tagName tag, item, values := [value] } } false
                  rest
          | none =>
            (readElement ts shape (.element tag children)).bind fun value =>
              readChildren ts package r (p.add key value) false rest

end

/-- The value that a message gives for a type. -/
def read (ts : MessageTypes) (package : String) (type : TypeRef) (xml : List Char) :
    Except Misreading Value := do
  readElement ts (← shaped (ts.shape? package type)) (← shaped (tree? xml))

end SoapBindings.Message
