/-
# `SoapBindings.Message.Write` — messages from values

A record becomes an element: attributes first, then the other fields in their order, as elements of
their names or as text.  A list is one element to an item, and what is absent is not written.  An
element with nothing in it is written as one tag.
-/
import SoapBindings.Markup.Escape
import SoapBindings.Markup.Name
import SoapBindings.Message.Read

namespace SoapBindings.Message

open Markup

/-- An element from its attributes and its content, which are both written already. -/
def writeTag (name : String) (attributes content : List Char) : Option (List Char) :=
  if isName name then
    let begun := '<' :: name.toList ++ attributes
    some <| if content.isEmpty then begun ++ "/>".toList
      else begun ++ ['>'] ++ content ++ "</".toList ++ name.toList ++ ['>']
  else none

/-- A field of a record as it is written: in the tag or between the tags. -/
inductive Written where
  | attr (text : List Char)
  | content (text : List Char)

namespace Written

def attributes : Written → List Char
  | attr text => text
  | content _ => []

def children : Written → List Char
  | attr _ => []
  | content text => text

end Written

/-- A scalar as an attribute. -/
def writeAttribute (key : String) (scalar : Scalar) (value : Value) : Option (List Char) := do
  let text ← scalar.writeValue? value
  if isName key then
    return ' ' :: key.toList ++ "=\"".toList ++ escape text.toList ++ ['"']
  else none

/-- Fields that were written under their names, in the order of the record. -/
def assemble (ts : MessageTypes) (package : String) (r : Code.Record) (name : String)
    (written : List (String × Written)) : Option (List Char) := do
  let parts ← r.fields.mapM fun f => do
    let key := f.content.name?.getD ""
    match written.lookup key with
    | some part => return part
    | none =>
      if f.content.isText then
        match ts.shape? package f.content.type with
        | some (.scalar scalar) =>
          return .content (escape (← scalar.writeValue? scalar.defaultValue).toList)
        | _ => none
      else return .content []
  writeTag name (parts.flatMap (·.attributes)) (parts.flatMap (·.children))

mutual

/-- A value of a shape as an element of a name, or as several where the value is a list. -/
def writeElement (ts : MessageTypes) (name : String) (shape : Shape) :
    Value → Option (List Char)
  | .record fields =>
    match shape with
    | .record package r =>
      (writeFields ts package r fields).bind (assemble ts package r name)
    | .scalar _ => none
  | .list values =>
    match shape with
    | .scalar .bytes => writeItems ts name (.scalar .u8) values
    | _ => none
  | value =>
    match shape with
    | .scalar scalar =>
      (scalar.writeValue? value).bind fun text => writeTag name [] (escape text.toList)
    | .record _ _ => none

/-- The items of a list, one after another. -/
def writeItems (ts : MessageTypes) (name : String) (item : Shape) :
    List Value → Option (List Char)
  | [] => some []
  | value :: rest =>
    (writeElement ts name item value).bind fun text =>
      (writeItems ts name item rest).map (text ++ ·)

/-- The fields of a record under their names.  A value without a field is left out. -/
def writeFields (ts : MessageTypes) (package : String) (r : Code.Record) :
    List (String × Value) → Option (List (String × Written))
  | [] => some []
  | (key, value) :: rest =>
    (writeFields ts package r rest).bind fun others =>
      match field? r key with
      | none => some others
      | some f =>
        match f.content, ts.shape? package f.content.type with
        | .attr name _, some (.scalar scalar) =>
          (writeAttribute name scalar value).map fun text => (key, .attr text) :: others
        | .text _, some (.scalar scalar) =>
          (scalar.writeValue? value).map fun text =>
            (key, .content (escape text.toList)) :: others
        | .element name _, some shape =>
          (writeElement ts name shape value).map fun text => (key, .content text) :: others
        | .elements name _, some shape =>
          match value with
          | .list values =>
            (writeItems ts name shape values).map fun text => (key, .content text) :: others
          | _ => none
        | _, _ => none

end

/-- A value of a type as an element of a name, unless the name or the value has no such form. -/
def write? (ts : MessageTypes) (package : String) (type : TypeRef) (name : String)
    (value : Value) : Option (List Char) := do
  writeElement ts name (← ts.shape? package type) value

/-- The name that a record's element has by itself. -/
def rootName? (ts : MessageTypes) (package : String) (type : TypeRef) : Option String :=
  match ts.shape? package type with
  | some (.record _ r) => some r.xmlName
  | _ => none

end SoapBindings.Message
