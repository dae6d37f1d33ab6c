/-
# `SoapBindings.Message.Value` — what messages say

A message says values: scalars, lists, and records of named values.  Names are those that the parts
have in messages, where attributes begin with `@` and the text of a record is `$text`.

The types of values are the declarations of generated code.  A synonym stands for its target, so
every type has one of two shapes.
-/
import SoapBindings.Code.Declaration
import SoapBindings.Timestamp

namespace SoapBindings

open Decimal (Floating)

inductive Value where
  | text (text : String)
  | integer (n : Int)
  | floating (x : Floating)
  | boolean (b : Bool)
  | timestamp (t : Timestamp)
  | list (values : List Value)
  /-- The values that are present. -/
  | record (fields : List (String × Value))

/-! ## Types -/

/-- The declarations of some packages. -/
structure MessageTypes where
  packages : List (String × List Code.Declaration)

/-- What the values of a type look like.  The types of a record's fields are written for the package
of the record. -/
inductive Shape where
  | scalar (scalar : Scalar)
  | record (package : String) (record : Code.Record)

namespace MessageTypes

def declaration? (ts : MessageTypes) (package name : String) : Option Code.Declaration :=
  (ts.packages.lookup package).bind (·.find? (·.name == name))

/-- Follow at most so many synonyms. -/
private def follow (ts : MessageTypes) : Nat → String → TypeRef → Option Shape
  | _, _, .builtin scalar => some (.scalar scalar)
  | 0, _, _ => none
  | n + 1, package, .own name _ => declared ts n package (ts.declaration? package name)
  | n + 1, _, .foreign package name _ => declared ts n package (ts.declaration? package name)
where
  declared (ts : MessageTypes) (n : Nat) (package : String) :
      Option Code.Declaration → Option Shape
    | some (.synonym a) => follow ts n package a.target
    | some (.record r) => some (.record package r)
    | none => none

/-- The shape of a type that is written for a package. -/
def shape? (ts : MessageTypes) (package : String) (type : TypeRef) : Option Shape :=
  follow ts (1 + (ts.packages.flatMap (·.2)).length) package type

end MessageTypes

/-! ## Scalars as text -/

namespace Scalar

/-- The words for the truth values. -/
def truthWords : List (Bool × List String) :=
  [(true, ["true", "1", "True", "TRUE", "t", "Yes", "YES", "yes", "y"]),
    (false, ["false", "0", "False", "FALSE", "f", "No", "NO", "no", "n"])]

def readTruth? (text : String) : Option Bool :=
  (truthWords.find? fun (_, words) => words.contains text).map (·.1)

/-- The items of a list that is written as one text. -/
def listItems (text : String) : List String :=
  ((text.toList.splitOn ' ').filter (!·.isEmpty)).map String.ofList

/-- The value that a text gives.  Octets are written as numbers. -/
def readValue? (scalar : Scalar) (text : String) : Option Value :=
  match scalar.bounds?, scalar.format?, scalar with
  | some bounds, _, _ => (readInteger? bounds text).map .integer
  | none, some format, _ => (Floating.read? format text).map .floating
  | none, none, .bool => (readTruth? text).map .boolean
  | none, none, .timestamp => (Timestamp.read? text).map .timestamp
  | none, none, .bytes =>
    ((listItems text).mapM fun item => (readInteger? (0, 255) item).map Value.integer).map .list
  | none, none, _ => some (.text text)

/-- The value of a field for text that is not there. -/
def defaultValue (scalar : Scalar) : Value :=
  match scalar.bounds?, scalar.format?, scalar with
  | some _, _, _ => .integer 0
  | none, some _, _ => .floating (.finite false 0 0)
  | none, none, .bool => .boolean false
  | none, none, .timestamp => .timestamp .epoch
  | none, none, .bytes => .list []
  | none, none, _ => .text ""

private def writeOctet? : Value → Option String
  | .integer n => some (toString n)
  | _ => none

/-- A value as text, unless it is of another kind. -/
def writeValue? (scalar : Scalar) (value : Value) : Option String :=
  match scalar.bounds?, scalar.format?, scalar, value with
  | some _, _, _, .integer n => some (toString n)
  | none, some format, _, .floating x => some (x.toText format)
  | none, none, .bool, .boolean b => some (if b then "true" else "false")
  | none, none, .timestamp, .timestamp t => some t.toText
  | none, none, .bytes, .list values =>
    (values.mapM writeOctet?).map fun items => " ".intercalate items
  | none, none, .string, .text text => some text
  | _, _, _, _ => none

end Scalar

end SoapBindings
