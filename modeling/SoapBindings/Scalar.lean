/-
# `SoapBindings.Scalar` — the builtin types of a schema and their scalars

Every builtin type of XML Schema maps to one scalar of the generated code.  The lookup is by the
exact local name.  An enumeration value becomes a literal of its scalar when it fits; the scalars
for text, points in time and octets have no literals.
-/
import SoapBindings.Decimal.Floating
import SoapBindings.Text.Blank

namespace SoapBindings

open Decimal (Floating)

/-- What a builtin type becomes in generated code. -/
inductive Scalar where
  | string
  | f32
  | f64
  | i8
  | i16
  | i32
  | i64
  | u8
  | u16
  | u32
  | u64
  | bool
  | timestamp
  | bytes
  deriving DecidableEq, Repr

namespace Scalar

/-- The builtin types, by scalar. -/
def builtins : List (Scalar × List String) :=
  [(string, ["string", "token", "NMTOKEN", "NMTOKENS", "language", "anyURI", "normalizedString",
      "Name", "NCName", "QName", "ID", "IDREF", "IDREFS", "ENTITY", "ENTITIES", "NOTATION",
      "anyType", "anySimpleType", "gMonth", "gMonthDay", "gDay", "gYearMonth",
      "StringLength1to16", "StringLength1to32"]),
    (f32, ["float"]),
    (f64, ["double", "decimal"]),
    (i8, ["byte"]),
    (i16, ["short"]),
    (i32, ["int", "integer", "negativeInteger", "nonPositiveInteger"]),
    (i64, ["long"]),
    (u8, ["unsignedByte"]),
    (u16, ["unsignedShort"]),
    (u32, ["unsignedInt", "positiveInteger", "nonNegativeInteger"]),
    (u64, ["unsignedLong"]),
    (bool, ["boolean"]),
    (timestamp, ["dateTime", "date", "time", "duration", "gYear"]),
    (bytes, ["base64Binary", "hexBinary"])]

/-- The scalar of a builtin type, by its local name. -/
def ofBuiltin? (name : String) : Option Scalar :=
  (builtins.find? fun (_, names) => names.contains name).map (·.1)

/-- The scalar as generated code writes it, in tokens. -/
def tokens : Scalar → List String
  | string => ["::", "std", "::", "string", "::", "String"]
  | f32 => ["f32"]
  | f64 => ["f64"]
  | i8 => ["i8"]
  | i16 => ["i16"]
  | i32 => ["i32"]
  | i64 => ["i64"]
  | u8 => ["u8"]
  | u16 => ["u16"]
  | u32 => ["u32"]
  | u64 => ["u64"]
  | bool => ["bool"]
  | timestamp => ["::", "wsdlgen_util", "::", "Timestamp"]
  | bytes => ["::", "std", "::", "vec", "::", "Vec", "<", "u8", ">"]

/-- The least and the greatest number of an integer scalar. -/
def bounds? : Scalar → Option (Int × Int)
  | i8 => some (-128, 127)
  | i16 => some (-32768, 32767)
  | i32 => some (-2147483648, 2147483647)
  | i64 => some (-9223372036854775808, 9223372036854775807)
  | u8 => some (0, 255)
  | u16 => some (0, 65535)
  | u32 => some (0, 4294967295)
  | u64 => some (0, 18446744073709551615)
  | _ => none

/-- The binary format of a floating-point scalar. -/
def format? : Scalar → Option Decimal.BinaryFormat
  | f32 => some Decimal.binary32
  | f64 => some Decimal.binary64
  | _ => none

/-- A whole number within the bounds.  A scalar without negative numbers admits no minus sign, not
even before a zero. -/
def readInteger? (bounds : Int × Int) (text : String) : Option Int :=
  let read := if bounds.1 = 0 then (Decimal.readNatural? text).map Int.ofNat
    else Decimal.readInteger? text
  read.filter fun n => bounds.1 ≤ n && n ≤ bounds.2

/-- A truth value, in letters or as a digit. -/
def readBool? (text : String) : Option Bool :=
  if text == "true" || text == "1" then some true
  else if text == "false" || text == "0" then some false
  else none

end Scalar

/-- A constant of a scalar type in generated code. -/
inductive Literal where
  | integer (type : Scalar) (value : Int)
  | floating (type : Scalar) (format : Decimal.BinaryFormat) (value : Floating)
  | boolean (value : Bool)

namespace Literal

/-- A sign stands as a token of its own. -/
private def signed (negative : Bool) (text : String) : List String :=
  if negative then ["-", text] else [text]

def tokens : Literal → List String
  | integer type value =>
    signed (value < 0) (toString value.natAbs ++ String.join type.tokens)
  | floating type format value =>
    signed value.isNegative (value.magnitude format ++ String.join type.tokens)
  | boolean value => [if value then "true" else "false"]

end Literal

/-- The literal that an enumeration value denotes in the scalar, blanks at its ends aside. -/
def Scalar.literal? (scalar : Scalar) (value : String) : Option Literal :=
  let text := Text.trim value
  match scalar.bounds?, scalar.format? with
  | some bounds, _ => (readInteger? bounds text).map (.integer scalar)
  | none, some format =>
    ((Floating.read? format text).filter Floating.isFinite).map (.floating scalar format)
  | none, none =>
    match scalar with
    | .bool => (readBool? text).map .boolean
    | _ => none

end SoapBindings
