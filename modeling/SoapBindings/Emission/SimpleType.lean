/-
# `SoapBindings.Emission.SimpleType` — simple types as synonyms

A simple type becomes a synonym: of its base, or of text where it is a union or a list.  Bounds on
its values end up in its documentation, and each value that it enumerates becomes a constant.
-/
import SoapBindings.Emission.Basic

namespace SoapBindings.Emission

open Xsd

/-- A type for which the schema has nothing better. -/
def plainText : TypeRef := .builtin .string

/-- The name of a constant, before it is made unique. -/
def constantName (synonym : String) (index : Nat) (value : String) : String :=
  let suffix := Naming.constantName (Naming.typeName value)
  Naming.constantName synonym ++ "_" ++ if suffix.isEmpty then toString index else suffix

/-- A value of the synonym if its target is a scalar that has the value, and text otherwise. -/
def constantValue (target : TypeRef) (value : String) : Code.ConstantValue :=
  match target with
  | .builtin scalar =>
    match scalar.literal? value with
    | some literal => .literal literal
    | none => .text value
  | _ => .text value

/-- One constant to an enumerated value, in order. -/
def constants (synonym : String) (target : TypeRef) (values : List Enumeration) :
    List Code.Constant :=
  values.zipIdx.foldl (fun done (e, index) =>
    done ++ [{
      ident := Naming.unique (done.map (·.ident)) (constantName synonym index e.value)
      documentation := e.documentation.toList ++
        ["Value of [`" ++ Naming.typeIdentifier synonym ++ "`]."]
      value := constantValue target e.value }]) []

/-- What a restriction, union or list says about the values of its type. -/
def remarks (type : SimpleType) : List String :=
  match type.restriction, type.union, type.list with
  | some restriction, _, _ => restriction.facets.map fun f => f.kind ++ ": " ++ f.value
  | none, some union, _ =>
    if union.memberTypes.isEmpty then [] else ["Union of " ++ ", ".intercalate union.memberTypes]
  | none, none, some item => ["Whitespace separated list of " ++ item]
  | none, none, none => []

/-- The values that a type enumerates itself or, as a union, through its anonymous members. -/
def enumerations (type : SimpleType) : List Enumeration :=
  match type.restriction, type.union with
  | some restriction, _ => restriction.enumerations
  | none, some union =>
    union.simpleTypes.flatMap fun member =>
      match member.restriction with
      | some restriction => restriction.enumerations
      | none => []
  | none, none => []

/-- The base of a restriction. -/
def simpleBase (r : Resolver) (type : SimpleType) : Emitter TypeRef :=
  match type.restriction.bind (·.base) with
  | some base => refer (r.resolveType · base)
  | none => return plainText

/-- Declare a simple type under a name.  A base that would be the type itself, as a type of the same
name in another namespace may be, counts as text. -/
def simpleType (r : Resolver) (name : String) (type : SimpleType)
    (documentation : Option String) : Emitter (Option Code.Declaration) := do
  if !(← claim name) then return none
  let target ← simpleBase r type
  let target := match target with
    | .own base kind => if base == name then plainText else .own base kind
    | target => target
  return some <| .synonym {
    name, target
    documentation := documentation.toList ++ remarks type
    constants := constants name target (enumerations type) }

end SoapBindings.Emission
