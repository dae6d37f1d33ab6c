/-
# `SoapBindings.Emission.Basic` — the state of emission

Emission turns the definitions of a package into declarations.  It keeps what has been declared,
which packages are referred to, and what is being expanded just now: whatever is being expanded is
not expanded again inside itself.

The stacks are part of the state, and every operation leaves them as it found them.
-/
import SoapBindings.Code.Declaration
import SoapBindings.Naming.Unique

namespace SoapBindings

structure Emission where
  context : Context
  /-- The declarations in order.  An entry is empty where a definition was skipped. -/
  declarations : List (Option Code.Declaration) := []
  /-- The groups of elements that are being expanded. -/
  groups : List String := []
  /-- The attribute groups that are being expanded. -/
  attributeGroups : List String := []
  /-- The records whose content is being expanded. -/
  expanding : List String := []
  /-- An expansion went deeper than its bound. -/
  exhausted : Bool := false

abbrev Emitter := StateM Emission

namespace Emission

/-- The type that a reference stands for in the package at hand, where its package is noted. -/
def refer (find : Option String → TypeRef) : Emitter TypeRef := do
  let type := find (← get).context.package
  modify fun s => { s with context := s.context.note type }
  return type

def declare (declaration : Option Code.Declaration) : Emitter PUnit :=
  modify fun s => { s with declarations := s.declarations ++ [declaration] }

/-- Claim a name in the package: `false` if it is taken. -/
def claim (name : String) : Emitter Bool := do
  let fresh := !(← get).context.isEmitted name
  modify fun s => { s with context := s.context.markEmitted name }
  return fresh

/-! ## Fields -/

/-- The fields of a record so far. -/
structure Fields where
  fields : List Code.Field := []
  unwritten : List TypeRef := []

namespace Fields

/-- Add a field, named after the name it has in the schema. -/
def add (fs : Fields) (name : String) (documentation : Option String) (content : Code.Content) :
    Fields :=
  let ident := Naming.unique (fs.fields.map (·.ident)) (Naming.fieldName name)
  { fs with fields := fs.fields ++ [{ ident, documentation, content }] }

/-- Add a field for the text of the record, unless there is one. -/
def addText (fs : Fields) (type : TypeRef) : Fields :=
  if fs.fields.any (·.content.isText) then { fs with unwritten := fs.unwritten ++ [type] }
  else fs.add "value" none (.text type)

end Fields

def record (name xmlName : String) (documentation : Option String) (fs : Fields) :
    Code.Declaration :=
  .record { name, xmlName, documentation, fields := fs.fields, unwritten := fs.unwritten }

end Emission

end SoapBindings
