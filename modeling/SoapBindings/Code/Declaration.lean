/-
# `SoapBindings.Code.Declaration` — declarations of generated code

Generated code consists of modules: one to a package with its types, and one with the clients of
the services.  A type is a synonym, with constants for the values that it enumerates, or a record
whose fields say what they hold in a message.  Here are these declarations as data; how they are
written is said in `SoapBindings.Code.Tokens`.

`identifiers` lists the texts that a declaration uses as names.  It can be written only if they are
identifiers.
-/
import SoapBindings.Resolution

namespace SoapBindings

/-- The names in a reference to a type. -/
def TypeRef.identifiers : TypeRef → List String
  | builtin _ => []
  | own name _ => [Naming.typeIdentifier name]
  | foreign package name _ => [Naming.moduleName package, Naming.typeIdentifier name]

namespace Code

/-! ## Synonyms -/

inductive ConstantValue where
  /-- A value of the synonym that the constant belongs to. -/
  | literal (literal : Literal)
  | text (text : String)

structure Constant where
  ident : String
  documentation : List String
  value : ConstantValue

structure Synonym where
  name : String
  documentation : List String
  target : TypeRef
  constants : List Constant := []

/-! ## Records -/

/-- What a field holds of a message, and under which name. -/
inductive Content where
  /-- Any number of elements. -/
  | elements (name : String) (type : TypeRef)
  | element (name : String) (type : TypeRef)
  | attr (name : String) (type : TypeRef)
  /-- The text of the record itself. -/
  | text (type : TypeRef)
  /-- Elements of any name.  They are neither read nor written. -/
  | wildcard

namespace Content

/-- The name in messages. -/
def name? : Content → Option String
  | elements name _ => some name
  | element name _ => some name
  | attr name _ => some ("@" ++ name)
  | text _ => some "$text"
  | wildcard => none

def type : Content → TypeRef
  | elements _ type | element _ type | attr _ type | text type => type
  | wildcard => .builtin .string

def isText : Content → Bool
  | text _ => true
  | _ => false

/-- The field holds its value itself, neither in a list nor behind a pointer. -/
def byValue : Content → Bool
  | elements _ _ => false
  | element _ type | attr _ type => !type.isRecord
  | text _ | wildcard => true

end Content

structure Field where
  ident : String
  documentation : Option String := none
  content : Content

structure Record where
  name : String
  /-- The name of its element in messages. -/
  xmlName : String
  documentation : Option String
  fields : List Field
  /-- The types of further texts.  There is room for one, so these have no field. -/
  unwritten : List TypeRef := []

inductive Declaration where
  | synonym (synonym : Synonym)
  | record (record : Record)

namespace Declaration

def name : Declaration → String
  | synonym a => a.name
  | record r => r.name

def identifiers : Declaration → List String
  | synonym a => Naming.typeIdentifier a.name :: a.target.identifiers ++ a.constants.map (·.ident)
  | record r =>
    Naming.typeIdentifier r.name ::
      r.fields.flatMap (fun f => f.ident :: f.content.type.identifiers) ++
      r.unwritten.flatMap (·.identifiers)

/-- The texts above the declaration and inside it. -/
def remarks : Declaration → List String
  | synonym a => a.documentation ++ a.constants.flatMap (·.documentation)
  | record r => r.documentation.toList ++ r.fields.flatMap (·.documentation.toList)

end Declaration

/-! ## Clients -/

/-- What a method sends: a value of a type as an element of some name. -/
structure Request where
  type : TypeRef
  root : String
  targetNamespace : String

structure Method where
  ident : String
  documentation : List String
  /-- The action that is announced to the service. -/
  action : String
  input : Option Request
  output : Option TypeRef

structure Client where
  name : String
  documentation : Option String
  /-- Where the service is found unless its caller knows better. -/
  address : String
  methods : List Method

def Client.identifiers (c : Client) : List String :=
  Naming.typeIdentifier c.name ::
    c.methods.flatMap fun m =>
      m.ident :: (m.input.toList.map (·.type) ++ m.output.toList).flatMap (·.identifiers)

/-- The texts above the client and inside it. -/
def Client.remarks (c : Client) : List String :=
  c.documentation.toList ++ c.methods.flatMap (·.documentation)

/-! ## Modules -/

inductive Body where
  | types (declarations : List Declaration)
  | clients (clients : List Client)

/-- The types that the module declares. -/
def Body.declarations : Body → List Declaration
  | types ds => ds
  | clients _ => []

def Body.identifiers : Body → List String
  | types ds => ds.flatMap (·.identifiers)
  | clients cs => cs.flatMap (·.identifiers)

/-- The names that the module gives to types. -/
def Body.typeNames : Body → List String
  | types ds => ds.map fun d => Naming.typeIdentifier d.name
  | clients cs => cs.map fun c => Naming.typeIdentifier c.name

/-- The texts above declarations, fields and methods. -/
def Body.remarks : Body → List String
  | types ds => ds.flatMap (·.remarks)
  | clients cs => cs.flatMap (·.remarks)

/-- The generated code of one package, or of the clients. -/
structure SourceModule where
  package : String
  /-- The document that the code comes from. -/
  source : Option Url
  /-- The packages whose types the code uses. -/
  imports : List String
  body : Body

namespace SourceModule

/-- The name of the module itself. -/
def ident (m : SourceModule) : String := Naming.moduleName m.package

/-- The names inside the module. -/
def identifiers (m : SourceModule) : List String :=
  m.imports.map Naming.moduleName ++ m.body.identifiers

/-- The module can be written: its names are identifiers. -/
def isWellNamed (m : SourceModule) : Bool := m.identifiers.all Naming.isIdentifier

/-- A type of the module has the name of a reserved word.  Letters whose capital is another
letter's, as that of `ſ` is, lead there past the check of the name itself. -/
def declaresReserved (m : SourceModule) : Bool := m.body.typeNames.any Naming.isReserved

end SourceModule

end Code

end SoapBindings
