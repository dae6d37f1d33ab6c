/-
# `SoapBindings.Code.Tokens` — generated code in tokens

Code is written as its tokens, with one space between two of them.  A piece of code is a list of
texts, each one token or several.  Text in quotes is written with the escapes of JSON.
-/
import SoapBindings.Code.Declaration

namespace SoapBindings.Code

/-- A piece of code. -/
abbrev Tokens := List String

def Tokens.toText (tokens : Tokens) : String := " ".intercalate tokens

/-! ## Quoted text -/

/-- A character inside quotes: what would end them, the escape mark and control characters are
escaped. -/
def quotedChar (c : Char) : List Char :=
  if c == '"' || c == '\\' then ['\\', c]
  else if c.toNat < 0x20 then
    match c.toNat with
    | 0x08 => ['\\', 'b']
    | 0x09 => ['\\', 't']
    | 0x0A => ['\\', 'n']
    | 0x0C => ['\\', 'f']
    | 0x0D => ['\\', 'r']
    | n => ['\\', 'u', '0', '0', Nat.digitChar (n / 16), Nat.digitChar (n % 16)]
  else [c]

def quoted (text : String) : String :=
  String.ofList ('"' :: text.toList.flatMap quotedChar ++ ['"'])

/-- What is said on the lines of texts. -/
def commentLines (texts : List String) : List String := (texts.flatMap Text.lines).map Text.trim

/-- Documentation above a declaration, one comment to a line of the texts. -/
def comments (texts : List String) : Tokens :=
  (commentLines texts).flatMap fun line => ["# [ doc =", quoted (" " ++ line), "]"]

/-- A carriage return stands somewhere before another character than a line feed. -/
def strayReturn : List Char → Bool
  | [] => false
  | '\r' :: '\n' :: rest => strayReturn rest
  | c :: rest => c == '\r' || strayReturn rest

end Code

/-! ## Types -/

def TypeRef.tokens : TypeRef → Code.Tokens
  | builtin scalar => scalar.tokens
  | own name _ => [Naming.typeIdentifier name]
  | foreign package name _ => [Naming.moduleName package, "::", Naming.typeIdentifier name]

namespace Code

def vector (type : Tokens) : Tokens := [":: std :: vec :: Vec <"] ++ type ++ [">"]

def optional (type : Tokens) : Tokens := [":: std :: option :: Option <"] ++ type ++ [">"]

/-- A type that may be absent.  Records stand behind a pointer, so that types may contain
themselves. -/
def optionalType (type : TypeRef) : Tokens :=
  optional (if type.isRecord then [":: std :: boxed :: Box <"] ++ type.tokens ++ [">"]
    else type.tokens)

namespace Content

/-- The type of the field. -/
def fieldType : Content → Tokens
  | elements _ type => vector type.tokens
  | element _ type | attr _ type => optionalType type
  | text type => type.tokens
  | wildcard => optional Scalar.string.tokens

/-- How the field is found in messages, and when it is left out of them. -/
def treatment (content : Content) : Tokens :=
  match content, content.name? with
  | elements _ _, some name =>
    ["rename =", quoted name, ", default , skip_serializing_if =",
      quoted "::std::vec::Vec::is_empty"]
  | text _, some name => ["rename =", quoted name, ", default"]
  | _, some name =>
    ["rename =", quoted name, ", default , skip_serializing_if =",
      quoted "::std::option::Option::is_none"]
  | _, none => ["skip"]

end Content

def Field.tokens (f : Field) : Tokens :=
  comments f.documentation.toList ++ ["# [ serde ("] ++ f.content.treatment ++
    [") ] pub", f.ident, ":"] ++ f.content.fieldType ++ [","]

/-! ## Declarations -/

/-- The type of a constant comes with its value. -/
def Constant.tokens (synonym : String) (c : Constant) : Tokens :=
  comments c.documentation ++ ["pub const", c.ident, ":"] ++
    (match c.value with
      | .literal literal => [synonym, "="] ++ literal.tokens
      | .text text => ["& str =", quoted text]) ++ [";"]

def Synonym.tokens (a : Synonym) : Tokens :=
  let ident := Naming.typeIdentifier a.name
  comments a.documentation ++ ["pub type", ident, "="] ++ a.target.tokens ++ [";"] ++
    a.constants.flatMap (Constant.tokens ident)

def Record.tokens (r : Record) : Tokens :=
  comments r.documentation.toList ++
    ["# [ derive ( Debug , Clone , Default , PartialEq ,",
      ":: wsdlgen_util :: serde :: Serialize , :: wsdlgen_util :: serde :: Deserialize , ) ]",
      "# [ serde ( crate =", quoted "::wsdlgen_util::serde", ", rename =", quoted r.xmlName,
      ") ] pub struct", Naming.typeIdentifier r.name, "\x7b"] ++
    r.fields.flatMap Field.tokens ++ ["\x7d"]

def Declaration.tokens : Declaration → Tokens
  | synonym a => a.tokens
  | record r => r.tokens

/-! ## Clients -/

private def errorType : Tokens := [":: wsdlgen_util :: soap :: Error"]

private def resultType (type : Tokens) (rest : Tokens) : Tokens :=
  [":: std :: result :: Result <"] ++ type ++ [","] ++ errorType ++ rest

namespace Method

/-- The parameters of the method. -/
def parameters (m : Method) : Tokens :=
  ["& self ,"] ++
    (match m.input with
      | some request => ["request : &"] ++ request.type.tokens ++ [","]
      | none => []) ++
    ["header :"] ++ optional ["& :: wsdlgen_util :: soap :: Header"] ++
    [", configure :"] ++ optional [":: wsdlgen_util :: soap :: Configure < '_ >"] ++ [","]

/-- What the method hands to the exchange of messages. -/
def arguments (m : Method) : Tokens :=
  [quoted m.action, ","] ++
    (match m.input with
      | some request =>
        [":: std :: option :: Option :: Some ( :: wsdlgen_util :: soap :: Request :: new (",
          quoted request.root, ",", quoted request.targetNamespace, ", request ) ? )"]
      | none => [":: std :: option :: Option :: None"]) ++
    [", header , configure"]

def tokens (m : Method) : Tokens :=
  comments m.documentation ++ ["pub fn", m.ident, "("] ++ m.parameters ++ [") ->"] ++
    match m.output with
    | some type =>
      resultType (optional type.tokens) [", >"] ++ ["\x7b self . client . call ("] ++
        m.arguments ++ [") \x7d"]
    | none =>
      resultType ["( )"] [">"] ++
        ["\x7b self . client . call :: < :: wsdlgen_util :: soap :: Empty > ("] ++ m.arguments ++
        [") . map ( | _ | ( ) ) \x7d"]

end Method

def Client.tokens (c : Client) : Tokens :=
  let ident := Naming.typeIdentifier c.name
  comments c.documentation.toList ++
    ["pub struct", ident, "\x7b client : :: wsdlgen_util :: soap :: Client , \x7d impl", ident,
      "\x7b pub const ADDRESS : & 'static str =", quoted c.address, ";",
      "# [ doc =",
      quoted " Creates a client for `url`, or for the address declared by the service.",
      "] pub fn new ( url :"] ++ optional ["& str"] ++ [", ignore_tls : bool , ) ->"] ++
    resultType ["Self"] ["> \x7b :: std :: result :: Result :: Ok ( Self \x7b client :",
      ":: wsdlgen_util :: soap :: Client :: new ( url . unwrap_or ( Self :: ADDRESS ) ,",
      "ignore_tls , ) ? , \x7d ) \x7d"] ++
    c.methods.flatMap Method.tokens ++ ["\x7d"]

/-! ## Modules -/

def Body.tokens : Body → Tokens
  | types ds => ds.flatMap Declaration.tokens
  | clients cs => cs.flatMap Client.tokens

namespace SourceModule

def title (m : SourceModule) : String :=
  match m.body with
  | .types _ => " Types generated from package `" ++ m.package ++ "`."
  | .clients _ => " SOAP clients generated from port types."

private def comment (text : String) : Tokens := ["# ! [ doc =", quoted text, "]"]

def header (m : SourceModule) : Tokens :=
  comment m.title ++
    (match m.source with
      | some url => comment (" Source: " ++ url.toText)
      | none => []) ++
    ["# ! [ allow ( dead_code , unused_imports ) ]"] ++
    m.imports.flatMap fun package => ["use super ::", Naming.moduleName package, ";"]

def tokens (m : SourceModule) : Tokens := m.header ++ m.body.tokens

/-- The texts that the module is commented with. -/
def commentary (m : SourceModule) : List String := m.title :: commentLines m.body.remarks

/-- A comment has a carriage return that ends no line.  The module is written all the same, but no
reader of code takes such a comment. -/
def hasStrayReturn (m : SourceModule) : Bool :=
  m.commentary.any fun text => strayReturn text.toList

/-- The module as a declaration inside another one. -/
def inlined (m : SourceModule) : Tokens :=
  ["pub mod", m.ident, "\x7b"] ++ m.tokens ++ ["\x7d"]

end SourceModule

end Code

end SoapBindings
