/-
# `SoapBindings.Document.Reading` — from markup to definitions and schemas

The reader keeps a stack of frames, one for each open element, and takes one token at a time.  A
service description is set up when its root opens and gathers its parts as they close; a schema is
complete when its root closes.  Elements are told apart by their local names.
-/
import SoapBindings.Document.Frame
import SoapBindings.Markup.Scan

namespace SoapBindings.Document

open Markup Xsd Wsdl

/-- What a document turns out to be. -/
inductive Parsed where
  | definitions (definitions : Definitions)
  | schema (schema : Schema)

/-- A document in the making.  The innermost frame comes first. -/
structure Assembly where
  definitions : Option Definitions := none
  schema : Option Schema := none
  stack : List Frame := []

namespace Assembly

variable {α : Type} [DecidableEq α] [TextUnit α]

/-- Change the service description, which must be there. -/
def update (a : Assembly) (change : Definitions → Definitions) : Except LoadError Assembly :=
  match a.definitions with
  | some d => .ok { a with definitions := some (change d) }
  | none => .error (.invalid .outsideDefinitions)

def push (a : Assembly) (frame : Frame) : Assembly := { a with stack := frame :: a.stack }

/-! ## Start tags -/

def openRoot (a : Assembly) (name : String) (tag : List α) :
    Except LoadError Assembly := do
  match name with
  | "definitions" =>
    let v ← readValues ["name", "targetNamespace"] tag
    let definitions : Definitions :=
      { name := v.lookup "name", targetNamespace := v.lookup "targetNamespace" }
    return { a with definitions := some definitions }.push .definitions
  | "schema" => return a.push (.schema (← readSchema tag))
  | _ => throw (.invalid (.unexpectedRoot name))

def openInDefinitions (a : Assembly) (name : String) (tag : List α) :
    Except LoadError Assembly := do
  match name with
  | "import" =>
    let v ← readValues ["location", "namespace"] tag
    let found : Wsdl.Import :=
      { location := ← required "import" "location" v, ofNamespace := v.lookup "namespace" }
    let a ← a.update fun d => { d with imports := d.imports ++ [found] }
    return a.push (.other name)
  | "types" => return a.push .types
  | "message" =>
    let v ← readValues ["name"] tag
    return a.push (.message { name := ← required "message" "name" v })
  | "portType" =>
    let v ← readValues ["name"] tag
    return a.push (.portType { name := ← required "portType" "name" v })
  | "binding" =>
    let v ← readValues ["name", "type"] tag
    return a.push
      (.binding { name := ← required "binding" "name" v, type := ← required "binding" "type" v })
  | "service" =>
    let v ← readValues ["name"] tag
    return a.push (.service { name := ← required "service" "name" v })
  | _ => return a.push (.other name)

/-- Open an element with a name under the frame on top.  Annotations may stand anywhere that means
something, and nothing below an unknown element means anything. -/
def openNamed (a : Assembly) (name : String) (tag : List α) : Except LoadError Assembly :=
  match a.stack with
  | [] => a.openRoot name tag
  | .other _ :: _ => .ok (a.push (.other name))
  | parent :: below =>
    match name, parent with
    | "annotation", _ => .ok (a.push (.annotated none))
    | "documentation", _ => .ok (a.push (.documentation ""))
    | _, .definitions => a.openInDefinitions name tag
    | _, _ => do
      let (parent, child) ← parent.openChild name tag
      return { a with stack := child :: parent :: below }

def openElement (a : Assembly) (tag : List α) : Except LoadError Assembly :=
  match TextUnit.decode? (localPart (tagName tag)) with
  | some name => a.openNamed (String.ofList name) tag
  | none => .error .badEncoding

/-! ## End tags and text -/

def closeElement (a : Assembly) : Except LoadError Assembly :=
  match a.stack with
  | [] => .ok a
  | [.schema s] => .ok { a with schema := some s, stack := [] }
  | [_] => .ok { a with stack := [] }
  | child :: parent :: below =>
    let rest := { a with stack := parent :: below }
    match child, parent with
    | .schema s, .types => rest.update fun d => { d with schemas := d.schemas ++ [s] }
    | .message m, .definitions => rest.update fun d => { d with messages := d.messages ++ [m] }
    | .portType p, .definitions => rest.update fun d => { d with portTypes := d.portTypes ++ [p] }
    | .binding b, .definitions => rest.update fun d => { d with bindings := d.bindings ++ [b] }
    | .service s, .definitions => rest.update fun d => { d with services := d.services ++ [s] }
    | _, _ => .ok { a with stack := parent.closeChild child :: below }

/-- Text counts only directly inside a documentation element. -/
def addText (a : Assembly) (text : String) : Assembly :=
  match a.stack with
  | .documentation before :: below => { a with stack := .documentation (before ++ text) :: below }
  | _ => a

/-! ## Tokens -/

/-- Take one token.  Text is read without the white space at its ends, and must be readable even
where it does not count. -/
def readToken (a : Assembly) (token : Token α) : Except LoadError Assembly :=
  match token with
  | .start tag => a.openElement tag
  | .empty tag => a.openElement tag >>= closeElement
  | .stop _ => a.closeElement
  | .text content =>
    match Text.stripWhile isSpace content with
    | [] => .ok a
    | content =>
      match TextUnit.decode? content with
      | none => .error (.malformed .undecodable)
      | some text =>
        match unescape? text with
        | none => .error (.malformed .badReference)
        | some text => .ok (a.addText (String.ofList text))
  | .cdata content =>
    match TextUnit.decode? content with
    | none => .error .badEncoding
    | some text => .ok (a.addText (String.ofList text))
  | .comment _ | .instruction _ | .doctype _ => .ok a

/-- Take all tokens in turn. -/
def readTokens (a : Assembly) (tokens : List (Token α)) : Except LoadError Assembly :=
  tokens.foldlM readToken a

/-- What has been read.  A service description counts before a schema. -/
def result (a : Assembly) : Except LoadError Parsed :=
  match a.definitions, a.schema with
  | some d, _ => .ok (.definitions d)
  | none, some s => .ok (.schema s)
  | none, none => .error (.invalid .noRoot)

end Assembly

variable {α : Type} [DecidableEq α] [TextUnit α]

/-- Read a document that has been cut into lexemes. -/
def parseScan (scanned : Scan α) : Except LoadError Parsed := do
  let a ← Assembly.readTokens {} (scanned.lexemes.map (·.token))
  match scanned.fault with
  | some fault => throw (.malformed fault)
  | none => a.result

/-- The content of a document: a text, or octets that spell none. -/
inductive Source where
  | text (content : List Char)
  | octets (content : List UInt8)
  deriving DecidableEq, Repr

/-- The content that octets stand for. -/
def Source.ofOctets (content : List UInt8) : Source :=
  match Text.decodeUtf8 content with
  | some characters => .text characters
  | none => .octets content

/-- Read a document. -/
def parse : Source → Except LoadError Parsed
  | .text content => parseScan (scan content)
  | .octets content => parseScan (scan content)

end SoapBindings.Document
