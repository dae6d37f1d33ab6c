/-
# `SoapBindings.Document.Location` — from references to locations and packages

A location is a URL or, if it has no scheme, a path.  A scheme of one letter is a drive and makes
the text a path as well.
-/
import SoapBindings.Document.Error
import SoapBindings.Url.FilePath
import SoapBindings.Url.Parse

namespace SoapBindings.Document

/-- The URL that a text is by itself.  A text that is a path instead has none. -/
def ownUrl? (location : String) : Except LoadError (Option Url) :=
  match Url.read none location with
  | .ok url => .ok (if url.scheme.length > 1 then some url else none)
  | .error .relativeWithoutBase => .ok none
  | .error e => .error (.badUrl e)

/-- The URL of a document that a user asks for.  `canonicalPath` is its path without detours, if it
is an existing file. -/
def locationUrl (canonicalPath : Option String) (location : String) : Except LoadError Url := do
  match ← ownUrl? location with
  | some url => return url
  | none =>
    match canonicalPath.bind Url.ofFilePath? with
    | some url => return url
    | none => throw .badPath

/-- The URL that a reference leads to from the document at `base`.  The referrer is only named in
errors. -/
def resolveLocation (location : String) (base : Option Url) (referrer : String) :
    Except LoadError Url := do
  match ← ownUrl? location with
  | some url => return url
  | none =>
    match base with
    | some base =>
      match Url.read (some base) location with
      | .ok url => return url
      | .error _ => throw (.unresolvedReference location referrer)
    | none =>
      match Url.ofFilePath? location with
      | some url => return url
      | none => throw (.unresolvedReference location referrer)

/-- The text without any occurrence of `xsd`; what closes up around one is not looked at again. -/
def dropXsd : List Char → List Char
  | 'x' :: 's' :: 'd' :: rest => dropXsd rest
  | c :: rest => c :: dropXsd rest
  | [] => []

/-- The package of a schema, from the last segment of its location. -/
def schemaIdentifier (location : String) : String :=
  let path := location.toList.takeWhile fun c => c != '?' && c != '#'
  let segment := (path.reverse.takeWhile fun c => c != '/' && c != '\\').reverse
  String.ofList (dropXsd (segment.filter (· != '.')))

end SoapBindings.Document
