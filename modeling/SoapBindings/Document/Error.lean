/-
# `SoapBindings.Document.Error` — why a document cannot be loaded
-/
import SoapBindings.Markup.Error
import SoapBindings.Url.Parse

namespace SoapBindings

/-- Why a well-formed document is not the one that is wanted. -/
inductive Misfit where
  | unexpectedRoot (name : String)
  | noRoot
  /-- Something that belongs under `definitions` stands without it. -/
  | outsideDefinitions
  | schemaForService
  | serviceForSchema
  | importedSchema (url : Url)
  | referencedService (url : Url)
  deriving DecidableEq, Repr

inductive LoadError where
  | badUrl (error : UrlError)
  | badPath
  | unreadableFile (path : String)
  | unreachable
  | unsupportedScheme (scheme : String)
  | malformed (error : Markup.MarkupError)
  | badEncoding
  | missingAttribute (element key : String)
  | invalid (misfit : Misfit)
  | unresolvedReference (location referrer : String)
  | recursionLimit (location : String) (depth : Nat)
  deriving DecidableEq, Repr

def Misfit.message : Misfit → String
  | unexpectedRoot name => "unexpected root element <" ++ name ++ ">"
  | noRoot => "document contains neither <definitions> nor <schema>"
  | outsideDefinitions => "expected <definitions> root"
  | schemaForService => "expected a WSDL document but found an XSD schema"
  | serviceForSchema => "expected an XSD schema but found a WSDL document"
  | importedSchema url => url.toText ++ " is imported as WSDL but is an XSD schema"
  | referencedService url => url.toText ++ " is referenced as a schema but is a WSDL document"

def LoadError.message : LoadError → String
  | badUrl _ => "Unable to parse provided URL"
  | badPath => "Unable to convert provided path"
  | unreadableFile path => "Unable to read file " ++ path
  | unreachable => "Unable to get file from server"
  | unsupportedScheme scheme => "Unsupported URL scheme " ++ scheme
  | malformed _ => "Error parsing XML input"
  | badEncoding => "Document is not valid UTF-8"
  | missingAttribute element key =>
    "Element <" ++ element ++ "> is missing required attribute `" ++ key ++ "`"
  | invalid misfit => "Invalid document: " ++ misfit.message
  | unresolvedReference location referrer =>
    "Unable to resolve location " ++ location ++ " referenced from " ++ referrer
  | recursionLimit location depth =>
    "Reached maximum include depth of " ++ toString depth ++ " while loading " ++ location

end SoapBindings
