/-
# `SoapBindings.Url.Basic` — locations of documents

A URL in parts, and its one text.  The path is a list of segments, or a text of its own for the
schemes that have no hierarchy, such as `urn` and `mailto`.
-/
namespace SoapBindings

/-- Where a URL points below its host. -/
inductive UrlPath where
  | opaquePath (text : String)
  | segments (names : List String)
  deriving DecidableEq, Repr, Inhabited

structure Url where
  scheme : String
  userinfo : String := ""
  host : Option String := none
  port : Option Nat := none
  path : UrlPath
  query : Option String := none
  fragment : Option String := none
  deriving DecidableEq, Repr, Inhabited

namespace Url

/-- The path as it is written. -/
def pathText (url : Url) : String :=
  match url.path with
  | .opaquePath text => text
  | .segments names => String.join (names.map ("/" ++ ·))

/-- The text of a URL.  Without a host, a path that begins with two slashes would read as one. -/
def toText (url : Url) : String :=
  let authority := match url.host with
    | some host =>
      let userinfo := if url.userinfo.isEmpty then "" else url.userinfo ++ "@"
      let port := match url.port with
        | some n => ":" ++ toString n
        | none => ""
      "//" ++ userinfo ++ host ++ port
    | none =>
      match url.path with
      | .segments ("" :: _ :: _) => "/."
      | _ => ""
  let query := match url.query with
    | some q => "?" ++ q
    | none => ""
  let fragment := match url.fragment with
    | some f => "#" ++ f
    | none => ""
  url.scheme ++ ":" ++ authority ++ url.pathText ++ query ++ fragment

/-- The schemes whose URLs have a host, and the port each has by itself. -/
def specialSchemes : List (String × Option Nat) :=
  [("http", some 80), ("https", some 443), ("ws", some 80), ("wss", some 443), ("ftp", some 21),
    ("file", none)]

def isSpecialScheme (scheme : String) : Bool := (specialSchemes.lookup scheme).isSome

def isSpecial (url : Url) : Bool := isSpecialScheme url.scheme

end Url

end SoapBindings
