/-
# `SoapBindings.Url.FilePath` — files as URLs

An absolute path becomes a file URL segment by segment, whatever its segments are; only empty ones
and single dots go.  A file URL names a path again if its host is this one.
-/
import SoapBindings.Url.Basic
import SoapBindings.Url.Percent

namespace SoapBindings.Url

/-- A path from the root of the file system. -/
def isAbsolutePath (path : String) : Bool := path.toList.head? == some '/'

/-- The names along a path. -/
def pathNames (path : String) : List String :=
  ((path.toList.splitOn '/').map String.ofList).filter fun name => name != "" && name != "."

/-- The URL of a file, by its absolute path. -/
def ofFilePath? (path : String) : Option Url :=
  if isAbsolutePath path then
    let names := (pathNames path).map fun name => String.ofList (encode inFileNameSet name.toList)
    some
      { scheme := "file", host := some "",
        path := .segments (if names.isEmpty then [""] else names) }
  else none

/-- What must follow the octets of a path: a slash behind the name of a drive. -/
private def driveSlash (path : List UInt8) : List UInt8 :=
  match path.reverse with
  | mark :: letter :: _ =>
    if (Char.ofNat letter.toNat).isAlpha && (mark == 0x3A || mark == 0x7C) then [0x2F] else []
  | _ => []

/-- The path of a file, by its URL.  A path is octets, which need not be UTF-8. -/
def toFilePath? (url : Url) : Option (List UInt8) :=
  match url.path with
  | .opaquePath _ => none
  | .segments names =>
    if url.host == none || url.host == some "" || url.host == some "localhost" then
      let path := names.flatMap fun name => 0x2F :: decodeOctets name.toList
      some (path ++ driveSlash path)
    else none

end SoapBindings.Url
