/-
# `SoapBindings.Document.Store` — where documents come from

A document is named by a URL or a path.  Files and documents on the web are for the owner of the
store to find, in a monad of its choice; every other scheme is refused.  A tree of files is a store
that nothing has to be done for.
-/
import SoapBindings.Document.Loading
import SoapBindings.FileTree

namespace SoapBindings.Document

/-- The places that documents are fetched from. -/
structure Store (m : Type → Type) where
  /-- The path of an existing file or folder without detours. -/
  canonicalPath? : String → m (Option String)
  fileAt? : String → m (Option Source)
  download? : Url → m (Option Source)

namespace Store

variable {m : Type → Type} [Monad m]

/-- Fetch the document at a URL. -/
def fetch (store : Store m) (url : Url) : ExceptT LoadError m Source := do
  match url.scheme with
  | "file" =>
    match url.toFilePath? with
    | none => throw .badPath
    | some path =>
      -- no file has a name that is not UTF-8, which shows with replacement characters
      let unreadable := LoadError.unreadableFile (String.ofList (Text.decodeUtf8Lossily path))
      match Text.decodeUtf8 path with
      | none => throw unreadable
      | some name =>
        match ← store.fileAt? (String.ofList name) with
        | some source => return source
        | none => throw unreadable
  | "http" | "https" =>
    match ← store.download? url with
    | some source => return source
    | none => throw .unreachable
  | scheme => throw (.unsupportedScheme scheme)

/-- Load the document that a user names by a URL or a path. -/
def load (store : Store m) (maxDepth : Nat) (location : String) (kind : DocumentKind) :
    ExceptT LoadError m Document := do
  let url ← ExceptT.mk (pure (locationUrl (← store.canonicalPath? location) location))
  loadUrl store.fetch maxDepth url kind

/-- A tree of texts as a store, seen from a working folder. -/
def ofTree (files : FileTree String) (workingFolder : List String)
    (download? : Url → Option Source) : Store Id :=
  { canonicalPath? := fun path =>
      pure ((files.locate? workingFolder path).map FileTree.pathText)
    fileAt? := fun path =>
      pure (((files.locate? workingFolder path).bind files.file?).map fun text =>
        .text text.toList)
    download? := fun url => pure (download? url) }

end Store

end SoapBindings.Document
