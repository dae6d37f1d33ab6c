/-
# `SoapBindings.FileTree` — folders and files

A tree of files as a value: what stands at each path, a path being the names from the root.  A
folder is there if it is listed or if something is listed below it.  A path as a user writes it is
walked name by name, so every name on the way must be a folder.
-/
import SoapBindings.Url.FilePath

namespace SoapBindings

/-- What stands at a path. -/
inductive FileNode (γ : Type) where
  | folder
  | file (content : γ)

structure FileTree (γ : Type) where
  entries : List (List String × FileNode γ) := []

namespace FileTree

variable {γ : Type}

/-- The entry listed at a path. -/
def node? (t : FileTree γ) (path : List String) : Option (FileNode γ) := t.entries.lookup path

/-- Something is listed below the path. -/
def hasBelow (t : FileTree γ) (path : List String) : Bool :=
  t.entries.any fun (p, _) => path.isPrefixOf p && path.length < p.length

def isFolder (t : FileTree γ) (path : List String) : Bool :=
  path.isEmpty || t.hasBelow path || match t.node? path with
    | some .folder => true
    | _ => false

def file? (t : FileTree γ) (path : List String) : Option γ :=
  match t.node? path with
  | some (.file content) => some content
  | _ => none

def contains (t : FileTree γ) (path : List String) : Bool :=
  t.isFolder path || (t.node? path).isSome

/-- The files below a folder, by the names on the way. -/
def filesBelow (t : FileTree γ) (path : List String) : List (List String) :=
  t.entries.filterMap fun (p, node) =>
    match node with
    | .file _ => if path.isPrefixOf p then some (p.drop path.length) else none
    | .folder => none

/-- The names in a folder. -/
def children (t : FileTree γ) (path : List String) : List String :=
  (t.entries.filterMap fun (p, _) =>
    if path.isPrefixOf p then p[path.length]? else none).eraseDups

/-- The tree with other contents. -/
def map {δ : Type} (f : γ → δ) (t : FileTree γ) : FileTree δ :=
  { entries := t.entries.map fun (path, node) =>
      match node with
      | .folder => (path, .folder)
      | .file content => (path, .file (f content)) }

/-- The tree with an entry put at a path. -/
def put (t : FileTree γ) (path : List String) (node : FileNode γ) : FileTree γ :=
  { entries := t.entries.filter (·.1 != path) ++ [(path, node)] }

/-! ## Paths as they are written -/

/-- The names that remain of a path when single dots stay and double dots go up. -/
def simplify (names : List String) : List String :=
  names.foldl
    (fun path name =>
      if name == "" || name == "." then path
      else if name == ".." then path.dropLast
      else path ++ [name])
    []

/-- Walk from a place along some names to something that is there. -/
def walk (t : FileTree γ) : List String → List String → Option (List String)
  | place, [] => if t.contains place then some place else none
  | place, name :: rest =>
    if !t.isFolder place then none
    else if name == "" || name == "." then t.walk place rest
    else if name == ".." then t.walk place.dropLast rest
    else t.walk (place ++ [name]) rest

/-- The place that a written path leads to, from the working folder if it is relative. -/
def locate? (t : FileTree γ) (workingFolder : List String) (path : String) :
    Option (List String) :=
  if path.isEmpty then none
  else
    let start := if Url.isAbsolutePath path then [] else workingFolder
    t.walk start ((path.toList.splitOn '/').map String.ofList)

/-- There is room for so many octets in a name. -/
def maxNameSize : Nat := 255

/-- The place where a written path would put something new: its folder must be there. -/
def newPlace? (t : FileTree γ) (workingFolder : List String) (path : String) :
    Option (List String) :=
  let start := if Url.isAbsolutePath path then [] else workingFolder
  let names := (path.toList.splitOn '/').map String.ofList
  match names.getLast? with
  | none => none
  | some name =>
    if maxNameSize < name.utf8ByteSize then none
    else ((t.walk start names.dropLast).filter t.isFolder).map (· ++ [name])

/-- The names have a single dot among them and lead nowhere. -/
def areDots (names : List String) : Bool :=
  names.contains "." && names.all fun name => name == "" || name == "."

/-- The tree with folders along some names from a place, unless a file stands in the way or a name
is too long.  A folder before a dot at the end has to be there. -/
def makeFolders (t : FileTree γ) : List String → List String → FileTree γ × Bool
  | place, [] => (t, t.isFolder place)
  | place, name :: rest =>
    if name == "" || name == "." then t.makeFolders place rest
    else if name == ".." then t.makeFolders place.dropLast rest
    else
      let next := place ++ [name]
      if t.isFolder next then t.makeFolders next rest
      else if t.contains next || maxNameSize < name.utf8ByteSize || areDots rest then (t, false)
      else (t.put next .folder).makeFolders next rest

/-- A place as an absolute path. -/
def pathText (place : List String) : String :=
  if place.isEmpty then "/" else String.join (place.map ("/" ++ ·))

end FileTree

end SoapBindings
