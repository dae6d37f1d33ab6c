/-
# `SoapBindings.Command.Run` — a run of the command

A run loads documents, generates their code and writes it into a folder, one file to a module, with
an index of all modules there.  For a service description files are overwritten.  For schemas they
are not: what several of them refer to is written once, and what was there before stays.

A run may fail at any document.  Then what has been written stays written, and the index as it was.
-/
import SoapBindings.Command.Options
import SoapBindings.Document.Store
import SoapBindings.Generation

namespace SoapBindings.Command

open Code (SourceModule)

/-- Why a run fails. -/
inductive Failure where
  | outputIsInput (output : String)
  | invalidOutput (output : String)
  /-- A folder or file cannot be read or written. -/
  | files
  /-- The code of a module declares a type by a reserved word. -/
  | reservedName
  | load (error : LoadError)
  | generation (error : GenerationError)
  deriving DecidableEq, Repr

def Failure.message : Failure → String
  | outputIsInput output => "The output file `" ++ output ++ "` would overwrite the input"
  | invalidOutput output => "Invalid output file name `" ++ output ++ "`"
  | files => "IO error"
  | reservedName => "Generated code could not be formatted: a type is named by a reserved word"
  | load error => "Unable to load document: " ++ error.message
  | generation error => error.message

/-- What stands in a file. -/
inductive Artifact where
  | text (text : String)
  | code (module : SourceModule)

def Artifact.content : Artifact → String
  | text t => t
  | code module => module.tokens.toText ++ "\n"

/-- The folders and files that a run works on.  What reads or writes answers whether it could. -/
structure Workspace (m : Type → Type) extends Document.Store m where
  /-- The names in a folder. -/
  names? : String → m (Option (List String))
  /-- The files below a folder, by the names on the way. -/
  filesBelow? : String → m (Option (List (List String)))
  isOccupied : String → m Bool
  /-- Make a folder and all folders on the way to it. -/
  makeFolder : String → m Bool
  write : String → Artifact → m Bool

/-! ## Names of files -/

/-- The name at the end of a path, unless that leads upwards or nowhere. -/
def fileName? (path : String) : Option String :=
  (Url.pathNames path).getLast?.filter (· != "..")

/-- A name before its last dot and behind it.  A dot in front does not count. -/
def splitExtension (name : String) : String × Option String :=
  let cs := name.toList
  let extension := (cs.reverse.takeWhile (· != '.')).reverse
  let stem := cs.take (cs.length - extension.length - 1)
  if cs.contains '.' && !stem.isEmpty then (String.ofList stem, some (String.ofList extension))
  else (name, none)

/-- A name in a folder, as a path. -/
def join (folder name : String) : String :=
  if folder.isEmpty || folder.toList.getLast? == some '/' then folder ++ name
  else folder ++ "/" ++ name

/-- Paths by their names, in order. -/
def sortPaths (paths : List (List String)) : List (List String) :=
  paths.mergeSort fun a b => !decide (b < a)

/-! ## Steps -/

variable {m : Type → Type} [Monad m]

/-- Fail unless something could be done. -/
def ensure (done : m Bool) : ExceptT Failure m PUnit := do
  if !(← done) then throw .files

/-- Two paths name one file, or are the same text where one of them names none. -/
def isSameFile (w : Workspace m) (a b : String) : m Bool := do
  match ← w.canonicalPath? a, ← w.canonicalPath? b with
  | some a, some b => return a == b
  | _, _ => return a == b

/-- How deep documents may be nested. -/
def maxDepth : Nat := 100

/-- The code of the document at a location. -/
def generateFrom (w : Workspace m) (location : String) (kind : DocumentKind)
    (operations : String) : ExceptT Failure m Generated := do
  match ← (w.load maxDepth location kind).run with
  | .error e => throw (.load e)
  | .ok d =>
    match d.generate operations with
    | .error e => throw (.generation e)
    | .ok generated => return generated

/-- Write a module into the folder.  A file that is there may have to stay. -/
def writeModule (w : Workspace m) (folder : String) (overwrite : Bool) (module : SourceModule) :
    ExceptT Failure m PUnit := do
  let path := join folder (module.ident ++ ".rs")
  if !overwrite && (← w.isOccupied path) then return
  if module.declaresReserved then throw .reservedName
  ensure (w.write path (.code module))

def writeModules (w : Workspace m) (folder : String) (overwrite : Bool) (g : Generated) :
    ExceptT Failure m PUnit :=
  g.modules.forM (writeModule w folder overwrite)

/-- The module that a file name stands for in the index, which is itself no module. -/
def moduleOfFile? (name : String) : Option String :=
  match splitExtension name with
  | (stem, some "rs") => if stem == "mod" then none else some stem
  | _ => none

/-- The index of the modules in a folder. -/
def index (names : List String) : String :=
  String.join (((names.filterMap moduleOfFile?).foldl insertSorted []).map fun name =>
    "pub mod " ++ name ++ ";\n")

def writeIndex (w : Workspace m) (folder : String) : ExceptT Failure m PUnit := do
  match ← w.names? folder with
  | none => throw .files
  | some names => ensure (w.write (join folder "mod.rs") (.text (index names)))

/-- The schemas below a folder, in order. -/
def schemasBelow (w : Workspace m) (folder : String) : ExceptT Failure m (List String) := do
  match ← w.filesBelow? folder with
  | none => throw .files
  | some paths =>
    let schemas := paths.filter fun path =>
      (path.getLast?.map fun name => (splitExtension name).2 == some "xsd").getD false
    return (sortPaths schemas).map fun path => path.foldl join folder

/-- Write the types of schemas, one schema after another. -/
def writeSchemas (w : Workspace m) (o : Options) : ExceptT Failure m PUnit := do
  let inputs ← if o.isFolder then schemasBelow w o.input else pure [o.input]
  inputs.forM fun input => do
    writeModules w o.package false (← generateFrom w input .xsd "operations")

/-- Write the types and the clients of a service description. -/
def writeService (w : Workspace m) (o : Options) : ExceptT Failure m PUnit := do
  match fileName? o.output with
  | none => throw (.invalidOutput o.output)
  | some name =>
    writeModules w o.package true
      (← generateFrom w o.input .wsdl (splitExtension name).1)

/-- A whole run. -/
def run (w : Workspace m) (o : Options) : ExceptT Failure m PUnit := do
  if ← ExceptT.lift (isSameFile w o.input o.output) then throw (.outputIsInput o.output)
  ensure (w.makeFolder o.package)
  if o.processXsd then writeSchemas w o else writeService w o
  writeIndex w o.package

/-! ## Trees of files -/

/-- A tree of files as a workspace, seen from a working folder. -/
def Workspace.ofTree (workingFolder : List String) (download? : Url → Option Document.Source) :
    Workspace (StateM (FileTree Artifact)) :=
  let store := fun tree : FileTree Artifact =>
    Document.Store.ofTree (tree.map Artifact.content) workingFolder download?
  let folder? := fun (tree : FileTree Artifact) path =>
    (tree.locate? workingFolder path).filter tree.isFolder
  { canonicalPath? := fun path => return (store (← get)).canonicalPath? path
    fileAt? := fun path => return (store (← get)).fileAt? path
    download? := fun url => return download? url
    names? := fun path => do
      let tree ← get
      return (folder? tree path).map tree.children
    filesBelow? := fun path => do
      let tree ← get
      return (folder? tree path).map tree.filesBelow
    isOccupied := fun path => return ((← get).locate? workingFolder path).isSome
    makeFolder := fun path => do
      if path.isEmpty then return true
      let start := if Url.isAbsolutePath path then [] else workingFolder
      let (tree, done) :=
        (← get).makeFolders start ((path.toList.splitOn '/').map String.ofList)
      set tree
      return done
    write := fun path artifact => do
      let tree ← get
      match tree.newPlace? workingFolder path with
      | some place =>
        if tree.isFolder place then return false
        set (tree.put place (.file artifact))
        return true
      | none => return false }

end SoapBindings.Command
