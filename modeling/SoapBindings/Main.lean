/-
# `SoapBindings.Main` — the command

Reads the arguments, runs the command on the folders and files of the machine, and says how it
failed if it did.  Documents are read from files only.
-/
import SoapBindings.Command.Run

namespace SoapBindings.Command

/-- What an action gives, unless it fails. -/
def attempt {α : Type} (action : IO α) : IO (Option α) := do
  try return some (← action) catch _ => return none

/-- The files below a folder, by the names on the way behind those of `names`. -/
partial def walkFiles (folder : String) (names : List String) : IO (List (List String)) := do
  let mut found := []
  for entry in ← (← IO.FS.realPath folder).readDir do
    let path := join folder entry.fileName
    let names := names ++ [entry.fileName]
    if ← entry.path.isDir then found := found ++ (← walkFiles path names)
    else found := found ++ [names]
  return found

/-- The folders and files of the machine. -/
def machine : Workspace IO :=
  { canonicalPath? := fun path => attempt do return (← IO.FS.realPath path).toString
    fileAt? := fun path => attempt do
      return .ofOctets (← IO.FS.readBinFile path).toList
    download? := fun _ => return none
    names? := fun path => attempt do
      if path.isEmpty then throw (IO.userError path)
      return (← (← IO.FS.realPath path).readDir).toList.map (·.fileName)
    filesBelow? := fun path => attempt (walkFiles path [])
    isOccupied := fun path => return (← attempt (IO.FS.realPath path)).isSome
    makeFolder := fun path => do
      if path.isEmpty then return true
      return (← attempt (IO.FS.createDirAll path)).isSome
    write := fun path artifact => do
      return (← attempt (IO.FS.writeFile path artifact.content)).isSome }

/-- What the command says about itself. -/
def usage : String :=
  "Generates types and SOAP clients from WSDL and XSD documents\n\n" ++
    "Arguments: [flags] [--package folder] [--output file] input\n\n" ++
    "  -p, --package      Directory and module name for the generated package [myservice]\n" ++
    "  -o, --output       File name for the generated clients [myservice.rs]\n" ++
    "  -i, --ignore-tls   Accept invalid TLS certificates when downloading documents\n" ++
    "  -x, --process-xsd  Treat the input as XSD and generate types only\n" ++
    "  -f, --is-folder    Process every .xsd file below the input directory"

/-- Run the command: zero if all went well. -/
def runMain (args : List String) : IO UInt32 := do
  match readOptions args with
  | .error .help =>
    IO.println usage
    return 0
  | .error .usage =>
    IO.eprintln usage
    return 1
  | .ok options =>
    match ← (run machine options).run with
    | .ok _ => return 0
    | .error failure =>
      IO.eprintln ("Error: " ++ failure.message)
      return 1

end SoapBindings.Command

def main (args : List String) : IO UInt32 := SoapBindings.Command.runMain args
