/-
# `SoapBindings.Command.Options` — the arguments of the command

Arguments are switches, settings and one input, in any order.  Switches have a letter and a word,
and several letters may share a hyphen; a setting's value stands behind it or in the next argument.
A setting without a value keeps its default.  Behind two hyphens everything is input.

The arguments are taken one by one, so a wish for help counts if nothing before it is wrong.
Whether anything was given twice, or nothing as input, is seen at the end.
-/

namespace SoapBindings.Command

/-- What a run is asked to do. -/
structure Options where
  /-- The folder that the code goes to. -/
  package : String := "myservice"
  /-- The file that the clients go to; only its name without the extension counts. -/
  output : String := "myservice.rs"
  ignoreTls : Bool := false
  /-- The input is a schema and not a service description. -/
  processXsd : Bool := false
  /-- The input is a folder of schemas. -/
  isFolder : Bool := false
  input : String
  deriving DecidableEq, Repr

inductive Switch where
  | ignoreTls
  | processXsd
  | isFolder
  deriving DecidableEq, Repr

inductive Setting where
  | package
  | output
  deriving DecidableEq, Repr

/-- What a letter or a word stands for. -/
inductive Flag where
  | switch (switch : Switch)
  | setting (setting : Setting)
  /-- The command is asked about itself. -/
  | help
  deriving DecidableEq, Repr

def flags : List (Char × String × Flag) :=
  [('i', "ignore-tls", .switch .ignoreTls), ('x', "process-xsd", .switch .processXsd),
    ('f', "is-folder", .switch .isFolder), ('p', "package", .setting .package),
    ('o', "output", .setting .output), ('h', "help", .help), ('V', "version", .help)]

def flagOfLetter? (c : Char) : Option Flag :=
  (flags.find? fun (letter, _, _) => letter == c).map fun (_, _, flag) => flag

def flagOfWord? (word : String) : Option Flag :=
  (flags.find? fun (_, w, _) => w == word).map fun (_, _, flag) => flag

/-- The arguments that have been taken. -/
structure Taken where
  switches : List Switch := []
  /-- Settings with their values, last one first.  One that is followed by no value has none. -/
  settings : List (Setting × Option String) := []
  input : Option String := none
  /-- The last argument was a setting, and the next one may be its value. -/
  pending : Bool := false
  /-- Everything further is input. -/
  inputOnly : Bool := false

/-- Why taking arguments ends early. -/
inductive Stop where
  | usage
  | help
  deriving DecidableEq, Repr

namespace Taken

def addInput (t : Taken) (arg : String) : Except Stop Taken :=
  match t.input with
  | none => .ok { t with input := some arg }
  | some _ => .error .usage

/-- Give the last setting its value. -/
def complete (t : Taken) (value : String) : Taken :=
  match t.settings with
  | (setting, none) :: before =>
    { t with settings := (setting, some value) :: before, pending := false }
  | _ => { t with pending := false }

def addSwitch (t : Taken) (switch : Switch) : Taken :=
  { t with switches := switch :: t.switches, pending := false }

/-- Add a setting, with what stands right behind it. -/
def addSetting (t : Taken) (setting : Setting) (value : Option (List Char)) : Taken :=
  match value with
  | some cs =>
    let value := String.ofList (cs.dropWhile (· == '='))
    { t with settings := (setting, some value) :: t.settings, pending := false }
  | none => { t with settings := (setting, none) :: t.settings, pending := true }

/-- Take letters behind a hyphen.  The letter of a setting takes all that follows as its value. -/
def takeLetters (t : Taken) : List Char → Except Stop Taken
  | [] => .ok t
  | c :: rest =>
    match flagOfLetter? c with
    | some (.switch switch) => (t.addSwitch switch).takeLetters rest
    | some (.setting setting) =>
      .ok (t.addSetting setting (if rest.isEmpty then none else some rest))
    | some .help => .error .help
    | none => .error .usage

/-- Take a word behind two hyphens. -/
def takeWord (t : Taken) (cs : List Char) : Except Stop Taken :=
  let word := cs.takeWhile (· != '=')
  let value := if word.length < cs.length then some (cs.drop (word.length + 1)) else none
  match flagOfWord? (String.ofList word) with
  | some (.switch switch) => .ok (t.addSwitch switch)
  | some (.setting setting) => .ok (t.addSetting setting value)
  | some .help => .error .help
  | none => .error .usage

/-- Take an argument. -/
def take (t : Taken) (arg : String) : Except Stop Taken :=
  if t.inputOnly then t.addInput arg
  else match arg.toList with
  | ['-', '-'] => .ok { t with inputOnly := true, pending := false }
  | '-' :: '-' :: rest => t.takeWord (rest.dropWhile (· == '-'))
  | '-' :: c :: rest => t.takeLetters (c :: rest)
  | _ => if t.pending then .ok (t.complete arg) else t.addInput arg

/-- The value of a setting, unless it keeps its default. -/
def value? (t : Taken) (setting : Setting) : Option String :=
  (t.settings.lookup setting).join

/-- What has been taken as options: nothing twice, and an input. -/
def options? (t : Taken) : Option Options := do
  let input ← t.input
  if t.switches.Nodup ∧ (t.settings.map (·.1)).Nodup then
    return {
      package := (t.value? .package).getD "myservice"
      output := (t.value? .output).getD "myservice.rs"
      ignoreTls := t.switches.contains .ignoreTls
      processXsd := t.switches.contains .processXsd
      isFolder := t.switches.contains .isFolder
      input }
  else none

end Taken

/-- The options that arguments give. -/
def readOptions (args : List String) : Except Stop Options := do
  let taken ← args.foldlM Taken.take {}
  match taken.options? with
  | some options => return options
  | none => throw .usage

end SoapBindings.Command
