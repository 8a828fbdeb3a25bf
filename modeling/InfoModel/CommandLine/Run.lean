/-
**A run of the command.**

The command maps the model of a source file by the settings of a file, and writes it to the standard
output or to a file. On its way it may tell what it does.

* `CommandLine.run` is a run on anything that holds files (`FileAccess`);
* `CommandLine.runOn` is a run on a set of files.
-/

import InfoModel.CommandLine.Arguments
import InfoModel.Document.OfToml
import InfoModel.Loading
import InfoModel.Schema.Summary
import InfoModel.Yaml.Printer

namespace InfoModel

/-- The ways to reach files. -/
structure FileAccess (m : Type → Type) where
  /-- Reads the text of a file. -/
  read : String → m (Except FileFault String)
  /-- Writes a text to a file. -/
  write : String → String → m (Except FileFault Unit)

/-- What a run says in the end. -/
structure Outcome where
  /-- Zero if all went well. -/
  exitCode : UInt32 := 0
  output : String := ""
  /-- The lines for whoever runs the command. -/
  messages : List String := []
deriving DecidableEq

namespace CommandLine

/-- The name of the command. -/
def commandName : String := "mim-mapper"

/-- The name and version of the command. -/
def versionText : String := commandName ++ " 0.3.0\n"

/-- How to call the command. -/
def usageLine : String := "Usage: " ++ commandName ++ " [OPTIONS] <SOURCE>"

/-- What the command does and takes. -/
def helpText : String :=
  "Map MIM information models onto target models\n\n" ++ usageLine ++
    "\n\nArguments:\n" ++
    "  <SOURCE>  Serialized source model (.json, .yaml or .yml)\n" ++
    "\nOptions:\n" ++
    "      --alias <ALIAS>    Alias for the mapped model (defaults to the file stem)\n" ++
    "      --config <CONFIG>  Mapper configuration file (TOML)\n" ++
    "      --format <FORMAT>  Output format [default: json] " ++
    "[possible values: json, yaml, summary]\n" ++
    "  -o, --output <OUTPUT>  Write output to this file instead of stdout\n" ++
    "      --no-inherited     Only map members declared on each object type itself\n" ++
    "  -v, --verbose          Verbose output\n" ++
    "  -h, --help             Print help\n" ++
    "  -V, --version          Print version\n"

/-- Why a run ends early. -/
inductive Failure where
  /-- The file of the settings cannot be read. -/
  | unreadableSettings (path : String) (fault : FileFault)
  /-- The file of the settings holds none. -/
  | unparsedSettings (path : String)
  /-- The model cannot be loaded. -/
  | unmapped (path : String) (fault : LoadFault)
  /-- The output cannot be written. -/
  | unwritten (path : String) (fault : FileFault)

/-- The report on a failure: what failed, and why. -/
def Failure.message (failure : Failure) : String :=
  "Error: " ++ String.intercalate ": " (match failure with
    | .unreadableSettings path fault => ["Failed to read config " ++ path, fault.message]
    | .unparsedSettings path => ["Failed to parse config " ++ path]
    | .unmapped path fault => ("Failed to map " ++ path) :: fault.chain
    | .unwritten path fault => ["Failed to write " ++ path, fault.message])

/-- The alias of a model: the given one, or the name of its file without extension. -/
def aliasOf (source : String) (arguments : Arguments) : String :=
  arguments.aliasName.getD ((Path.stem? source).getD "model")

/-- What is told before the mapping. -/
def opening (source aliasName : String) (settings : Settings) : List String :=
  ["Mapping model...", "  Source: " ++ source, "  Alias: " ++ aliasName,
    "  Default SRID: " ++ toString settings.defaultSrid.toNat,
    "  Unmapped types: " ++ settings.unmappedTypes.name,
    "  Inherited members: " ++ toString settings.includeInherited]

/-- A model in a format. -/
def render (model : Model) : OutputFormat → String
  | .json => model.toJson.pretty ++ "\n"
  | .yaml => model.toJson.toYaml
  | .summary => model.summary

/-- What is told, unless nobody asked for it. -/
def told (arguments : Arguments) (lines : List String) : List String :=
  if arguments.verbose then lines else []

/-- The outcome of a run that fails, behind what was told. -/
def failed (lines : List String) (failure : Failure) : Outcome where
  exitCode := 1
  messages := lines ++ [failure.message]

section Runs

variable {m : Type → Type} [Monad m]

/-- The settings of a file. -/
def readSettings (access : FileAccess m) (path : String) : m (Except Failure Settings) := do
  match ← access.read path with
  | .error fault => return .error (.unreadableSettings path fault)
  | .ok text =>
    match Settings.ofTomlText text with
    | .ok settings => return .ok settings
    | .error _ => return .error (.unparsedSettings path)

/-- The settings without inherited members, if the arguments say so. -/
def adjusted (arguments : Arguments) (settings : Settings) : Settings :=
  { settings with includeInherited := settings.includeInherited && !arguments.noInherited }

/-- The settings of a run: those of the file, if one is given, and of the arguments. -/
def settingsOf (access : FileAccess m) (arguments : Arguments) : m (Except Failure Settings) := do
  match arguments.config with
  | none => return .ok (adjusted arguments {})
  | some path => return (← readSettings access path).map (adjusted arguments)

/-- Writes the text of a model to where it belongs, behind what was told. -/
def finish (access : FileAccess m) (arguments : Arguments) (lines : List String) (text : String) :
    m Outcome := do
  match arguments.output with
  | none => return { output := text, messages := lines }
  | some path =>
    match ← access.write path text with
    | .error fault => return failed lines (.unwritten path fault)
    | .ok () => return { messages := lines ++ told arguments ["Wrote " ++ path] }

/-- Maps the model of a source. -/
def mapSource (access : FileAccess m) (source : String) (arguments : Arguments) : m Outcome := do
  match ← settingsOf access arguments with
  | .error failure => return failed [] failure
  | .ok settings =>
    let aliasName := aliasOf source arguments
    let lines := told arguments (opening source aliasName settings)
    let mapper : Mapper := { settings }
    match ← mapper.loadFrom access.read aliasName source with
    | .error fault => return failed lines (.unmapped source fault)
    | .ok model =>
      let lines :=
        lines ++ told arguments ["Mapped " ++ toString model.size ++ " object type(s)"]
      finish access arguments lines (render model (arguments.format.getD .json))

/-- A run of the command. -/
def run (access : FileAccess m) (arguments : List String) : m Outcome :=
  match Arguments.read arguments with
  | .map source arguments => mapSource access source arguments
  | .version => pure { output := versionText }
  | .help => pure { output := helpText }
  | .misuse => pure { exitCode := 2, messages := [usageLine] }

end Runs

/-- The files of a set that changes. -/
def setAccess : FileAccess (StateM FileSet) where
  read path := do return (← get).readText path
  write path text := do
    match (← get).writeText path text with
    | .ok files =>
      set files
      return .ok ()
    | .error fault => return .error fault

/-- A run on a set of files: its outcome and the files afterwards. -/
def runOn (files : FileSet) (arguments : List String) : Outcome × FileSet :=
  (run setAccess arguments).run files

end CommandLine

end InfoModel
