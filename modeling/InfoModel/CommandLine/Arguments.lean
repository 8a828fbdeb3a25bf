/-
**Arguments of the command.**

The command takes one source and options in any order. An option with a long name has its value
behind an equal sign or as the next argument. Short names may stand together behind one hyphen; the
last of them may have a value right behind it. Behind `--` everything is a source.

* `Arguments.read` goes through the arguments. Each option may stand once, and a value that is an
  argument of its own may not look like an option.
-/

namespace InfoModel

/-- The way a model is written. -/
inductive OutputFormat where
  | json
  | yaml
  | summary
deriving DecidableEq, Inhabited

/-- The name of a format. -/
def OutputFormat.name : OutputFormat → String
  | .json => "json"
  | .yaml => "yaml"
  | .summary => "summary"

/-- The format of exactly this name. -/
def OutputFormat.ofName? (name : String) : Option OutputFormat :=
  [OutputFormat.json, .yaml, .summary].find? fun format => format.name == name

/-- What the command is asked to do. -/
structure Arguments where
  source : Option String := none
  aliasName : Option String := none
  config : Option String := none
  format : Option OutputFormat := none
  output : Option String := none
  noInherited : Bool := false
  verbose : Bool := false
deriving DecidableEq, Inhabited

/-- What comes of the arguments. -/
inductive Request where
  /-- Map a model; the arguments have a source. -/
  | map (source : String) (arguments : Arguments)
  | version
  | help
  /-- The arguments are not those of the command. -/
  | misuse
deriving DecidableEq

namespace Arguments

/-- An option without a value. -/
inductive Flag where
  | noInherited
  | verbose
  | version
  | help
deriving DecidableEq

/-- An option with a value. -/
inductive Setting where
  | aliasName
  | config
  | format
  | output
deriving DecidableEq

/-- The options. -/
inductive OptionKind where
  | flag (flag : Flag)
  | setting (setting : Setting)
deriving DecidableEq

/-- The option of a long name. -/
def ofLong? : List Char → Option OptionKind
  | name =>
    if name == "alias".toList then some (.setting .aliasName)
    else if name == "config".toList then some (.setting .config)
    else if name == "format".toList then some (.setting .format)
    else if name == "output".toList then some (.setting .output)
    else if name == "no-inherited".toList then some (.flag .noInherited)
    else if name == "verbose".toList then some (.flag .verbose)
    else if name == "version".toList then some (.flag .version)
    else if name == "help".toList then some (.flag .help)
    else none

/-- The option of a short name. -/
def ofShort? : Char → Option OptionKind
  | 'o' => some (.setting .output)
  | 'v' => some (.flag .verbose)
  | 'V' => some (.flag .version)
  | 'h' => some (.flag .help)
  | _ => none

/-- Sets what has not been set before. -/
def once {α : Type} (value : α) : Option α → Option (Option α)
  | none => some (some value)
  | some _ => none

/-- A path; nothing is no path. -/
def path? (value : List Char) : Option String :=
  if value.isEmpty then none else some (String.ofList value)

/-- Takes the value of an option. -/
def take? (arguments : Arguments) (setting : Setting) (value : List Char) : Option Arguments :=
  match setting with
  | .aliasName => do
    let aliasName ← once (String.ofList value) arguments.aliasName
    return { arguments with aliasName := aliasName }
  | .config => do return { arguments with config := ← once (← path? value) arguments.config }
  | .format => do
    let format ← OutputFormat.ofName? (String.ofList value)
    return { arguments with format := ← once format arguments.format }
  | .output => do return { arguments with output := ← once (← path? value) arguments.output }

/-- Takes the source. -/
def takeSource? (arguments : Arguments) (value : List Char) : Option Arguments := do
  return { arguments with source := ← once (← path? value) arguments.source }

/-- How the reading of the arguments goes on behind an argument. -/
inductive Step where
  /-- With the next argument. -/
  | next (arguments : Arguments)
  /-- With the value of an option in the next argument. -/
  | value (setting : Setting) (arguments : Arguments)
  /-- Not at all. -/
  | done (request : Request)

/-- Takes a flag. -/
def takeFlag (arguments : Arguments) : Flag → Step
  | .noInherited =>
    if arguments.noInherited then .done .misuse
    else .next { arguments with noInherited := true }
  | .verbose =>
    if arguments.verbose then .done .misuse else .next { arguments with verbose := true }
  | .version => .done .version
  | .help => .done .help

/-- Goes on if an argument fits. -/
def nextOrMisuse : Option Arguments → Step
  | some arguments => .next arguments
  | none => .done .misuse

/-- Takes an option with a long name. -/
def takeLong (arguments : Arguments) (text : List Char) : Step :=
  let name := text.takeWhile (· != '=')
  match ofLong? name, text.drop name.length with
  | some (.flag flag), [] => arguments.takeFlag flag
  | some (.setting setting), [] => .value setting arguments
  | some (.setting setting), _ :: value => nextOrMisuse (arguments.take? setting value)
  | _, _ => .done .misuse

/-- The value right behind a short name; an equal sign may stand in front of it. -/
def attached (text : List Char) : List Char :=
  match text with
  | '=' :: value => value
  | value => value

/-- Takes options with short names. -/
def takeShort (arguments : Arguments) : List Char → Step
  | [] => .next arguments
  | name :: rest =>
    match ofShort? name with
    | some (.flag flag) =>
      match arguments.takeFlag flag with
      | .next arguments => takeShort arguments rest
      | other => other
    | some (.setting setting) =>
      if rest.isEmpty then .value setting arguments
      else nextOrMisuse (arguments.take? setting (attached rest))
    | none => .done .misuse

/-- Takes an argument in front of `--`. -/
def takeArgument (arguments : Arguments) : List Char → Step
  | '-' :: '-' :: name => arguments.takeLong name
  | ['-'] => nextOrMisuse (arguments.takeSource? ['-'])
  | '-' :: names => arguments.takeShort names
  | source => nextOrMisuse (arguments.takeSource? source)

/-- The argument looks like an option. -/
def isOption : List Char → Bool
  | ['-'] => false
  | '-' :: _ => true
  | _ => false

/-- The request of complete arguments. -/
def request (arguments : Arguments) : Request :=
  match arguments.source with
  | some source => .map source arguments
  | none => .misuse

/-- Reads the arguments behind `--`. -/
def readSources : Arguments → List String → Request
  | arguments, [] => arguments.request
  | arguments, argument :: rest =>
    match arguments.takeSource? argument.toList with
    | some arguments => readSources arguments rest
    | none => .misuse

/-- Reads the arguments behind those that were read already; an option may be waiting for its
value. -/
def readFrom (waiting : Option Setting) (arguments : Arguments) : List String → Request
  | [] => if waiting.isSome then .misuse else arguments.request
  | argument :: rest =>
    let text := argument.toList
    match waiting with
    | some setting =>
      if isOption text then .misuse
      else
        match arguments.take? setting text with
        | some arguments => readFrom none arguments rest
        | none => .misuse
    | none =>
      if argument == "--" then readSources arguments rest
      else
        match arguments.takeArgument text with
        | .next arguments => readFrom none arguments rest
        | .value setting arguments => readFrom (some setting) arguments rest
        | .done request => request

/-- Reads the arguments of the command. -/
def read (arguments : List String) : Request :=
  readFrom none {} arguments

end Arguments

end InfoModel
