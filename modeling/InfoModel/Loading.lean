/-
**Loading models.**

To load a model is to read an information model from a text or a file and to map it.

* `InformationModel.parse` reads a text in a format;
* `Mapper.loadText` and `Mapper.load` go on to the flat model, which is given an alias.
  `Mapper.load` reads from a set of files, `Mapper.loadFrom` from anything that holds files;
* `LoadFault.message` is the report on what stopped that.
-/

import InfoModel.Document.OfYaml
import InfoModel.Files.FileSet
import InfoModel.Mapping.Pass
import InfoModel.SourceFormat

namespace InfoModel

/-- Why a model cannot be loaded. -/
inductive LoadFault where
  /-- The file cannot be read. -/
  | unreadable (path : String) (fault : FileFault)
  /-- The text holds no information model. -/
  | unparsed (format : SourceFormat) (fault : DecodeFault)
  /-- No format goes by this name. -/
  | unsupportedFormat (written : String)
  /-- The information model cannot be mapped. -/
  | unmapped (fault : MappingFault)

namespace LoadFault

/-- The report on a fault. -/
def message : LoadFault → String
  | .unreadable path fault => "Failed to read " ++ path ++ ": " ++ fault.message
  | .unparsed format fault =>
    "Failed to parse " ++ format.name ++ " source model" ++
      (if fault.message.isEmpty then "" else ": " ++ fault.message)
  | .unsupportedFormat written => "Unsupported source format: " ++ written
  | .unmapped fault => fault.message

/-- The reports on a fault and on what lies behind it. -/
def chain (fault : LoadFault) : List String :=
  fault.message :: match fault with
    | .unreadable _ cause => [cause.message]
    | _ => []

end LoadFault

/-- Reads an information model from a text. -/
def InformationModel.parse (format : SourceFormat) (text : String) :
    Except LoadFault InformationModel :=
  let outcome := match format with
    | .json => InformationModel.ofJsonText text
    | .yaml => InformationModel.ofYamlText text
  match outcome with
  | .ok model => .ok model
  | .error fault => .error (.unparsed format fault)

/-- The name of this way to load models. -/
def loadProfile : String := "mim"

namespace Mapper

/-- Loads a model from a text. -/
def loadText (mapper : Mapper) (aliasName : String) (format : SourceFormat) (text : String) :
    Except LoadFault Model := do
  let model ← InformationModel.parse format text
  match (mapper.map model (some aliasName)).outcome with
  | .ok model => return model
  | .error fault => throw (.unmapped fault)

/-- Loads a model from a file, whose extension gives the format. The file is only read if the format
is known. -/
def loadFrom {m : Type → Type} [Monad m] (read : String → m (Except FileFault String))
    (mapper : Mapper) (aliasName path : String) : m (Except LoadFault Model) :=
  match SourceFormat.ofPath? path with
  | .error written => pure (.error (.unsupportedFormat written))
  | .ok format => do
    match ← read path with
    | .error fault => pure (.error (.unreadable path fault))
    | .ok text => pure (mapper.loadText aliasName format text)

/-- Loads a model from a file of a set. -/
def load (mapper : Mapper) (files : FileSet) (aliasName path : String) : Except LoadFault Model :=
  Id.run (loadFrom (fun path => pure (files.readText path)) mapper aliasName path)

end Mapper

end InfoModel
