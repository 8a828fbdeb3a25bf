/-
**Stored settings.**

How the settings of a mapping are stored. Every member may be left out and keeps its usual value
then; a table of scalar kinds replaces the usual table as a whole.

* `Settings.toJson` and `Settings.decode` are the two directions.
-/

import InfoModel.Document.OfJson
import InfoModel.Document.Schema
import InfoModel.Settings

namespace InfoModel

/-- Writes settings. -/
def Settings.toJson (settings : Settings) : Json :=
  .object
    [("geometryPrefix", .string settings.geometryPrefix),
      ("stringSupertype", .string settings.stringSupertype),
      ("defaultSrid", Json.ofWord settings.defaultSrid),
      ("scalarMappings", settings.scalarMappings.toJson fun kind => .string kind.name),
      ("unmappedTypes", .string settings.unmappedTypes.name),
      ("includeInherited", .bool settings.includeInherited)]

section Decoding

variable {node : Type} [Document node]

/-- Reads an entry of the table of scalar kinds. -/
def Settings.decodeScalarMapping (entry : String × node) :
    Except DecodeFault (String × ScalarKind) :=
  (Document.pick ScalarKind.ofName? entry.2).map (entry.1, ·)

/-- Reads the table of scalar kinds. -/
def Settings.decodeScalarMappings (value : node) : Except DecodeFault (NameMap ScalarKind) := do
  return NameMap.ofList (← (← Document.entries value).mapM Settings.decodeScalarMapping)

/-- The fields of settings. -/
def Settings.fields : Fields node Settings :=
  let usual : Settings := {}
  Settings.mk <$> Fields.defaulted "geometryPrefix" Document.text usual.geometryPrefix
    <*> Fields.defaulted "stringSupertype" Document.text usual.stringSupertype
    <*> Fields.defaulted "defaultSrid" Document.word usual.defaultSrid
    <*> Fields.defaulted "scalarMappings" Settings.decodeScalarMappings usual.scalarMappings
    <*> Fields.defaulted "unmappedTypes" (Document.pick UnmappedTypes.ofName?) usual.unmappedTypes
    <*> Fields.defaulted "includeInherited" Document.flag usual.includeInherited

/-- Reads settings. -/
def Settings.decode (value : node) : Except DecodeFault Settings :=
  Settings.fields.decode value

end Decoding

/-- Reads settings from a JSON text. -/
def Settings.ofJsonText (text : String) : Except DecodeFault Settings :=
  Json.decodeText Settings.decode Settings.decode text

end InfoModel
