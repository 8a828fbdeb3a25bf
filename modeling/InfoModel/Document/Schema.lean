/-
**Stored models.**

How a flat model is stored: its object types and properties by name, each in the order of the names.
An alias, a list of supertypes and inverse members are left out when they are absent or empty.

* `Property.toJson` and `Property.decode` are the two directions for a property;
* `Model.toJson` writes a model.
-/

import InfoModel.Document.OfJson
import InfoModel.Document.Declarations
import InfoModel.Schema.Model

namespace InfoModel

/-! ### Writing -/

/-- Writes a cardinality. -/
def Cardinality.toJson (cardinality : Cardinality) : Json :=
  .string cardinality.name

/-- Writes a value type, with its kind as tag. -/
def ValueType.toJson : ValueType → Json
  | .string => .object [("type", .string "string")]
  | .integer => .object [("type", .string "integer")]
  | .float => .object [("type", .string "float")]
  | .double => .object [("type", .string "double")]
  | .boolean => .object [("type", .string "boolean")]
  | .geometry srid => .object [("type", .string "geometry"), ("srid", Json.ofWord srid)]
  | .custom name options =>
    .object
      [("type", .string "custom"), ("name", .string name), ("options", .object options.entries)]

/-- Writes the members of an attribute. -/
def Attribute.toMembers (value : Attribute) : List (String × Json) :=
  [("name", .string value.name), ("identifier", .bool value.identifier),
    ("type", value.valueType.toJson), ("cardinality", value.cardinality.toJson)]

/-- Writes an attribute. -/
def Attribute.toJson (value : Attribute) : Json :=
  .object value.toMembers

/-- Writes the members of a relation. -/
def Relation.toMembers (relation : Relation) : List (String × Json) :=
  [("name", .string relation.name), ("identifier", .bool relation.identifier),
    ("target", .string relation.target), ("cardinality", relation.cardinality.toJson)] ++
    Json.optionalMember "inverseName" .string relation.inverseName ++
    Json.optionalMember "inverseCardinality" Cardinality.toJson relation.inverseCardinality

/-- Writes a relation. -/
def Relation.toJson (relation : Relation) : Json :=
  .object relation.toMembers

/-- Writes a property, with its kind as tag. -/
def Property.toJson : Property → Json
  | .ofAttribute value => .object (("kind", .string "attribute") :: value.toMembers)
  | .ofRelation value => .object (("kind", .string "relation") :: value.toMembers)

/-- Writes a table by the order of its names. -/
def NameMap.toJson {α : Type} (encode : α → Json) (table : NameMap α) : Json :=
  .object (table.entries.map fun (name, value) => (name, encode value))

/-- Writes an object type. -/
def ObjectType.toJson (objectType : ObjectType) : Json :=
  .object <|
    [("name", .string objectType.name)] ++
      (if objectType.supertypes.isEmpty then []
        else [("supertypes", Json.ofTexts objectType.supertypes)]) ++
      [("properties", objectType.properties.toJson Property.toJson)]

/-- Writes a model. -/
def Model.toJson (model : Model) : Json :=
  .object <|
    Json.optionalMember "alias" .string model.aliasName ++
      [("objectTypes", model.objectTypes.toJson ObjectType.toJson)]

/-! ### Reading -/

/-- The options of a custom value type. -/
def TypeOptions.ofContent : Json → Except DecodeFault TypeOptions
  | .object members => .ok (NameMap.ofList (Json.normalMembers members))
  | _ => .error .malformed

/-- The fields of a value type with a tag, if there is such a tag. -/
def ValueType.fieldsOfTag : String → Option (Fields Json ValueType)
  | "string" => some (pure .string)
  | "integer" => some (pure .integer)
  | "float" => some (pure .float)
  | "double" => some (pure .double)
  | "boolean" => some (pure .boolean)
  | "geometry" => some (.geometry <$> Fields.required "srid" Document.word)
  | "custom" => some <|
    .custom <$> Fields.required "name" Document.text
      <*> Fields.required "options" TypeOptions.ofContent
  | _ => none

section Decoding

variable {node : Type} [Document node]

/-- The tags of value types. -/
def ValueType.tags : List String :=
  ["string", "integer", "float", "double", "boolean", "geometry", "custom"]

/-- Reads a value type. -/
def ValueType.decode (value : node) : Except DecodeFault ValueType := do
  let (tag, layout) ← Document.tagged ValueType.tags "type" value
  match ValueType.fieldsOfTag tag with
  | some fields => fields.ofLayout layout
  | none => throw .malformed

/-- Reads a cardinality. -/
def Cardinality.decode (value : node) : Except DecodeFault Cardinality :=
  Document.pick Cardinality.ofName? value

/-- The fields of an attribute. -/
def Attribute.fields : Fields node Attribute :=
  Attribute.mk <$> Fields.required "name" Document.text
    <*> Fields.defaulted "identifier" Document.flag false
    <*> Fields.required "type" ValueType.decode
    <*> Fields.required "cardinality" Cardinality.decode

/-- The fields of a relation. -/
def Relation.fields : Fields node Relation :=
  Relation.mk <$> Fields.required "name" Document.text
    <*> Fields.defaulted "identifier" Document.flag false
    <*> Fields.required "target" Document.text
    <*> Fields.required "cardinality" Cardinality.decode
    <*> Fields.optional "inverseName" Document.text
    <*> Fields.optional "inverseCardinality" Cardinality.decode

/-- The kinds of properties. -/
def Property.kinds : List String := ["attribute", "relation"]

/-- Reads a property, with its kind as tag. Its members are only looked at when the kind is known.
-/
def Property.decode (value : node) : Except DecodeFault Property := do
  let (kind, layout) ← Document.tagged Property.kinds "kind" value
  let held := Json.Held.ofLayout layout
  match kind with
  | "attribute" => return .ofAttribute (← Attribute.fields.ofLayout held)
  | "relation" => return .ofRelation (← Relation.fields.ofLayout held)
  | _ => throw .malformed

end Decoding

end InfoModel
