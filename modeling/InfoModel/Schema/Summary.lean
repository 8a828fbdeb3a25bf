/-
**Model summaries.**

A flat model for a reader: a line for the model, the number of its object types, and a block per
object type with a line per property. Identifying properties are marked at the end of their line.
-/

import InfoModel.Schema.Model

namespace InfoModel

/-- The mark of identifying properties. -/
def identifierMark (identifier : Bool) : String :=
  if identifier then " [id]" else ""

/-- The line of an attribute. -/
def Attribute.summary (value : Attribute) : String :=
  "  " ++ value.name ++ ": " ++ value.valueType.text ++ " (" ++ value.cardinality.text ++ ")" ++
    identifierMark value.identifier ++ "\n"

/-- The line of a relation. -/
def Relation.summary (relation : Relation) : String :=
  "  " ++ relation.name ++ " -> " ++ relation.target ++ " (" ++ relation.cardinality.text ++ ")" ++
    (match relation.inverseName with
      | some name => " <- " ++ name
      | none => "") ++
    identifierMark relation.identifier ++ "\n"

/-- The line of a property. -/
def Property.summary : Property → String
  | .ofAttribute value => value.summary
  | .ofRelation value => value.summary

/-- The block of an object type. -/
def ObjectType.summary (objectType : ObjectType) : String :=
  "\n" ++ objectType.name ++
    (if objectType.supertypes.isEmpty then ""
      else " : " ++ String.intercalate ", " objectType.supertypes) ++
    "\n" ++ String.join (objectType.properties.values.map Property.summary)

/-- The summary of a model. -/
def Model.summary (model : Model) : String :=
  (match model.aliasName with
    | some aliasName => "Model '" ++ aliasName ++ "'\n"
    | none => "Model\n") ++
    "Object types: " ++ toString model.size ++ "\n" ++
    String.join (model.objectTypes.values.map ObjectType.summary)

end InfoModel
