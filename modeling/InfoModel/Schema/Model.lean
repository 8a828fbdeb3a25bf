/-
**Flat models.**

A model holds its object types by name and may have an alias.

* `Model.Draft` collects object types;
* `Model.Draft.build` makes the model, or reports the first object type whose name was there before.
-/

import InfoModel.Schema.ObjectType

namespace InfoModel

/-- A flat model. -/
structure Model where
  /-- The name that the model goes by, if it has one. -/
  aliasName : Option String
  /-- The object types by name. -/
  objectTypes : NameMap ObjectType

namespace Model

/-- The object type of a name. -/
def objectType? (model : Model) (name : String) : Option ObjectType :=
  model.objectTypes.get? name

/-- The model has an object type of this name. -/
def contains (model : Model) (name : String) : Bool :=
  model.objectTypes.contains name

/-- The number of object types. -/
def size (model : Model) : Nat :=
  model.objectTypes.size

/-- The model has no object types. -/
def isEmpty (model : Model) : Bool :=
  model.objectTypes.isEmpty

/-- A model while its object types are collected. -/
structure Draft where
  aliasName : Option String := none
  objectTypes : List ObjectType := []

namespace Draft

/-- Sets the alias, over an earlier one. -/
def setAlias (draft : Draft) (aliasName : String) : Draft :=
  { draft with aliasName := some aliasName }

/-- Adds an object type. -/
def add (draft : Draft) (objectType : ObjectType) : Draft :=
  { draft with objectTypes := draft.objectTypes ++ [objectType] }

/-- The model of a draft whose object types have distinct names. -/
def build (draft : Draft) : Except MappingFault Model :=
  match NameMap.ofDistinct ObjectType.name draft.objectTypes with
  | .ok objectTypes => .ok ⟨draft.aliasName, objectTypes⟩
  | .error name => .error (.duplicateObjectType name)

end Draft

end Model

end InfoModel
