/-
**Flat object types.**

An object type lists the names of its direct supertypes and holds its properties by name.

* `ObjectType.Draft` collects properties one by one or in lists;
* `ObjectType.Draft.build` makes the object type, or reports the first property whose name was there
  before.
-/

import InfoModel.MappingFault
import InfoModel.Schema.Property

namespace InfoModel

/-- An object type of the flat model. -/
structure ObjectType where
  name : String
  /-- The names of the direct supertypes, as declared. -/
  supertypes : List String
  /-- The properties by name. -/
  properties : NameMap Property

namespace ObjectType

/-- The property of a name. -/
def property? (objectType : ObjectType) (name : String) : Option Property :=
  objectType.properties.get? name

/-- The attribute of a name. -/
def attribute? (objectType : ObjectType) (name : String) : Option Attribute :=
  (objectType.property? name).bind Property.attribute?

/-- The relation of a name. -/
def relation? (objectType : ObjectType) (name : String) : Option Relation :=
  (objectType.property? name).bind Property.relation?

/-- The attributes, in the order of their names. -/
def attributes (objectType : ObjectType) : List Attribute :=
  objectType.properties.values.filterMap Property.attribute?

/-- The relations, in the order of their names. -/
def relations (objectType : ObjectType) : List Relation :=
  objectType.properties.values.filterMap Property.relation?

/-- The properties that make up the key, in the order of their names. -/
def identifiers (objectType : ObjectType) : List Property :=
  objectType.properties.values.filter Property.isIdentifier

/-- An object type while its properties are collected. -/
structure Draft where
  name : String
  supertypes : List String := []
  properties : List Property := []

namespace Draft

/-- Adds a direct supertype. -/
def addSupertype (draft : Draft) (supertype : String) : Draft :=
  { draft with supertypes := draft.supertypes ++ [supertype] }

/-- Adds a property. -/
def addProperty (draft : Draft) (property : Property) : Draft :=
  { draft with properties := draft.properties ++ [property] }

/-- Adds properties in their order. -/
def addProperties (draft : Draft) (properties : List Property) : Draft :=
  { draft with properties := draft.properties ++ properties }

/-- The object type of a draft whose properties have distinct names. -/
def build (draft : Draft) : Except MappingFault ObjectType :=
  match NameMap.ofDistinct Property.name draft.properties with
  | .ok properties => .ok ⟨draft.name, draft.supertypes, properties⟩
  | .error name => .error (.duplicateProperty draft.name name)

end Draft

end ObjectType

end InfoModel
