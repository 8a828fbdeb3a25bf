/-
**Elements of an information model.**

An information model is a list of packages. A package declares object types, datagroup types and
datatypes. Object types and datagroup types declare members: attributes, relations and references to
datagroup types. Elements refer to each other by name only.
-/

import InfoModel.Declaration.Datatype

namespace InfoModel

/-- An attribute as declared: with one datatype, or a choice of several. -/
structure AttributeDeclaration where
  name : String
  /-- The attribute is part of the key. -/
  identifier : Bool := false
  occurrence : Option Occurrence := none
  /-- The name of the datatype of its values. -/
  datatype : Option String := none
  /-- The names of the datatypes to choose from. -/
  choice : Option (List String) := none
deriving DecidableEq

/-- A relation as declared. -/
structure RelationDeclaration where
  name : String
  /-- The relation is part of the key. -/
  identifier : Bool := false
  occurrence : Option Occurrence := none
  /-- The name of the object type referred to. -/
  target : Option String := none
  /-- The name of the relation as seen from its target. -/
  inverseName : Option String := none
  /-- The occurrence of the relation as seen from its target. -/
  inverseOccurrence : Option Occurrence := none
deriving DecidableEq

/-- A reference to a datagroup type. -/
structure DatagroupReference where
  name : String
  occurrence : Option Occurrence := none
  /-- The name of the datagroup type. -/
  datagroupType : String
deriving DecidableEq

/-- The members that an element declares. -/
structure Members where
  attributes : List AttributeDeclaration := []
  relations : List RelationDeclaration := []
  datagroups : List DatagroupReference := []
deriving DecidableEq, Inhabited

/-- An object type as declared. -/
structure ObjectTypeDeclaration where
  name : String
  /-- The object type has no objects but those of its subtypes. -/
  isAbstract : Bool := false
  /-- The names of the direct supertypes. -/
  supertypes : List String := []
  members : Members := {}
deriving DecidableEq

/-- A datagroup type as declared. -/
structure DatagroupTypeDeclaration where
  name : String
  members : Members := {}
deriving DecidableEq

/-- A package of declarations. -/
structure Package where
  name : String
  objectTypes : List ObjectTypeDeclaration := []
  datagroupTypes : List DatagroupTypeDeclaration := []
  datatypes : List Datatype := []
deriving DecidableEq

/-- An information model. -/
structure InformationModel where
  name : String
  packages : List Package := []
deriving DecidableEq

/-- A data element read as an attribute: one without a choice. -/
def DataElement.toAttribute (element : DataElement) : AttributeDeclaration where
  name := element.name
  identifier := element.identifier
  occurrence := element.occurrence
  datatype := element.datatype
  choice := none

namespace InformationModel

/-- The object types of all packages. -/
def objectTypes (model : InformationModel) : List ObjectTypeDeclaration :=
  model.packages.flatMap Package.objectTypes

/-- The datagroup types of all packages. -/
def datagroupTypes (model : InformationModel) : List DatagroupTypeDeclaration :=
  model.packages.flatMap Package.datagroupTypes

/-- The datatypes of all packages. -/
def datatypes (model : InformationModel) : List Datatype :=
  model.packages.flatMap Package.datatypes

end InformationModel

end InfoModel
