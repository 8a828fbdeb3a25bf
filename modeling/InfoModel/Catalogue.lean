/-
**The catalogue of an information model.**

The catalogue finds the declared datatypes and object types by name and knows their hierarchies. Of
several declarations of one name the first counts, in all packages together.

* `Catalogue.build` makes the catalogue of a model whose hierarchies have no cycle; datatypes are
  checked before object types;
* `Catalogue.lineage` is an object type followed by its declared supertypes, nearest first.
-/

import InfoModel.Declaration.Element
import InfoModel.Hierarchy.Cycle
import InfoModel.Mapping.Recorded

namespace InfoModel

/-- The first item of every name, in order; names in `seen` do not count as new. -/
def firstsFrom {α : Type} (nameOf : α → String) (seen : List String) : List α → List α
  | [] => []
  | item :: rest =>
    if nameOf item ∈ seen then firstsFrom nameOf seen rest
    else item :: firstsFrom nameOf (nameOf item :: seen) rest

/-- The names of the items that are not the first of their name, in order. -/
def repeatsFrom {α : Type} (nameOf : α → String) (seen : List String) : List α → List String
  | [] => []
  | item :: rest =>
    if nameOf item ∈ seen then nameOf item :: repeatsFrom nameOf seen rest
    else repeatsFrom nameOf (nameOf item :: seen) rest

/-- The declarations that count, by name, with their hierarchies. -/
structure Catalogue where
  /-- The first declaration of every datatype. -/
  datatypes : List Datatype
  /-- The first declaration of every object type. -/
  objectTypes : List ObjectTypeDeclaration
  datatypeHierarchy : Hierarchy
  objectTypeHierarchy : Hierarchy

namespace Catalogue

/-- The hierarchy of declarations, or the fault of a cycle. -/
def hierarchyOf (declarations : List (String × List String)) : Except MappingFault Hierarchy :=
  match Hierarchy.build declarations with
  | .ok hierarchy => .ok hierarchy
  | .error culprit => .error (.supertypeCycle culprit)

/-- The datatypes that count. -/
def datatypesOf (model : InformationModel) : List Datatype :=
  firstsFrom Datatype.name [] model.datatypes

/-- The object types that count. -/
def objectTypesOf (model : InformationModel) : List ObjectTypeDeclaration :=
  firstsFrom ObjectTypeDeclaration.name [] model.objectTypes

/-- The declarations of names that were declared before. -/
def repeatEvents (model : InformationModel) : List Event :=
  (repeatsFrom Datatype.name [] model.datatypes).map .datatypeRepeated ++
    (repeatsFrom ObjectTypeDeclaration.name [] model.objectTypes).map .objectTypeRepeated

/-- The catalogue of a model. -/
def build (model : InformationModel) : Recorded Catalogue := do
  let datatypes := datatypesOf model
  let objectTypes := objectTypesOf model
  Recorded.reportAll (repeatEvents model)
  let datatypeHierarchy ← Recorded.ofExcept
    (hierarchyOf (datatypes.map fun datatype => (datatype.name, datatype.supertypes)))
  let objectTypeHierarchy ← Recorded.ofExcept
    (hierarchyOf (objectTypes.map fun objectType => (objectType.name, objectType.supertypes)))
  Recorded.report (.indexed datatypes.length objectTypes.length model.name)
  return ⟨datatypes, objectTypes, datatypeHierarchy, objectTypeHierarchy⟩

/-- The datatype of a name, if it is declared. -/
def datatype? (catalogue : Catalogue) (name : String) : Option Datatype :=
  catalogue.datatypes.find? fun datatype => datatype.name == name

/-- The object type of a name, if it is declared. -/
def objectType? (catalogue : Catalogue) (name : String) : Option ObjectTypeDeclaration :=
  catalogue.objectTypes.find? fun objectType => objectType.name == name

/-- The names above an object type as far as its members are taken over, nearest first. -/
def inheritedNames (catalogue : Catalogue) (objectType : ObjectTypeDeclaration)
    (includeInherited : Bool) : List String :=
  if includeInherited then catalogue.objectTypeHierarchy.ancestors objectType.name else []

/-- An object type and, with inherited members, its declared supertypes, nearest first. -/
def lineage (catalogue : Catalogue) (objectType : ObjectTypeDeclaration)
    (includeInherited : Bool) : List ObjectTypeDeclaration :=
  objectType :: (catalogue.inheritedNames objectType includeInherited).filterMap
    catalogue.objectType?

/-- The supertypes of an object type that are not declared, as far as its members are taken over. -/
def undeclaredSupertypes (catalogue : Catalogue) (objectType : ObjectTypeDeclaration)
    (includeInherited : Bool) : List String :=
  (catalogue.inheritedNames objectType includeInherited).filter fun name =>
    (catalogue.objectType? name).isNone

end Catalogue

end InfoModel
