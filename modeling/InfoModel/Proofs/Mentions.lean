/-
**The names that a model mentions.**

Elements refer to each other by name. These are the places where they do:

* an attribute or data element mentions its datatype and the datatypes to choose from, a relation
  its target (`Members.mentions`);
* object types and datatypes mention their supertypes besides (`InformationModel.mentions`).

`InformationModel.Unaware` says that a model neither declares nor mentions the types of a package.
-/

import InfoModel.Declaration.Element
import Mathlib.Data.List.Basic

namespace InfoModel

/-- The names that an attribute mentions: its datatype and the datatypes to choose from. -/
def AttributeDeclaration.mentions (declared : AttributeDeclaration) : List String :=
  declared.datatype.toList ++ declared.choice.getD []

/-- The name that a relation mentions: its target. -/
def RelationDeclaration.mentions (declared : RelationDeclaration) : List String :=
  declared.target.toList

/-- The names that the members of an element mention. -/
def Members.mentions (members : Members) : List String :=
  members.attributes.flatMap AttributeDeclaration.mentions ++
    members.relations.flatMap RelationDeclaration.mentions

/-- The names that an object type mentions. -/
def ObjectTypeDeclaration.mentions (declared : ObjectTypeDeclaration) : List String :=
  declared.supertypes ++ declared.members.mentions

/-- The names that a datatype mentions. -/
def Datatype.mentions (declared : Datatype) : List String :=
  declared.supertypes ++
    (declared.dataElements?.getD []).flatMap fun element => element.datatype.toList

namespace InformationModel

/-- The names that a model mentions. -/
def mentions (model : InformationModel) : List String :=
  model.objectTypes.flatMap ObjectTypeDeclaration.mentions ++
    model.datagroupTypes.flatMap (fun declared => declared.members.mentions) ++
    model.datatypes.flatMap Datatype.mentions

/-- The names of the object types and datatypes of a model. -/
def typeNames (model : InformationModel) : List String :=
  model.objectTypes.map ObjectTypeDeclaration.name ++ model.datatypes.map Datatype.name

end InformationModel

/-- The names of the object types and datatypes of a package. -/
def Package.typeNames (package : Package) : List String :=
  package.objectTypes.map ObjectTypeDeclaration.name ++ package.datatypes.map Datatype.name

namespace InformationModel

/-- **A model that is not aware of a package** neither declares nor mentions any of its object types
and datatypes. -/
def Unaware (model : InformationModel) (package : Package) : Prop :=
  ∀ name ∈ package.typeNames, name ∉ model.typeNames ∧ name ∉ model.mentions

instance (model : InformationModel) (package : Package) : Decidable (model.Unaware package) :=
  inferInstanceAs (Decidable (∀ name ∈ package.typeNames, _))

end InformationModel

end InfoModel
