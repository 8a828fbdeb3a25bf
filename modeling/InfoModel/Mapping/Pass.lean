/-
**One pass over an information model.**

The pass makes a flat object type of every concrete object type, datagroup type and structured
datatype.

* `Pass.members` maps the members that one element declares, whose names have to be distinct: first
  attributes, then relations, then references to datagroup types. A relation that leads to no object
  type is left out;
* `Pass.inherit` takes over the members of one type of a lineage. A name that is there already stays
  as it is when its declarer is a subtype of this type; two unrelated declarers are a fault;
* `Pass.objectType` flattens the lineage of an object type;
* `Mapper.map` runs the pass over a model and builds the flat model.
-/

import InfoModel.Mapping.Resolver
import InfoModel.Schema.Model
import InfoModel.Schema.Registry

namespace InfoModel

/-- What a mapping works with besides the model. -/
structure Mapper where
  registry : Registry := Registry.standard
  settings : Settings := {}

/-- A pass over the model of a catalogue. -/
structure Pass where
  catalogue : Catalogue
  mapper : Mapper

/-- A property together with the name of the type that declares it. -/
structure Declared where
  declarer : String
  property : Property

namespace Pass

/-- The resolver of the pass. -/
def resolver (pass : Pass) : Resolver :=
  ⟨pass.catalogue, pass.mapper.settings⟩

/-- The options for the value type of a name: geometries are given their spatial reference. -/
def options (pass : Pass) (name : String) : TypeOptions :=
  if name = ScalarKind.geometry.name then
    NameMap.empty.insert sridOption (Json.ofWord pass.mapper.settings.defaultSrid)
  else NameMap.empty

/-- Creates the value type of a name. -/
def valueType (pass : Pass) (name : String) : Except MappingFault ValueType :=
  pass.mapper.registry.create name (pass.options name)

/-- Maps an attribute or data element of an element. -/
def member (pass : Pass) (owner : String) (declared : AttributeDeclaration) :
    Recorded Property := do
  let cardinality := Cardinality.ofOccurrence? declared.occurrence .optional
  match ← pass.resolver.member owner declared with
  | .scalar name =>
    let valueType ← Recorded.ofExcept (pass.valueType name)
    return .ofAttribute ⟨declared.name, declared.identifier, valueType, cardinality⟩
  | .relation target =>
    return .ofRelation
      { name := declared.name, identifier := declared.identifier, target, cardinality }

/-- A relation to an object type. -/
def relationTo (relation : RelationDeclaration) (target : String) : Relation where
  name := relation.name
  identifier := relation.identifier
  target := target
  cardinality := Cardinality.ofOccurrence? relation.occurrence .optional
  inverseName := relation.inverseName
  inverseCardinality := some (Cardinality.ofOccurrence? relation.inverseOccurrence .multi)

/-- The object type that a relation leads to, if it leads to one. -/
def target? (pass : Pass) (relation : RelationDeclaration) : Option String :=
  match relation.target with
  | none => none
  | some target => if (pass.catalogue.objectType? target).isSome then some target else none

/-- The report on a relation that leads to no object type. -/
def dropEvent (owner : String) (relation : RelationDeclaration) : Event :=
  match relation.target with
  | none => .relationWithoutTarget relation.name owner
  | some target => .relationToUnknown relation.name owner target

/-- Maps a relation of an element, unless it leads to no object type. -/
def relation (pass : Pass) (owner : String) (relation : RelationDeclaration) :
    Recorded (Option Property) :=
  match pass.target? relation with
  | some target => .done (some (.ofRelation (relationTo relation target)))
  | none => do
    Recorded.report (dropEvent owner relation)
    return none

/-- Maps a reference to a datagroup type. -/
def datagroup (reference : DatagroupReference) : Property :=
  .ofRelation
    { name := reference.name
      target := reference.datagroupType
      cardinality := Cardinality.ofOccurrence? reference.occurrence .optional }

/-- The first name of a list that stood there before. -/
def firstRepeat? (seen : List String) : List String → Option String
  | [] => none
  | name :: rest => if name ∈ seen then some name else firstRepeat? (name :: seen) rest

/-- Maps the members of an element. -/
def members (pass : Pass) (owner : String) (members : Members) : Recorded (List Property) := do
  let attributes ← members.attributes.mapM (pass.member owner)
  let relations ← members.relations.mapM (pass.relation owner)
  let properties :=
    attributes ++ relations.filterMap id ++ members.datagroups.map datagroup
  match firstRepeat? [] (properties.map Property.name) with
  | some name => Recorded.fail (.duplicateProperty owner name)
  | none => return properties

/-- The type that declares the property kept under a name. -/
def keeper? (kept : List Declared) (name : String) : Option String :=
  (kept.find? fun declared => declared.property.name == name).map Declared.declarer

/-- Takes over the properties that one type of a lineage declares. -/
def inherit (pass : Pass) (objectType declarer : String) :
    List Declared → List Property → Recorded (List Declared)
  | kept, [] => .done kept
  | kept, property :: rest =>
    match keeper? kept property.name with
    | none => pass.inherit objectType declarer (kept ++ [⟨declarer, property⟩]) rest
    | some keeper =>
      if pass.catalogue.objectTypeHierarchy.isSubtype keeper declarer then do
        Recorded.report (.shadowed property.name declarer keeper objectType)
        pass.inherit objectType declarer kept rest
      else .fail (.duplicateProperty objectType property.name)

/-- Takes over the members of the types of a lineage, one type after the other. -/
def flatten (pass : Pass) (objectType : String) :
    List Declared → List ObjectTypeDeclaration → Recorded (List Declared)
  | kept, [] => .done kept
  | kept, declarer :: rest => do
    let properties ← pass.members declarer.name declarer.members
    let kept ← pass.inherit objectType declarer.name kept properties
    pass.flatten objectType kept rest

/-- Maps an object type with everything it takes over. -/
def objectType (pass : Pass) (declared : ObjectTypeDeclaration) : Recorded ObjectType := do
  let includeInherited := pass.mapper.settings.includeInherited
  Recorded.report (.objectTypeStarted declared.name)
  Recorded.reportAll ((pass.catalogue.undeclaredSupertypes declared includeInherited).map
    fun supertype => .supertypeUndeclared supertype declared.name)
  let kept ← pass.flatten declared.name [] (pass.catalogue.lineage declared includeInherited)
  Recorded.ofExcept
    (ObjectType.Draft.build ⟨declared.name, declared.supertypes, kept.map Declared.property⟩)

/-- Maps a datagroup type. -/
def datagroupType (pass : Pass) (declared : DatagroupTypeDeclaration) : Recorded ObjectType := do
  Recorded.report (.datagroupTypeStarted declared.name)
  let properties ← pass.members declared.name declared.members
  Recorded.ofExcept (ObjectType.Draft.build ⟨declared.name, [], properties⟩)

/-- Maps a structured datatype of a name. -/
def structured (pass : Pass) (name : String) (elements : List DataElement) :
    Recorded ObjectType := do
  Recorded.report (.structuredStarted name)
  let properties ← elements.mapM fun element => pass.member name element.toAttribute
  Recorded.ofExcept (ObjectType.Draft.build ⟨name, [], properties⟩)

/-- Maps an object type unless it is abstract. -/
def concrete (pass : Pass) (declared : ObjectTypeDeclaration) : Recorded (Option ObjectType) :=
  if declared.isAbstract then do
    Recorded.report (.abstractSkipped declared.name)
    return none
  else do
    let objectType ← pass.objectType declared
    return some objectType

/-- Maps a datatype if it is structured. -/
def datatype (pass : Pass) (declared : Datatype) : Recorded (Option ObjectType) :=
  match declared.dataElements? with
  | none => .done none
  | some elements => do
    let objectType ← pass.structured declared.name elements
    return some objectType

/-- Maps the declarations of a package. -/
def package (pass : Pass) (package : Package) : Recorded (List ObjectType) := do
  Recorded.report (.packageStarted package.name)
  let objectTypes ← package.objectTypes.mapM pass.concrete
  let datagroupTypes ← package.datagroupTypes.mapM pass.datagroupType
  let datatypes ← package.datatypes.mapM pass.datatype
  return objectTypes.filterMap id ++ datagroupTypes ++ datatypes.filterMap id

end Pass

namespace Mapper

/-- Maps an information model. -/
def map (mapper : Mapper) (model : InformationModel) (aliasName : Option String) :
    Recorded Model := do
  let catalogue ← Catalogue.build model
  let pass : Pass := ⟨catalogue, mapper⟩
  let packages ← model.packages.mapM pass.package
  let mapped ← Recorded.ofExcept (Model.Draft.build ⟨aliasName, packages.flatten⟩)
  Recorded.report (.modelMapped model.name mapped.size)
  return mapped

end Mapper

end InfoModel
