/-
**What value types have no part in.**

Registries make the value types of attributes, and the spatial reference is an option that they are
given. Nothing else of a mapped model depends on either.

* `Model.erased` forgets the value types of all attributes;
* `erased_eq_of_member`: mappings with different registries and spatial references make the same of
  an attribute, its value type apart;
* `erased_eq_of_map`: so they make the same of a model, value types apart.
-/

import InfoModel.Proofs.Mapping.Companions

namespace InfoModel

/-- An attribute without its value type: every attribute is a text. -/
def Attribute.erased (value : Attribute) : Attribute :=
  { value with valueType := .string }

/-- A property without value type. -/
def Property.erased : Property → Property
  | .ofAttribute value => .ofAttribute value.erased
  | .ofRelation value => .ofRelation value

/-- An object type without the value types of its attributes. -/
def ObjectType.erased (objectType : ObjectType) : ObjectType :=
  { objectType with properties := objectType.properties.map Property.erased }

/-- A model without value types. -/
def Model.erased (model : Model) : Model :=
  { model with objectTypes := model.objectTypes.map ObjectType.erased }

@[simp] theorem ObjectType.erased_property? (objectType : ObjectType) (name : String) :
    objectType.erased.property? name = (objectType.property? name).map Property.erased :=
  NameMap.get?_map Property.erased objectType.properties name

@[simp] theorem Model.erased_objectType? (model : Model) (name : String) :
    model.erased.objectType? name = (model.objectType? name).map ObjectType.erased :=
  NameMap.get?_map ObjectType.erased model.objectTypes name

/-- Object types that correspond up to value types are the same without them. -/
theorem ObjectType.Corresponds.erased_eq {first second : ObjectType}
    (alike : first.Corresponds (fun property other => property.erased = other.erased) second) :
    first.erased = second.erased := by
  apply ObjectType.ext_property?
  · exact alike.name
  · exact alike.supertypes
  · intro name
    rw [erased_property?, erased_property?]
    exact map_eq_of_optionRel Property.erased (alike.properties name) fun _ _ same => same

namespace Mapper

variable (registry other : Registry) (settings : Settings) (srid otherSrid : UInt32)
  {model : InformationModel} {aliasName : Option String}

/-- **An attribute depends on the registry and on the spatial reference in its value type alone.** -/
theorem erased_eq_of_member {owner : String} {declared : AttributeDeclaration}
    {property counterpart : Property}
    (mapped : (((Mapper.mk registry { settings with defaultSrid := srid }).passOver model).member
      owner declared).outcome = .ok property)
    (otherMapped : (((Mapper.mk other { settings with defaultSrid := otherSrid }).passOver
      model).member owner declared).outcome = .ok counterpart) :
    property.erased = counterpart.erased := by
  unfold Pass.member at mapped otherMapped
  obtain ⟨type, resolved, made⟩ := Recorded.outcome_bind_eq_ok_iff.mp mapped
  obtain ⟨same, otherResolved, otherMade⟩ := Recorded.outcome_bind_eq_ok_iff.mp otherMapped
  -- the type is resolved before the registry and the spatial reference are asked for anything
  obtain rfl : type = same := Except.ok.inj (resolved.symm.trans otherResolved)
  cases type with
  | relation target =>
      rw [← Recorded.outcome_pure_eq_ok_iff.mp made, ← Recorded.outcome_pure_eq_ok_iff.mp otherMade]
  | scalar name =>
      obtain ⟨valueType, -, built⟩ := Recorded.outcome_bind_eq_ok_iff.mp made
      obtain ⟨otherType, -, otherBuilt⟩ := Recorded.outcome_bind_eq_ok_iff.mp otherMade
      rw [← Recorded.outcome_pure_eq_ok_iff.mp built, ← Recorded.outcome_pure_eq_ok_iff.mp otherBuilt]
      rfl

/-- Mappings with different registries and spatial references differ in value types alone. -/
theorem companions_erased :
    Companions (fun property counterpart => property.erased = counterpart.erased)
      (Mapper.mk registry { settings with defaultSrid := srid })
      (Mapper.mk other { settings with defaultSrid := otherSrid }) model where
  inherited := rfl
  attributes _ _ _ _ := erased_eq_of_member registry other settings srid otherSrid
  relations _ := rfl

/-- **The registry and the spatial reference determine value types and nothing else.** Whatever two
registries and spatial references a model is mapped with: if both mappings succeed, their results are
the same without value types. -/
theorem erased_eq_of_map {result counterpart : Model}
    (mapped : ((Mapper.mk registry { settings with defaultSrid := srid }).map model
      aliasName).outcome = .ok result)
    (otherMapped : ((Mapper.mk other { settings with defaultSrid := otherSrid }).map model
      aliasName).outcome = .ok counterpart) :
    result.erased = counterpart.erased := by
  have companions : Companions _ _ _ model :=
    companions_erased registry other settings srid otherSrid
  obtain ⟨sameAlias, objectTypes⟩ := companions.corresponds_of_map mapped otherMapped
  apply Model.ext_objectType?
  · exact sameAlias
  · intro name
    rw [Model.erased_objectType?, Model.erased_objectType?]
    exact map_eq_of_optionRel ObjectType.erased (objectTypes name)
      fun _ _ => ObjectType.Corresponds.erased_eq

/-- Wells with a place, a depth and an owner. -/
def wells : InformationModel where
  name := "M"
  packages := [{
    name := "P"
    objectTypes := [
      { name := "Well",
        members := {
          attributes := [
            { name := "place", datatype := some "GM_Point" },
            { name := "depth", datatype := some "Decimal",
              occurrence := some ⟨1, false⟩ }]
          relations := [{ name := "owner", target := some "Person" }] } },
      { name := "Person",
        members := { attributes := [
          { name := "number", identifier := true, datatype := some "Integer" }] } }] }]

/-- A registry with a host type for the numbers of double precision. -/
def surveyRegistry : Registry := Registry.standard.register (.host "Double")

theorem erased_eq_of_map_wells : ∃ result counterpart well otherWell depth otherDepth,
    ((Mapper.mk .standard { ({} : Settings) with defaultSrid := 28992 }).map wells
      none).outcome = .ok result ∧
    ((Mapper.mk surveyRegistry { ({} : Settings) with defaultSrid := 4326 }).map wells
      none).outcome = .ok counterpart ∧
    result.erased = counterpart.erased ∧
    result.objectType? "Well" = some well ∧ counterpart.objectType? "Well" = some otherWell ∧
    well.attribute? "depth" = some depth ∧ depth.valueType = .double ∧
    otherWell.attribute? "depth" = some otherDepth ∧
    otherDepth.valueType = .custom "Double" NameMap.empty := by
  obtain ⟨result, well, depth, mapped, found, hasDepth, isDouble⟩ : ∃ result well depth,
      ((Mapper.mk .standard { ({} : Settings) with defaultSrid := 28992 }).map wells
        none).outcome = .ok result ∧ result.objectType? "Well" = some well ∧
        well.attribute? "depth" = some depth ∧ depth.valueType = .double :=
    ⟨_, _, _, rfl, rfl, rfl, rfl⟩
  obtain ⟨counterpart, otherWell, otherDepth, otherMapped, otherFound, otherHas, isCustom⟩ :
      ∃ counterpart otherWell otherDepth,
      ((Mapper.mk surveyRegistry { ({} : Settings) with defaultSrid := 4326 }).map wells
        none).outcome = .ok counterpart ∧ counterpart.objectType? "Well" = some otherWell ∧
        otherWell.attribute? "depth" = some otherDepth ∧
        otherDepth.valueType = .custom "Double" NameMap.empty :=
    ⟨_, _, _, rfl, rfl, rfl, rfl⟩
  have same := erased_eq_of_map .standard surveyRegistry {} 28992 4326 mapped otherMapped
  exact ⟨result, counterpart, well, otherWell, depth, otherDepth, mapped, otherMapped, same, found,
    otherFound, hasDepth, isDouble, otherHas, isCustom⟩

end Mapper

end InfoModel
