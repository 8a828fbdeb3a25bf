/-
**Value types from the standard registry.**

With the standard registry the creation of a value type never fails on its own. A name of a value
type is either that of a scalar kind, whose factory takes what the pass hands to it, or a base that
the settings pass through.

* `ScalarKind.valueType` is the value type that a scalar kind stands for;
* `valueType_standard_eq_ok_iff`: the standard registry creates the value types of the scalar kinds,
  each under the name of its kind, and no other;
* `exists_kind_of_map`: so every attribute of a mapped model has a value type of a scalar kind, on
  whichever way its name was found;
* `standard_types_suffice`: options are never at fault, names are unknown only where bases are
  passed through, and a mapped model holds neither custom value types nor geometries of another
  spatial reference.
-/

import InfoModel.Proofs.Mapping.Diagnostics
import InfoModel.Proofs.Mapping.References

namespace InfoModel

/-- The value type of a scalar kind. Geometries have the given spatial reference. -/
def ScalarKind.valueType (srid : UInt32) : ScalarKind → ValueType
  | .string => .string
  | .integer => .integer
  | .float => .float
  | .double => .double
  | .boolean => .boolean
  | .geometry => .geometry srid

theorem ScalarKind.valueType_ne_custom (srid : UInt32) (kind : ScalarKind) (name : String)
    (options : TypeOptions) : kind.valueType srid ≠ .custom name options := by
  cases kind <;> exact nofun

theorem ScalarKind.srid_of_valueType_eq_geometry {srid other : UInt32} {kind : ScalarKind}
    (same : kind.valueType srid = .geometry other) : other = srid := by
  cases kind <;> cases same
  rfl

namespace Pass

variable {pass : Pass} (standard : pass.mapper.registry = .standard)

include standard

/-- The standard registry creates the value type of every scalar kind. -/
theorem valueType_kind (kind : ScalarKind) :
    pass.valueType kind.name = .ok (kind.valueType pass.mapper.settings.defaultSrid) := by
  unfold valueType Registry.create Registry.factory
  rw [standard, Registry.get?_standard_of_kind]
  cases kind with
  | geometry => exact createGeometry_options pass
  | _ => rfl

/-- **The standard registry creates the value types of the scalar kinds**, and no other. -/
theorem valueType_standard_eq_ok_iff {name : String} {valueType : ValueType} :
    pass.valueType name = .ok valueType ↔ ∃ kind : ScalarKind,
      kind.name = name ∧ valueType = kind.valueType pass.mapper.settings.defaultSrid := by
  constructor
  · intro created
    by_cases unknown : ∀ kind : ScalarKind, kind.name ≠ name
    · unfold Pass.valueType Registry.create Registry.factory at created
      rw [standard, Registry.get?_standard_eq_none unknown] at created
      cases created
    · obtain ⟨kind, same⟩ := not_forall.mp unknown
      obtain rfl := not_not.mp same
      rw [valueType_kind standard] at created
      exact ⟨kind, rfl, (Except.ok.inj created).symm⟩
  · rintro ⟨kind, rfl, rfl⟩
    exact valueType_kind standard kind

/-- A member that becomes an attribute has the value type of a scalar kind. -/
theorem exists_kind_of_becomes {owner : String} {origin : MemberDeclaration}
    {value : Attribute} (becomes : pass.Becomes owner origin (.ofAttribute value)) :
    ∃ kind : ScalarKind, value.valueType = kind.valueType pass.mapper.settings.defaultSrid := by
  cases origin with
  | ofAttribute declared =>
      unfold Becomes Pass.member at becomes
      obtain ⟨resolved, -, made⟩ := Recorded.outcome_bind_eq_ok_iff.mp becomes
      cases resolved with
      | scalar name =>
          obtain ⟨valueType, created, made⟩ := Recorded.outcome_bind_eq_ok_iff.mp made
          obtain ⟨kind, -, same⟩ := (valueType_standard_eq_ok_iff standard).mp created
          cases made
          exact ⟨kind, same⟩
      | relation target => cases made
  | ofRelation declared =>
      obtain ⟨target, -, ⟨⟩⟩ := Option.map_eq_some_iff.mp becomes
  | ofDatagroup reference => cases becomes

end Pass

namespace Mapper

section Standard

variable {mapper : Mapper} (standard : mapper.registry = .standard)

include standard

/-- **Every attribute of a mapped model has the value type of a scalar kind.** -/
theorem exists_kind_of_map {model : InformationModel} {aliasName : Option String} {result : Model}
    (mapped : (mapper.map model aliasName).outcome = .ok result) {typeName name : String}
    {objectType : ObjectType} (found : result.objectType? typeName = some objectType)
    {value : Attribute} (carried : objectType.property? name = some (.ofAttribute value)) :
    ∃ kind : ScalarKind, value.valueType = kind.valueType mapper.settings.defaultSrid := by
  obtain ⟨origin, declaration, -, -, element, -, -, becomes⟩ :=
    exists_comesFrom mapped found carried
  have standardPass : (mapper.passOver model).mapper.registry = .standard := standard
  exact Pass.exists_kind_of_becomes standardPass becomes

/-- **The standard registry is never at fault on its own.**

* Options are never invalid.
* A name of a value type is unknown only if the settings pass bases through.
* In a mapped model no attribute has a custom value type, and every geometry has the spatial
  reference of the settings. -/
theorem standard_types_suffice (model : InformationModel) (aliasName : Option String) :
    (∀ typeName reason,
      (mapper.map model aliasName).outcome ≠ .error (.invalidOptions typeName reason)) ∧
    (mapper.settings.unmappedTypes = .fail → ∀ name,
      (mapper.map model aliasName).outcome ≠ .error (.unknownValueType name)) ∧
    ∀ result, (mapper.map model aliasName).outcome = .ok result →
      ∀ typeName objectType, result.objectType? typeName = some objectType →
      ∀ name value, objectType.property? name = some (.ofAttribute value) →
        (∀ hostType options, value.valueType ≠ .custom hostType options) ∧
        ∀ srid, value.valueType = .geometry srid → srid = mapper.settings.defaultSrid := by
  have exhibited : ∀ fault, (mapper.map model aliasName).outcome = .error fault →
      fault.concernsModel = true ∨ mapper.Exhibits model fault := by
    intro fault failed
    rcases map_eq_error failed with ⟨_, rfl, -⟩ | ⟨-, declaration, member, fails⟩ |
        ⟨-, -, _, rfl, -⟩
    · exact Or.inl rfl
    · exact Or.inr (exhibits_of_declarationFault standard member
        (declarationFault_of_emit fails))
    · exact Or.inl rfl
  refine ⟨?_, ?_, ?_⟩
  · intro typeName reason failed
    rcases exhibited _ failed with ⟨⟨⟩⟩ | impossible
    exact impossible
  · intro policy name failed
    rcases exhibited _ failed with ⟨⟨⟩⟩ | ⟨passesThrough, -⟩
    rw [policy] at passesThrough
    cases passesThrough
  · intro result mapped typeName objectType found name value carried
    obtain ⟨kind, same⟩ := exists_kind_of_map standard mapped found carried
    rw [same]
    exact ⟨kind.valueType_ne_custom _, fun srid => ScalarKind.srid_of_valueType_eq_geometry⟩

end Standard

/-- `T` has a geometry by the prefix, one by a choice, and takes over one by the scalar kinds. -/
def surveyed : InformationModel where
  name := "M"
  packages := [{
    name := "P"
    objectTypes := [
      { name := "T", supertypes := ["A"],
        members := { attributes := [
          { name := "lage", datatype := some "GM_Point" },
          { name := "plek", choice := some ["GM_Point", "GM_Surface"] }] } },
      { name := "A", isAbstract := true,
        members := { attributes := [{ name := "vlak", datatype := some "Vlak" }] } }] }]

/-- A mapping for which the base type `Vlak` is a geometry. -/
def surveyor : Mapper where
  settings := Settings.mapScalar { defaultSrid := 4326 } "Vlak" .geometry

theorem standard_types_suffice_surveyed :
    surveyor.registry = .standard ∧ surveyor.settings.unmappedTypes = .fail ∧
      (∀ typeName reason,
        (surveyor.map surveyed none).outcome ≠ .error (.invalidOptions typeName reason)) ∧
      (∀ name, (surveyor.map surveyed none).outcome ≠ .error (.unknownValueType name)) ∧
      ∃ result objectType value srid, (surveyor.map surveyed none).outcome = .ok result ∧
        result.objectType? "T" = some objectType ∧
        objectType.property? "vlak" = some (.ofAttribute value) ∧
        value.valueType = .geometry srid ∧ srid = surveyor.settings.defaultSrid ∧
        ∀ hostType options, value.valueType ≠ .custom hostType options := by
  have standard : surveyor.registry = .standard := rfl
  obtain ⟨options, names, types⟩ := standard_types_suffice standard surveyed none
  obtain ⟨result, objectType, value, srid, mapped, found, carried, typed⟩ :
      ∃ result objectType value srid, (surveyor.map surveyed none).outcome = .ok result ∧
        result.objectType? "T" = some objectType ∧
        objectType.property? "vlak" = some (.ofAttribute value) ∧
        value.valueType = .geometry srid := ⟨_, _, _, _, rfl, rfl, rfl, rfl⟩
  obtain ⟨notCustom, reference⟩ := types result mapped "T" objectType found "vlak" value carried
  exact ⟨standard, rfl, options, names rfl, result, objectType, value, srid, mapped, found,
    carried, typed, reference srid typed, notCustom⟩

end Mapper

end InfoModel
