/-
**A looser type table.**

A mapping that stops at bases without scalar kind only ever looks up bases that have one, so it does
not notice kinds for further bases, nor what else might be done with a base without.

* `Settings.Loosened`: settings to which kinds for new bases are added, one by one, and which may be
  switched to pass bases through;
* `valueTypeName_loosened`, `member_loosened`: a datatype that is resolved, and an attribute that is
  mapped, stay as they are;
* `map_loosened`: so does a model that is mapped.
-/

import InfoModel.Proofs.Mapping.Companions

namespace InfoModel

namespace Settings

/-- **Loosened settings**: a base without scalar kind is given one, or bases are passed through. -/
inductive Loosened (settings : Settings) : Settings → Prop where
  | refl : Loosened settings settings
  | mapScalar {loose : Settings} (loosened : Loosened settings loose) {base : String}
      (absent : settings.scalarKind? base = none) (kind : ScalarKind) :
      Loosened settings (loose.mapScalar base kind)
  | passThrough {loose : Settings} (loosened : Loosened settings loose) :
      Loosened settings { loose with unmappedTypes := .passThrough }

namespace Loosened

variable {settings loose : Settings} (loosened : settings.Loosened loose)

include loosened

/-- Scalar kinds are kept. -/
theorem scalarKind?_eq_some {base : String} {kind : ScalarKind}
    (known : settings.scalarKind? base = some kind) : loose.scalarKind? base = some kind := by
  induction loosened with
  | refl => exact known
  | @mapScalar loose _ added absent other ih =>
      have different : base ≠ added := by
        intro same
        rw [same, absent] at known
        cases known
      show (loose.scalarMappings.insert added other).get? base = some kind
      rw [NameMap.get?_insert, if_neg different]
      exact ih
  | passThrough _ ih => exact ih

/-- Nothing but the scalar kinds and the policy changes. -/
theorem eq_with : loose = { settings with
    scalarMappings := loose.scalarMappings, unmappedTypes := loose.unmappedTypes } := by
  induction loosened with
  | refl => rfl
  | mapScalar _ _ kind ih => exact congrArg (Settings.mapScalar · _ kind) ih
  | passThrough _ ih =>
      exact congrArg (fun loose : Settings => { loose with unmappedTypes := .passThrough }) ih

/-- A base that has a scalar kind is resolved as before. -/
theorem baseOutcome_eq_ok (strict : settings.unmappedTypes = .fail) {datatype base name : String}
    (made : settings.baseOutcome datatype base = .ok name) :
    loose.baseOutcome datatype base = .ok name := by
  rcases baseOutcome_eq_ok_iff.mp made with ⟨kind, known, named⟩ | ⟨-, policy, -⟩
  · exact baseOutcome_eq_ok_iff.mpr (Or.inl ⟨kind, loosened.scalarKind?_eq_some known, named⟩)
  · rw [strict] at policy
    cases policy

end Loosened

end Settings

/-! ### Resolved types -/

namespace Resolver

variable {catalogue : Catalogue} {settings loose : Settings}
  (strict : settings.unmappedTypes = .fail) (loosened : settings.Loosened loose)

include strict loosened

/-- **A datatype that is resolved stays as it is.** -/
theorem valueTypeName_loosened {datatype name : String}
    (resolved : ((Resolver.mk catalogue settings).valueTypeName datatype).outcome = .ok name) :
    ((Resolver.mk catalogue loose).valueTypeName datatype).outcome = .ok name := by
  have further := @Settings.Loosened.baseOutcome_eq_ok _ _ loosened strict
  rw [outcome_valueTypeName] at resolved ⊢
  rw [loosened.eq_with] at further ⊢
  by_cases isText : (Resolver.mk catalogue settings).isDeclaredText datatype = true ∨
      catalogue.datatypeHierarchy.isSubtype datatype settings.stringSupertype = true
  · rw [if_pos isText] at resolved
    exact (if_pos isText).trans resolved
  rw [if_neg isText] at resolved
  refine (if_neg isText).trans ?_
  by_cases isGeometry : settings.isGeometryName datatype = true
  · rw [if_pos isGeometry] at resolved
    exact (if_pos isGeometry).trans resolved
  · rw [if_neg isGeometry] at resolved
    exact (if_neg isGeometry).trans (further resolved)

/-- **A choice that is resolved stays as it is.** -/
theorem choice_loosened {member name : String} {alternatives : List String}
    (resolved : ((Resolver.mk catalogue settings).choice member alternatives).outcome = .ok name) :
    ((Resolver.mk catalogue loose).choice member alternatives).outcome = .ok name := by
  have isGeometryName : loose.isGeometryName = settings.isGeometryName := by
    rw [loosened.eq_with]
    rfl
  unfold choice at resolved ⊢
  rw [isGeometryName]
  by_cases geometries : alternatives.all settings.isGeometryName = true
  · rw [if_pos geometries] at resolved ⊢
    exact resolved
  rw [if_neg geometries] at resolved ⊢
  cases alternatives with
  | nil => cases resolved
  | cons first others =>
      by_cases equal : allEqual ((first :: others).map
          (catalogue.datatypeHierarchy.root ·)) = true
      · refine (congrArg Recorded.outcome (if_pos equal)).trans ?_
        exact valueTypeName_loosened strict loosened
          ((congrArg Recorded.outcome (if_pos equal)).symm.trans resolved)
      · cases (congrArg Recorded.outcome (if_neg equal)).symm.trans resolved

/-- **A scalar member that is resolved stays as it is.** -/
theorem scalarName_loosened {owner name : String} {declared : AttributeDeclaration}
    (resolved : ((Resolver.mk catalogue settings).scalarName owner declared).outcome = .ok name) :
    ((Resolver.mk catalogue loose).scalarName owner declared).outcome = .ok name := by
  unfold scalarName at resolved ⊢
  split at resolved
  · exact choice_loosened strict loosened resolved
  · exact valueTypeName_loosened strict loosened resolved
  · cases resolved

/-- **A member that is resolved stays as it is.** -/
theorem member_loosened {owner : String} {declared : AttributeDeclaration} {type : ResolvedType}
    (resolved : ((Resolver.mk catalogue settings).member owner declared).outcome = .ok type) :
    ((Resolver.mk catalogue loose).member owner declared).outcome = .ok type := by
  have target : (Resolver.mk catalogue loose).structuralTarget? declared
      = (Resolver.mk catalogue settings).structuralTarget? declared := rfl
  unfold member at resolved ⊢
  rw [target]
  cases found : (Resolver.mk catalogue settings).structuralTarget? declared with
  | some target => simpa only [found] using resolved
  | none =>
      simp only [found] at resolved ⊢
      obtain ⟨name, named, made⟩ := Recorded.outcome_bind_eq_ok_iff.mp resolved
      exact Recorded.outcome_bind_eq_ok_iff.mpr
        ⟨name, scalarName_loosened strict loosened named, made⟩

end Resolver

/-! ### Mapped members and models -/

namespace Mapper

section Loosened

variable {mapper : Mapper} {loose : Settings} {model : InformationModel}
  {aliasName : Option String}
  (strict : mapper.settings.unmappedTypes = .fail) (loosened : mapper.settings.Loosened loose)

include strict loosened

/-- **A member that is mapped stays as it is.** -/
theorem member_loosened {owner : String} {declared : AttributeDeclaration} {property : Property}
    (mapped : ((mapper.passOver model).member owner declared).outcome = .ok property) :
    (((Mapper.mk mapper.registry loose).passOver model).member owner declared).outcome
      = .ok property := by
  have valueType : ((Mapper.mk mapper.registry loose).passOver model).valueType
      = (mapper.passOver model).valueType := by
    rw [loosened.eq_with]
    rfl
  unfold Pass.member at mapped ⊢
  obtain ⟨type, resolved, made⟩ := Recorded.outcome_bind_eq_ok_iff.mp mapped
  refine Recorded.outcome_bind_eq_ok_iff.mpr
    ⟨type, Resolver.member_loosened strict loosened resolved, ?_⟩
  rw [valueType]
  exact made

theorem resolves_loosened {owner : String} {declared : AttributeDeclaration}
    (resolves : (mapper.passOver model).Resolves owner declared) :
    ((Mapper.mk mapper.registry loose).passOver model).Resolves owner declared := by
  obtain ⟨property, mapped⟩ := Pass.exists_member_eq_ok_iff.mpr resolves
  exact Pass.exists_member_eq_ok_iff.mp ⟨property, member_loosened strict loosened mapped⟩

/-- Both mappings make the same of an attribute. -/
theorem companions_loosened :
    Companions (· = ·) mapper (Mapper.mk mapper.registry loose) model where
  inherited := (congrArg Settings.includeInherited loosened.eq_with).symm
  attributes owner declared property counterpart mapped otherMapped := by
    have same := member_loosened strict loosened mapped
    rw [otherMapped] at same
    exact (Except.ok.inj same).symm
  relations _ := rfl

/-- **Loosening keeps a model.** A model that is mapped without a base that lacks a scalar kind is
mapped to the same with kinds for further bases, and also if bases are passed through. -/
theorem map_loosened {result : Model} (mapped : (mapper.map model aliasName).outcome = .ok result) :
    ((Mapper.mk mapper.registry loose).map model aliasName).outcome = .ok result := by
  have companions : Companions (· = ·) mapper (Mapper.mk mapper.registry loose) model :=
    companions_loosened strict loosened
  obtain ⟨counterpart, otherMapped⟩ := exists_map_of_resolves companions.inherited
    (fun owner declared => resolves_loosened strict loosened) mapped
  obtain ⟨sameAlias, objectTypes⟩ := companions.corresponds_of_map mapped otherMapped
  have same : counterpart = result := by
    refine Model.ext_objectType? sameAlias.symm fun name => ?_
    simpa using (map_eq_of_optionRel id (objectTypes name) fun _ _ => ObjectType.Corresponds.eq).symm
  exact same ▸ otherMapped

end Loosened

/-- Street sections with a length, a name and a place. -/
def streets : InformationModel where
  name := "M"
  packages := [{
    name := "P"
    objectTypes := [
      { name := "Section",
        members := { attributes := [
          { name := "length", datatype := some "Length" },
          { name := "name", datatype := some "StreetName" },
          { name := "place", choice := some ["GM_Point", "GM_Curve"] }] } }]
    datatypes := [
      { name := "Length", supertypes := ["Measure"], form := .primitive none },
      { name := "Measure", supertypes := ["Decimal"], form := .primitive none },
      { name := "StreetName", supertypes := ["Text"], form := .primitive none }] }]

/-- Settings with texts that derive from `Text`. -/
def streetSettings : Settings := { stringSupertype := "Text" }

/-- The new bases are the text type, a geometry and a datatype on the way to the base `Decimal`. -/
def looseStreetSettings : Settings :=
  { ((streetSettings.mapScalar "Text" .integer).mapScalar "GM_Point" .boolean).mapScalar
      "Measure" .integer with
    unmappedTypes := .passThrough }

theorem map_loosened_streets : ∃ result objectType length name place,
    streetSettings.unmappedTypes = .fail ∧ streetSettings.Loosened looseStreetSettings ∧
    ((Mapper.mk .standard streetSettings).map streets none).outcome = .ok result ∧
    ((Mapper.mk .standard looseStreetSettings).map streets none).outcome = .ok result ∧
    result.objectType? "Section" = some objectType ∧
    objectType.attribute? "length" = some length ∧ length.valueType = .double ∧
    objectType.attribute? "name" = some name ∧ name.valueType = .string ∧
    objectType.attribute? "place" = some place ∧ place.valueType = .geometry 28992 := by
  have loosened : streetSettings.Loosened looseStreetSettings := by
    have text : streetSettings.scalarKind? "Text" = none := rfl
    have point : streetSettings.scalarKind? "GM_Point" = none := rfl
    have measure : streetSettings.scalarKind? "Measure" = none := rfl
    exact (((Settings.Loosened.refl.mapScalar text .integer).mapScalar point .boolean).mapScalar
      measure .integer).passThrough
  obtain ⟨result, objectType, length, name, place, mapped, found, hasLength, isDouble, hasName,
      isText, hasPlace, isGeometry⟩ : ∃ result objectType length name place,
      ((Mapper.mk .standard streetSettings).map streets none).outcome = .ok result ∧
        result.objectType? "Section" = some objectType ∧
        objectType.attribute? "length" = some length ∧ length.valueType = .double ∧
        objectType.attribute? "name" = some name ∧ name.valueType = .string ∧
        objectType.attribute? "place" = some place ∧ place.valueType = .geometry 28992 :=
    ⟨_, _, _, _, _, rfl, rfl, rfl, rfl, rfl, rfl, rfl, rfl⟩
  have strict : streetSettings.unmappedTypes = .fail := rfl
  have kept := map_loosened strict loosened mapped
  exact ⟨result, objectType, length, name, place, strict, loosened, mapped, kept, found, hasLength,
    isDouble, hasName, isText, hasPlace, isGeometry⟩

end Mapper

end InfoModel
