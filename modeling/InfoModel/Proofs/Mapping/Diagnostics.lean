/-
**Every diagnostic is true.**

The fault that stops a mapping names elements of the model. With the standard registry they are the
ones to blame.

* `Mapper.Exhibits` says, for each kind of fault, what is wrong with the model when the fault is
  reported;
* `valueType_standard_eq_error`: the standard registry refuses a value type only because it is not
  the name of a scalar kind. It never complains about options, since the pass hands the spatial
  reference to geometries, and every reference is in range;
* `diagnostic_exhibited`: whatever fault stops a mapping, the model exhibits it.
-/

import InfoModel.Proofs.Mapping.Faults
import InfoModel.Proofs.Registry

namespace InfoModel

namespace Pass

variable {pass : Pass}

/-- The spatial reference of the settings is one that the geometry factory takes. -/
theorem createGeometry_options (pass : Pass) :
    ValueTypeFactory.createGeometry (pass.options ScalarKind.geometry.name)
      = .ok (.geometry pass.mapper.settings.defaultSrid) := by
  have found : (pass.options ScalarKind.geometry.name).get? sridOption
      = some (Json.ofWord pass.mapper.settings.defaultSrid) := by
    unfold options
    rw [if_pos rfl, NameMap.get?_insert, if_pos rfl]
  have small : pass.mapper.settings.defaultSrid.toUInt64.toNat < UInt32.size := by
    rw [UInt32.toNat_toUInt64]
    exact pass.mapper.settings.defaultSrid.toNat_lt
  unfold ValueTypeFactory.createGeometry
  rw [found, Json.ofWord]
  simp only [if_pos small, UInt32.toUInt32_toUInt64]

/-- **The standard registry refuses unknown names**, and nothing else. -/
theorem valueType_standard_eq_error (standard : pass.mapper.registry = .standard) {name : String}
    {fault : MappingFault} (refuses : pass.valueType name = .error fault) :
    fault = .unknownValueType name ∧ ∀ kind : ScalarKind, kind.name ≠ name := by
  unfold valueType Registry.create Registry.factory at refuses
  rw [standard] at refuses
  cases found : Registry.standard.factories.get? name with
  | none =>
      rw [found] at refuses
      cases refuses
      refine ⟨rfl, ?_⟩
      rintro kind rfl
      rw [Registry.get?_standard_of_kind] at found
      cases found
  | some factory =>
      obtain ⟨kind, rfl, rfl⟩ := Registry.exists_kind_of_get?_standard found
      rw [found] at refuses
      cases kind with
      | geometry =>
          have created : ValueTypeFactory.createGeometry (pass.options ScalarKind.geometry.name)
            = .error fault := refuses
          rw [createGeometry_options] at created
          cases created
      | _ => cases refuses

end Pass

/-! ### The model at fault -/

/-- An element of a name declares the attribute or data element. -/
def InformationModel.DeclaresAttribute (model : InformationModel) (owner : String)
    (declared : AttributeDeclaration) : Prop :=
  ∃ element ∈ model.elements, element.name = owner ∧ declared ∈ element.members.attributes

namespace Mapper

variable {mapper : Mapper} {model : InformationModel} {aliasName : Option String}
  {fault : MappingFault}

/-- **The model exhibits a fault**: what the fault reports is the case.

* A cycle: the type derives from itself in one of the hierarchies of the first declarations.
* A malformed member: an element of the name declares it, without a datatype and without a choice
  that offers something.
* An unsupported choice: an attribute declares just these alternatives. They are not all geometries,
  and two of them have different topmost supertypes.
* An unresolvable type: a member names the datatype. The settings say to stop, and give no scalar
  kind for the base, which is its topmost supertype.
* A repeated property: an element of the name has two members of that name, or two types of the
  lineage of a concrete object type of the name have one each. Relations that are left out do not
  count.
* A repeated object type: at least two of the names to emit are this one.
* An unknown value type: it is the topmost supertype of a datatype that a member names. The settings
  pass it on, give no scalar kind for it, and it is not the name of one.
* Options are never at fault. -/
def Exhibits (mapper : Mapper) (model : InformationModel) : MappingFault → Prop
  | .supertypeCycle typeName =>
    model.datatypeHierarchy.Derives typeName typeName ∨
      model.objectTypeHierarchy.Derives typeName typeName
  | .malformedMember owner member =>
    ∃ declared, model.DeclaresAttribute owner declared ∧ declared.name = member ∧
      declared.datatype = none ∧ (declared.choice = none ∨ declared.choice = some [])
  | .unsupportedChoice member alternatives =>
    (∃ owner declared, model.DeclaresAttribute owner declared ∧ declared.name = member ∧
      declared.choice = some alternatives) ∧
    (∃ alternative ∈ alternatives, mapper.settings.isGeometryName alternative = false) ∧
    ∃ first ∈ alternatives, ∃ second ∈ alternatives,
      model.datatypeHierarchy.root first ≠ model.datatypeHierarchy.root second
  | .unresolvableType datatype base =>
    mapper.settings.unmappedTypes = .fail ∧ base = model.datatypeHierarchy.root datatype ∧
    mapper.settings.scalarKind? base = none ∧
    ∃ owner declared, model.DeclaresAttribute owner declared ∧ declared.Names datatype
  | .duplicateProperty owner name =>
    (∃ element ∈ model.elements, element.name = owner ∧
      2 ≤ ((mapper.passOver model).memberNames element.members).count name) ∨
    ∃ declared ∈ model.objectTypes, declared.isAbstract = false ∧ declared.name = owner ∧
      ∃ first second, (mapper.passOver model).Clash ((mapper.passOver model).lineage declared) name
        first second
  | .duplicateObjectType name => 2 ≤ model.emittedNames.count name
  | .unknownValueType name =>
    mapper.settings.unmappedTypes = .passThrough ∧ mapper.settings.scalarKind? name = none ∧
    (∀ kind : ScalarKind, kind.name ≠ name) ∧
    ∃ owner declared datatype, model.DeclaresAttribute owner declared ∧ declared.Names datatype ∧
      model.datatypeHierarchy.root datatype = name
  | .invalidOptions _ _ => False

section Standard

variable (standard : mapper.registry = .standard)

include standard

/-- The fault of a declared member is exhibited. -/
theorem exhibits_of_memberFault {owner : String} {declared : AttributeDeclaration}
    (declares : model.DeclaresAttribute owner declared)
    (faulty : (mapper.passOver model).MemberFault owner declared fault) :
    mapper.Exhibits model fault := by
  cases faulty with
  | malformed untyped unchosen => exact ⟨declared, declares, rfl, untyped, unchosen⟩
  | unsupported offers notGeometries different =>
      exact ⟨⟨owner, declared, declares, rfl, offers⟩, notGeometries, different⟩
  | unresolvable names policy unmapped =>
      exact ⟨policy, rfl, unmapped, owner, declared, declares, names⟩
  | refused resolved refuses =>
      obtain ⟨rfl, unknown⟩ := Pass.valueType_standard_eq_error standard refuses
      rcases Resolver.member_eq_ok_scalar resolved with ⟨kind, named⟩ | ⟨datatype, names, found⟩
      · exact absurd named (unknown kind)
      · rcases Resolver.valueTypeName_eq_ok found with ⟨kind, named⟩ | ⟨policy, unmapped, rfl⟩
        · exact absurd named (unknown kind)
        · exact ⟨policy, unmapped, unknown, owner, declared, datatype, declares, names, rfl⟩

/-- The fault of a declaration is exhibited. -/
theorem exhibits_of_declarationFault {declaration : Declaration}
    (member : declaration ∈ model.declarations)
    (faulty : (mapper.passOver model).DeclarationFault declaration fault) :
    mapper.Exhibits model fault := by
  cases faulty with
  | source listed faulty =>
      have known := sources_subset_elements member listed
      cases faulty with
      | member among faulty =>
          exact exhibits_of_memberFault standard ⟨_, known, rfl, among⟩ faulty
      | repeated twice => exact Or.inl ⟨_, known, rfl, twice⟩
  | @clash declared name first second isType isConcrete clash =>
      subst isType
      exact Or.inr ⟨declared, InformationModel.objectType_mem_declarations.mp member, isConcrete,
        rfl, first, second, clash⟩

/-- **Every diagnostic is true.** The model exhibits the fault that stops its mapping. -/
theorem diagnostic_exhibited (failed : (mapper.map model aliasName).outcome = .error fault) :
    mapper.Exhibits model fault := by
  rcases map_eq_error failed with ⟨_, rfl, cyclic⟩ | ⟨-, declaration, member, fails⟩ |
      ⟨-, -, _, rfl, twice⟩
  · exact cyclic
  · exact exhibits_of_declarationFault standard member (declarationFault_of_emit fails)
  · exact twice

end Standard

/-- `T` takes over the member of `A`, an abstract type, which offers texts and integers. -/
def mixed : InformationModel where
  name := "M"
  packages := [{
    name := "P"
    objectTypes := [
      { name := "T", supertypes := ["A"] },
      { name := "A", isAbstract := true,
        members := { attributes := [
          { name := "code", choice := some ["CharacterString", "Integer"] }] } }] }]

theorem diagnostic_exhibited_mixed :
    ({} : Mapper).registry = .standard ∧
      (map {} mixed none).outcome
        = .error (.unsupportedChoice "code" ["CharacterString", "Integer"]) ∧
      ({} : Mapper).Exhibits mixed (.unsupportedChoice "code" ["CharacterString", "Integer"]) := by
  have failed : (map {} mixed none).outcome
      = .error (.unsupportedChoice "code" ["CharacterString", "Integer"]) := rfl
  exact ⟨rfl, failed, diagnostic_exhibited rfl failed⟩

end Mapper

end InfoModel
