/-
**When a mapping succeeds, and how it fails otherwise.**

* `Pass.Accepts` says that the members of an element can be mapped: its attributes resolve, and the
  names of its members are distinct (`exists_members_eq_ok_iff`);
* `Mapper.Accepts` says so of all elements that are mapped, and asks of the lineage of a concrete
  object type that the first declarer of every name derives from its other declarers. That is when
  all declarations are mapped (`forall_maps_iff`);
* `concernsModel_of_declarationFault`: with a discreet registry no declaration fails with a cycle or
  with a repeated object type;
* `mapping_outcome`: so a mapping succeeds just if the hierarchies are acyclic, the elements are
  accepted and the names to emit are distinct. It reports a cycle just if there is one, and a
  repeated object type just if that is the only thing wrong.
-/

import InfoModel.Proofs.Mapping.Faults
import InfoModel.Proofs.Mapping.MostDerived
import InfoModel.Proofs.Registry

namespace InfoModel

namespace Pass

variable {pass : Pass}

/-! ### Elements -/

/-- An attribute resolves: to a relation, or to a value type that the registry creates. -/
def Resolves (pass : Pass) (owner : String) (declared : AttributeDeclaration) : Prop :=
  (∃ target, (pass.resolver.member owner declared).outcome = .ok (.relation target)) ∨
    ∃ name valueType, (pass.resolver.member owner declared).outcome = .ok (.scalar name) ∧
      pass.valueType name = .ok valueType

theorem exists_member_eq_ok_iff {owner : String} {declared : AttributeDeclaration} :
    (∃ property, (pass.member owner declared).outcome = .ok property) ↔
      pass.Resolves owner declared := by
  unfold Pass.member Resolves
  simp only [Recorded.outcome_bind_eq_ok_iff]
  constructor
  · rintro ⟨property, resolved, found, made⟩
    cases resolved with
    | scalar name =>
        obtain ⟨valueType, created, -⟩ := Recorded.outcome_bind_eq_ok_iff.mp made
        exact Or.inr ⟨name, valueType, found, created⟩
    | relation target => exact Or.inl ⟨target, found⟩
  · rintro (⟨target, found⟩ | ⟨name, valueType, found, created⟩)
    · exact ⟨_, .relation target, found, rfl⟩
    · exact ⟨_, .scalar name, found,
        Recorded.outcome_bind_eq_ok_iff.mpr ⟨valueType, created, rfl⟩⟩

/-- **The members of an element can be mapped**: its attributes resolve, and its members have
distinct names, relations that are left out apart. -/
structure Accepts (pass : Pass) (element : Element) : Prop where
  resolves : ∀ declared ∈ element.members.attributes, pass.Resolves element.name declared
  distinct : (pass.memberNames element.members).Nodup

theorem exists_members_eq_ok_iff {element : Element} :
    (∃ properties, (pass.members element.name element.members).outcome = .ok properties) ↔
      pass.Accepts element := by
  have attributes := @Recorded.exists_outcome_mapM_eq_ok_iff _ _ (pass.member element.name)
    element.members.attributes
  simp only [Recorded.outcome_mapM_eq_ok_iff, exists_member_eq_ok_iff] at attributes
  simp only [members_eq_ok_iff]
  constructor
  · rintro ⟨_, distinct, properties, each, -⟩
    exact ⟨attributes.mp ⟨properties, each⟩, distinct⟩
  · rintro ⟨resolves, distinct⟩
    obtain ⟨properties, each⟩ := attributes.mpr resolves
    exact ⟨_, distinct, properties, each, rfl⟩

/-! ### Declarations -/

/-- A declaration is mapped just if what it emits is. -/
theorem maps_iff {declaration : Declaration} :
    pass.Maps declaration ↔ ∀ step, pass.emission? declaration = some step →
      ∃ objectType, step.outcome = .ok objectType := by
  unfold Maps
  rw [outcome_emit]
  cases pass.emission? declaration with
  | none => simp
  | some step => cases found : step.outcome <;> simp [Except.map, found]

theorem maps_datagroupType_iff {declared : DatagroupTypeDeclaration} :
    pass.Maps (.datagroupType declared) ↔ pass.Accepts declared.element := by
  rw [maps_iff, ← exists_members_eq_ok_iff, ← exists_mapElement_eq_ok_iff]
  simp only [emission?, Option.some.injEq, forall_eq', outcome_datagroupType]

theorem maps_datatype_iff {declared : Datatype} :
    pass.Maps (.datatype declared) ↔
      (declared.dataElements?.isSome = true → pass.Accepts declared.element) := by
  rw [maps_iff, ← exists_members_eq_ok_iff, ← exists_mapElement_eq_ok_iff, Datatype.element,
    emission?]
  cases declared.dataElements? with
  | none => simp
  | some elements => simp [outcome_structured]

end Pass

namespace Mapper

variable {mapper : Mapper} {model : InformationModel} {aliasName : Option String}

theorem maps_objectType_iff {declared : ObjectTypeDeclaration} :
    (mapper.passOver model).Maps (.objectType declared) ↔ (declared.isAbstract = false →
      (∀ declarer ∈ (mapper.passOver model).lineage declared,
        (mapper.passOver model).Accepts declarer.element) ∧
      ∀ name first,
        (mapper.passOver model).firstDeclarer? ((mapper.passOver model).lineage declared) name
          = some first → (mapper.passOver model).MostDerived declared name first) := by
  have nodup := nodup_map_name_lineage mapper model declared
  have closed := model.closed_objectTypeHierarchy
  have concrete := Pass.exists_objectType_eq_ok_iff nodup
  rw [Pass.clashless_iff_mostDerived nodup closed] at concrete
  have accepts : ∀ declarer : ObjectTypeDeclaration,
      (mapper.passOver model).MapsMembers declarer ↔
        (mapper.passOver model).Accepts declarer.element :=
    fun declarer => @Pass.exists_members_eq_ok_iff (mapper.passOver model) declarer.element
  simp only [accepts] at concrete
  rw [Pass.maps_iff, Pass.emission?]
  cases declared.isAbstract with
  | true => simp
  | false => simpa using concrete

/-- **The elements of a model are accepted.**

* Of a concrete object type: the members of every type of its lineage can be mapped, and for every
  name the first type of the lineage that declares it derives from all others that do.
* Of a datagroup type and of a structured datatype: the members can be mapped. -/
structure Accepts (mapper : Mapper) (model : InformationModel) : Prop where
  members : ∀ declared ∈ model.objectTypes, declared.isAbstract = false →
    ∀ declarer ∈ (mapper.passOver model).lineage declared,
      (mapper.passOver model).Accepts declarer.element
  inherited : ∀ declared ∈ model.objectTypes, declared.isAbstract = false → ∀ name first,
    (mapper.passOver model).firstDeclarer? ((mapper.passOver model).lineage declared) name
      = some first → (mapper.passOver model).MostDerived declared name first
  datagroupTypes : ∀ declared ∈ model.datagroupTypes,
    (mapper.passOver model).Accepts declared.element
  structured : ∀ declared ∈ model.datatypes, declared.dataElements?.isSome = true →
    (mapper.passOver model).Accepts declared.element

/-- **All declarations are mapped just if the elements are accepted.** -/
theorem forall_maps_iff :
    (∀ declaration ∈ model.declarations, (mapper.passOver model).Maps declaration) ↔
      mapper.Accepts model := by
  rw [InformationModel.forall_mem_declarations]
  simp only [maps_objectType_iff, Pass.maps_datagroupType_iff, Pass.maps_datatype_iff]
  constructor
  · rintro ⟨objectTypes, datagroupTypes, datatypes⟩
    exact ⟨fun declared member isConcrete => (objectTypes declared member isConcrete).1,
      fun declared member isConcrete => (objectTypes declared member isConcrete).2,
      datagroupTypes, datatypes⟩
  · rintro ⟨members, inherited, datagroupTypes, structured⟩
    exact ⟨fun declared member isConcrete =>
      ⟨members declared member isConcrete, inherited declared member isConcrete⟩,
      datagroupTypes, structured⟩

/-! ### The outcome -/

/-- **No declaration fails with a fault of the whole model**, if the registry reports none. -/
theorem concernsModel_of_declarationFault (discreet : mapper.registry.Discreet)
    {declaration : Declaration} {fault : MappingFault}
    (faulty : (mapper.passOver model).DeclarationFault declaration fault) :
    fault.concernsModel = false := by
  cases faulty with
  | source listed faulty =>
      cases faulty with
      | member among faulty =>
          cases faulty with
          | refused resolved refuses => exact discreet.create refuses
          | _ => rfl
      | repeated twice => rfl
  | clash isType isConcrete clash => rfl

/-- **A mapping succeeds just if** the hierarchies are acyclic, the elements are accepted and the
names to emit are distinct. -/
theorem exists_map_eq_ok_iff_accepts :
    (∃ result, (mapper.map model aliasName).outcome = .ok result) ↔
      model.Acyclic ∧ mapper.Accepts model ∧ model.emittedNames.Nodup := by
  rw [exists_map_eq_ok_iff, forall_maps_iff, model.perm_emittedNames.nodup_iff]

/-- A model with a cycle is not mapped, and the fault says so. -/
theorem exists_map_eq_supertypeCycle (cyclic : ¬ model.Acyclic) :
    ∃ typeName, (mapper.map model aliasName).outcome = .error (.supertypeCycle typeName) := by
  cases outcome : (mapper.map model aliasName).outcome with
  | ok result => exact absurd (map_eq_ok_iff.mp outcome).1 cyclic
  | error fault =>
      rcases map_eq_error outcome with ⟨typeName, rfl, -⟩ | ⟨acyclic, -⟩ | ⟨acyclic, -⟩
      · exact ⟨typeName, rfl⟩
      · exact absurd acyclic cyclic
      · exact absurd acyclic cyclic

/-- Where nothing else is wrong, the fault is a name that two object types share. -/
theorem exists_map_eq_duplicateObjectType (acyclic : model.Acyclic)
    (accepts : mapper.Accepts model) (shared : ¬ model.emittedNames.Nodup) :
    ∃ name, (mapper.map model aliasName).outcome = .error (.duplicateObjectType name) := by
  cases outcome : (mapper.map model aliasName).outcome with
  | ok result => exact absurd (exists_map_eq_ok_iff_accepts.mp ⟨result, outcome⟩).2.2 shared
  | error fault =>
      rcases map_eq_error outcome with ⟨typeName, -, derives⟩ | ⟨-, declaration, member, fails⟩ |
          ⟨-, -, name, rfl, -⟩
      · exact (derives.elim (acyclic.1 typeName) (acyclic.2 typeName)).elim
      · obtain ⟨result, mapped⟩ := forall_maps_iff.mpr accepts declaration member
        rw [fails] at mapped
        cases mapped
      · exact ⟨name, rfl⟩

/-- **The outcome of a mapping, exactly.** It succeeds just if the hierarchies are acyclic, the
elements are accepted and the names to emit are distinct. A cycle is always reported. With a
registry whose factories report neither cycles nor repeated object types, a cycle is reported just
if there is one, and a repeated object type just if nothing else is wrong. -/
theorem mapping_outcome (mapper : Mapper) (model : InformationModel)
    (aliasName : Option String) :
    ((∃ result, (mapper.map model aliasName).outcome = .ok result) ↔
      model.Acyclic ∧ mapper.Accepts model ∧ model.emittedNames.Nodup) ∧
    (¬ model.Acyclic →
      ∃ typeName, (mapper.map model aliasName).outcome = .error (.supertypeCycle typeName)) ∧
    (mapper.registry.Discreet →
      ((∃ typeName, (mapper.map model aliasName).outcome = .error (.supertypeCycle typeName)) ↔
        ¬ model.Acyclic) ∧
      ((∃ name, (mapper.map model aliasName).outcome = .error (.duplicateObjectType name)) ↔
        model.Acyclic ∧ mapper.Accepts model ∧ ¬ model.emittedNames.Nodup)) := by
  refine ⟨exists_map_eq_ok_iff_accepts, exists_map_eq_supertypeCycle, fun discreet => ⟨?_, ?_⟩⟩
  · refine ⟨?_, exists_map_eq_supertypeCycle⟩
    rintro ⟨typeName, failed⟩ acyclic
    rcases map_eq_error failed with ⟨other, -, derives⟩ | ⟨-, declaration, -, fails⟩ |
        ⟨-, -, name, ⟨⟩, -⟩
    · exact derives.elim (acyclic.1 other) (acyclic.2 other)
    · have concerns := concernsModel_of_declarationFault discreet (declarationFault_of_emit fails)
      cases concerns
  · refine ⟨?_, fun ⟨acyclic, accepts, shared⟩ =>
      exists_map_eq_duplicateObjectType acyclic accepts shared⟩
    rintro ⟨name, failed⟩
    rcases map_eq_error failed with ⟨_, ⟨⟩, -⟩ | ⟨-, declaration, -, fails⟩ |
        ⟨acyclic, maps, other, -, twice⟩
    · have concerns := concernsModel_of_declarationFault discreet (declarationFault_of_emit fails)
      cases concerns
    · refine ⟨acyclic, forall_maps_iff.mp maps, fun distinct => ?_⟩
      have once := List.nodup_iff_count_le_one.mp distinct other
      omega

/-- An object type and a datagroup type share the name `A`, in two packages. -/
def homonyms : InformationModel where
  name := "M"
  packages := [
    { name := "P", objectTypes := [{ name := "A" }] },
    { name := "Q", datagroupTypes := [{ name := "A" }] }]

theorem mapping_outcome_homonyms :
    ({} : Mapper).registry.Discreet ∧
      (map {} homonyms none).outcome = .error (.duplicateObjectType "A") ∧
      homonyms.Acyclic ∧ ({} : Mapper).Accepts homonyms ∧ ¬ homonyms.emittedNames.Nodup := by
  have discreet : ({} : Mapper).registry.Discreet := Registry.discreet_standard
  have failed : (map {} homonyms none).outcome = .error (.duplicateObjectType "A") := rfl
  obtain ⟨-, -, classified⟩ := mapping_outcome {} homonyms none
  exact ⟨discreet, failed, (classified discreet).2.mp ⟨"A", failed⟩⟩

end Mapper

end InfoModel
