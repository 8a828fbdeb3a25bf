/-
**Where relations lead.**

A relation of a mapped model leads to an object type of that model, except in three cases.

* `Mapper.ComesFrom` ties a property to the member that it comes from. Every property comes from one
  (`exists_comesFrom`);
* `target_of_attribute`, `target_of_relation`, `target_of_datagroup`: a relation of the mapped model
  leads where the member leads;
* `InformationModel.Dangling` lists the cases in which the target may be missing,
  `InformationModel.Anchored` those in which it never is;
* `references_closed`: where the target of a relation is missing, the member that the relation comes
  from dangles; where that member is anchored, the target is there.
-/

import InfoModel.Proofs.Mapping.Elements

namespace InfoModel

/-! ### Members -/

/-- A member as declared. -/
inductive MemberDeclaration where
  | ofAttribute (declared : AttributeDeclaration)
  | ofRelation (declared : RelationDeclaration)
  | ofDatagroup (reference : DatagroupReference)

/-- The members of an element, in the order they are mapped. -/
def Members.declarations (members : Members) : List MemberDeclaration :=
  members.attributes.map .ofAttribute ++ members.relations.map .ofRelation ++
    members.datagroups.map .ofDatagroup

namespace Resolver

variable {resolver : Resolver} {declared : AttributeDeclaration} {target : String}

theorem structuralTarget?_eq_some_iff : resolver.structuralTarget? declared = some target ↔
    declared.datatype = some target ∧ resolver.isScalarLike target = false := by
  unfold structuralTarget?
  cases declared.datatype with
  | none => simp
  | some datatype =>
      simp only [Option.ite_none_left_eq_some, Option.some.injEq, Bool.not_eq_true]
      constructor
      · rintro ⟨objects, rfl⟩
        exact ⟨rfl, objects⟩
      · rintro ⟨rfl, objects⟩
        exact ⟨objects, rfl⟩

/-- What is resolved to a relation has a datatype whose values are objects. -/
theorem member_eq_ok_relation {owner : String}
    (resolved : (resolver.member owner declared).outcome = .ok (.relation target)) :
    declared.datatype = some target ∧ resolver.isScalarLike target = false := by
  unfold member at resolved
  split at resolved
  · rename_i structural
    cases resolved
    exact structuralTarget?_eq_some_iff.mp structural
  · obtain ⟨_, -, ⟨⟩⟩ := Recorded.outcome_bind_eq_ok_iff.mp resolved

end Resolver

namespace Pass

variable {pass : Pass} {owner : String}

/-- A member becomes a property. -/
def Becomes (pass : Pass) (owner : String) : MemberDeclaration → Property → Prop
  | .ofAttribute declared, property => (pass.member owner declared).outcome = .ok property
  | .ofRelation declared, property => pass.relation? declared = some property
  | .ofDatagroup reference, property => Pass.datagroup reference = property

theorem exists_attribute_of_mem {attributes : List AttributeDeclaration}
    {properties : List Property}
    (mapped : List.Forall₂ (fun declared property =>
      (pass.member owner declared).outcome = .ok property) attributes properties)
    {property : Property} (member : property ∈ properties) :
    ∃ declared ∈ attributes, (pass.member owner declared).outcome = .ok property := by
  induction mapped with
  | nil => cases member
  | @cons declared _ _ _ one _ ih =>
      rcases List.mem_cons.mp member with rfl | later
      · exact ⟨declared, List.mem_cons_self, one⟩
      · obtain ⟨other, listed, becomes⟩ := ih later
        exact ⟨other, List.mem_cons_of_mem _ listed, becomes⟩

theorem mem_of_attribute {attributes : List AttributeDeclaration} {properties : List Property}
    (mapped : List.Forall₂ (fun declared property =>
      (pass.member owner declared).outcome = .ok property) attributes properties)
    {declared : AttributeDeclaration} (listed : declared ∈ attributes) {property : Property}
    (becomes : (pass.member owner declared).outcome = .ok property) : property ∈ properties := by
  induction mapped with
  | nil => cases listed
  | cons one _ ih =>
      rcases List.mem_cons.mp listed with rfl | later
      · rw [Except.ok.inj (becomes.symm.trans one)]
        exact List.mem_cons_self
      · exact List.mem_cons_of_mem _ (ih later)

/-- **Every property of an element is what one of its members becomes.** -/
theorem exists_becomes_of_mem {members : Members} {properties : List Property}
    (mapped : (pass.members owner members).outcome = .ok properties) {property : Property}
    (member : property ∈ properties) :
    ∃ origin ∈ members.declarations, pass.Becomes owner origin property := by
  obtain ⟨-, attributes, each, rfl⟩ := members_eq_ok_iff.mp mapped
  unfold Members.declarations
  rcases List.mem_append.mp member with early | isDatagroup
  · rcases List.mem_append.mp early with isAttribute | isRelation
    · obtain ⟨declared, listed, becomes⟩ := exists_attribute_of_mem each isAttribute
      exact ⟨.ofAttribute declared, List.mem_append_left _
        (List.mem_append_left _ (List.mem_map_of_mem listed)), becomes⟩
    · obtain ⟨declared, listed, becomes⟩ := List.mem_filterMap.mp isRelation
      exact ⟨.ofRelation declared, List.mem_append_left _
        (List.mem_append_right _ (List.mem_map_of_mem listed)), becomes⟩
  · obtain ⟨reference, listed, becomes⟩ := List.mem_map.mp isDatagroup
    exact ⟨.ofDatagroup reference, List.mem_append_right _ (List.mem_map_of_mem listed), becomes⟩

/-- **What a member becomes is a property of its element.** -/
theorem mem_of_becomes {members : Members} {properties : List Property}
    (mapped : (pass.members owner members).outcome = .ok properties) {origin : MemberDeclaration}
    (listed : origin ∈ members.declarations) {property : Property}
    (becomes : pass.Becomes owner origin property) : property ∈ properties := by
  obtain ⟨-, attributes, each, rfl⟩ := members_eq_ok_iff.mp mapped
  unfold assembled
  cases origin with
  | ofAttribute declared =>
      have isAttribute : declared ∈ members.attributes := by
        simpa [Members.declarations] using listed
      exact List.mem_append_left _ (List.mem_append_left _
        (mem_of_attribute each isAttribute becomes))
  | ofRelation declared =>
      have isRelation : declared ∈ members.relations := by
        simpa [Members.declarations] using listed
      exact List.mem_append_left _ (List.mem_append_right _
        (List.mem_filterMap.mpr ⟨declared, isRelation, becomes⟩))
  | ofDatagroup reference =>
      have isDatagroup : reference ∈ members.datagroups := by
        simpa [Members.declarations] using listed
      exact List.mem_append_right _ (List.mem_map.mpr ⟨reference, isDatagroup, becomes⟩)

/-- **An attribute leads to its datatype**, whose values are objects. -/
theorem target_of_attribute {declared : AttributeDeclaration} {relation : Relation}
    (becomes : pass.Becomes owner (.ofAttribute declared) (.ofRelation relation)) :
    declared.datatype = some relation.target ∧
      pass.resolver.isScalarLike relation.target = false := by
  unfold Becomes Pass.member at becomes
  obtain ⟨resolved, found, made⟩ := Recorded.outcome_bind_eq_ok_iff.mp becomes
  cases resolved with
  | scalar name =>
      obtain ⟨valueType, -, made⟩ := Recorded.outcome_bind_eq_ok_iff.mp made
      cases made
  | relation target =>
      cases made
      exact Resolver.member_eq_ok_relation found

/-- **A relation leads to its target**, which is a declared object type. -/
theorem target_of_relation {declared : RelationDeclaration} {relation : Relation}
    (becomes : pass.Becomes owner (.ofRelation declared) (.ofRelation relation)) :
    declared.target = some relation.target ∧
      (pass.catalogue.objectType? relation.target).isSome = true := by
  obtain ⟨target, leads, made⟩ := Option.map_eq_some_iff.mp becomes
  cases made
  unfold target? at leads
  cases named : declared.target with
  | none =>
      rw [named] at leads
      cases leads
  | some other =>
      rw [named] at leads
      simp only [Option.ite_none_right_eq_some, Option.some.injEq] at leads
      obtain ⟨known, rfl⟩ := leads
      exact ⟨rfl, known⟩

/-- A reference to a datagroup type leads to that type. -/
theorem target_of_datagroup {reference : DatagroupReference} {relation : Relation}
    (becomes : pass.Becomes owner (.ofDatagroup reference) (.ofRelation relation)) :
    reference.datagroupType = relation.target := by
  cases becomes
  rfl

end Pass

/-! ### Targets -/

namespace InformationModel

/-- **The target of a member may be missing.**

* The first declaration of the datatype of an attribute is a reference list.
* A relation leads to an object type, and every declaration of it is abstract.
* A datagroup type is not declared. -/
def Dangling (model : InformationModel) (target : String) : MemberDeclaration → Prop
  | .ofAttribute declared => declared.datatype = some target ∧ ∃ datatype,
      model.datatypes.find? (fun datatype => datatype.name == target) = some datatype ∧
        datatype.form = .referenceList
  | .ofRelation declared => declared.target = some target ∧
      (∃ objectType ∈ model.objectTypes, objectType.name = target) ∧
        ∀ objectType ∈ model.objectTypes, objectType.name = target → objectType.isAbstract = true
  | .ofDatagroup reference => reference.datagroupType = target ∧
      ∀ datagroupType ∈ model.datagroupTypes, datagroupType.name ≠ target

/-- **The target of a member is never missing.**

* The datatype of an attribute is declared as a structured one.
* The target of a relation is declared as a concrete object type.
* A datagroup type is declared. -/
def Anchored (model : InformationModel) : MemberDeclaration → Prop
  | .ofAttribute declared => ∃ datatype ∈ model.datatypes,
      declared.datatype = some datatype.name ∧ datatype.dataElements?.isSome = true
  | .ofRelation declared => ∃ objectType ∈ model.objectTypes,
      declared.target = some objectType.name ∧ objectType.isAbstract = false
  | .ofDatagroup reference => ∃ datagroupType ∈ model.datagroupTypes,
      reference.datagroupType = datagroupType.name

end InformationModel

namespace Mapper

variable {mapper : Mapper} {model : InformationModel} {aliasName : Option String} {result : Model}

/-- **A property of an object type comes from a member.** A declaration becomes the object type, its
supplier of the name declares the member, and the member becomes the property. -/
def ComesFrom (mapper : Mapper) (model : InformationModel) (objectType : ObjectType)
    (property : Property) (origin : MemberDeclaration) : Prop :=
  ∃ declaration ∈ model.declarations,
    ((mapper.passOver model).emit declaration).outcome = .ok (some objectType) ∧
    ∃ element, (mapper.passOver model).supplier? declaration property.name = some element ∧
      origin ∈ element.members.declarations ∧
      (mapper.passOver model).Becomes element.name origin property

/-- A datatype whose values are objects is declared, first as a structured one or as a reference
list. -/
theorem exists_of_isScalarLike_eq_false {target : String}
    (objects : (mapper.passOver model).resolver.isScalarLike target = false) : ∃ datatype,
      model.datatypes.find? (fun datatype => datatype.name == target) = some datatype ∧
        (datatype.dataElements?.isSome = true ∨ datatype.form = .referenceList) := by
  have declared : (mapper.passOver model).resolver.catalogue.datatype? target
      = model.datatypes.find? fun datatype => datatype.name == target :=
    model.datatype?_eq_find? target
  unfold Resolver.isScalarLike at objects
  rw [declared] at objects
  cases first : model.datatypes.find? fun datatype => datatype.name == target with
  | none =>
      rw [first] at objects
      cases objects
  | some datatype =>
      rw [first] at objects
      have notScalar : datatype.isScalarLike = false := objects
      refine ⟨datatype, rfl, ?_⟩
      unfold Datatype.isScalarLike at notScalar
      unfold Datatype.dataElements?
      cases form : datatype.form with
      | structured elements => exact Or.inl rfl
      | referenceList => exact Or.inr rfl
      | _ =>
          rw [form] at notScalar
          cases notScalar

/-- **Every property comes from a member.** -/
theorem exists_comesFrom (mapped : (mapper.map model aliasName).outcome = .ok result)
    {typeName name : String} {objectType : ObjectType}
    (found : result.objectType? typeName = some objectType) {property : Property}
    (carried : objectType.property? name = some property) :
    ∃ origin, mapper.ComesFrom model objectType property origin := by
  obtain ⟨-, -, -, -, types⟩ := map_eq_ok_iff.mp mapped
  obtain ⟨declaration, declared, -, emitted⟩ := (types typeName objectType).mp found
  obtain ⟨rfl, element, properties, supplies, mappedMembers, member⟩ :=
    exists_supplier_of_emit emitted carried
  obtain ⟨origin, listed, becomes⟩ := Pass.exists_becomes_of_mem mappedMembers member
  exact ⟨origin, declaration, declared, emitted, element, supplies, listed, becomes⟩

section Mapped

variable (mapped : (mapper.map model aliasName).outcome = .ok result)

include mapped

/-! What is declared as one of the kinds that are emitted is there. -/

theorem contains_of_emits {declaration : Declaration} (member : declaration ∈ model.declarations)
    (emits : declaration.emits = true) : result.contains declaration.name = true := by
  obtain ⟨objectType, found, -⟩ := exists_objectType?_of_map mapped member emits
  exact Option.isSome_iff_exists.mpr ⟨objectType, found⟩

theorem contains_of_concrete {declared : ObjectTypeDeclaration}
    (member : declared ∈ model.objectTypes) (isConcrete : declared.isAbstract = false) :
    result.contains declared.name = true :=
  contains_of_emits mapped (InformationModel.objectType_mem_declarations.mpr member)
    (Declaration.emits_of_concrete isConcrete)

theorem contains_of_datagroupType {declared : DatagroupTypeDeclaration}
    (member : declared ∈ model.datagroupTypes) : result.contains declared.name = true :=
  contains_of_emits mapped (InformationModel.datagroupType_mem_declarations.mpr member) rfl

theorem contains_of_structured {declared : Datatype} (member : declared ∈ model.datatypes)
    (isStructured : declared.dataElements?.isSome = true) : result.contains declared.name = true :=
  contains_of_emits mapped (InformationModel.datatype_mem_declarations.mpr member) isStructured

/-- **Where an anchored member leads**, there is an object type. -/
theorem contains_of_anchored {owner : String} {origin : MemberDeclaration} {relation : Relation}
    (anchored : model.Anchored origin)
    (becomes : (mapper.passOver model).Becomes owner origin (.ofRelation relation)) :
    result.contains relation.target = true := by
  cases origin with
  | ofAttribute declared =>
      obtain ⟨datatype, member, typed, isStructured⟩ := anchored
      rw [(Pass.target_of_attribute becomes).1] at typed
      rw [Option.some.inj typed]
      exact contains_of_structured mapped member isStructured
  | ofRelation declared =>
      obtain ⟨objectType, member, leads, isConcrete⟩ := anchored
      rw [(Pass.target_of_relation becomes).1] at leads
      rw [Option.some.inj leads]
      exact contains_of_concrete mapped member isConcrete
  | ofDatagroup reference =>
      obtain ⟨datagroupType, member, leads⟩ := anchored
      rw [← Pass.target_of_datagroup becomes, leads]
      exact contains_of_datagroupType mapped member

/-- **A member that leads nowhere dangles.** -/
theorem dangling_of_missing {owner : String} {origin : MemberDeclaration} {relation : Relation}
    (becomes : (mapper.passOver model).Becomes owner origin (.ofRelation relation))
    (missing : result.contains relation.target = false) :
    model.Dangling relation.target origin := by
  cases origin with
  | ofAttribute declared =>
      obtain ⟨typed, objects⟩ := Pass.target_of_attribute becomes
      obtain ⟨datatype, first, form⟩ := exists_of_isScalarLike_eq_false objects
      refine ⟨typed, datatype, first, form.resolve_left fun isStructured => ?_⟩
      have member := List.mem_of_find?_eq_some first
      have named : datatype.name = relation.target := by simpa using List.find?_some first
      rw [← named, contains_of_structured mapped member isStructured] at missing
      cases missing
  | ofRelation declared =>
      obtain ⟨leads, known⟩ := Pass.target_of_relation becomes
      obtain ⟨objectType, first⟩ := Option.isSome_iff_exists.mp known
      obtain ⟨counts, named⟩ := InformationModel.objectType?_eq_some_iff.mp first
      refine ⟨leads, ⟨objectType, mem_of_mem_firstsFrom counts, named⟩, ?_⟩
      intro other member same
      by_contra isConcrete
      rw [← same, contains_of_concrete mapped member (by simpa using isConcrete)] at missing
      cases missing
  | ofDatagroup reference =>
      have leads := Pass.target_of_datagroup becomes
      refine ⟨leads, ?_⟩
      intro datagroupType member same
      rw [← same, contains_of_datagroupType mapped member] at missing
      cases missing

/-- **Relations lead to object types of the model**, or the members that they come from dangle.
Every relation comes from a member. Where its target is missing, that member dangles; where that
member is anchored, the target is there. -/
theorem references_closed {typeName name : String} {objectType : ObjectType}
    (found : result.objectType? typeName = some objectType) {relation : Relation}
    (carried : objectType.property? name = some (.ofRelation relation)) :
    (∃ origin, mapper.ComesFrom model objectType (.ofRelation relation) origin) ∧
    ∀ origin, mapper.ComesFrom model objectType (.ofRelation relation) origin →
      (result.contains relation.target = false → model.Dangling relation.target origin) ∧
      (model.Anchored origin → result.contains relation.target = true) := by
  refine ⟨exists_comesFrom mapped found carried, ?_⟩
  rintro origin ⟨-, -, -, element, -, -, becomes⟩
  exact ⟨dangling_of_missing mapped becomes,
    fun anchored => contains_of_anchored mapped anchored becomes⟩

end Mapped

/-- `T` takes over `von` from `A`, which another package declares. It leads to a reference list. -/
def outward : InformationModel where
  name := "M"
  packages := [
    { name := "P"
      objectTypes := [{ name := "T", supertypes := ["A"] }]
      datatypes := [{ name := "Lieferanten", form := .referenceList }] },
    { name := "Q"
      objectTypes := [
        { name := "A", isAbstract := true,
          members := { attributes := [{ name := "von", datatype := some "Lieferanten" }] } }] }]

theorem references_closed_outward : ∃ result objectType relation,
    (map {} outward none).outcome = .ok result ∧ result.objectType? "T" = some objectType ∧
      objectType.property? "von" = some (.ofRelation relation) ∧
      result.contains relation.target = false ∧
      ∃ origin, ({} : Mapper).ComesFrom outward objectType (.ofRelation relation) origin ∧
        outward.Dangling relation.target origin := by
  obtain ⟨result, objectType, relation, mapped, found, carried, missing⟩ :
      ∃ result objectType relation, (map {} outward none).outcome = .ok result ∧
        result.objectType? "T" = some objectType ∧
        objectType.property? "von" = some (.ofRelation relation) ∧
        result.contains relation.target = false := ⟨_, _, _, rfl, rfl, rfl, rfl⟩
  obtain ⟨⟨origin, comes⟩, leads⟩ := references_closed mapped found carried
  exact ⟨result, objectType, relation, mapped, found, carried, missing, origin, comes,
    (leads origin comes).1 missing⟩

end Mapper

end InfoModel
