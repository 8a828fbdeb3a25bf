/-
**What a flat object type consists of.**

A flat object type is described here without the walk along its lineage.

* `InformationModel.Drops`: a relation that leads to no declared object type is dropped.
  `InformationModel.Offers`: members offer every other one under its name, and these are the names
  that count (`mem_memberNames_iff`);
* `Mapper.Image` says field by field what a member is mapped to (`becomes_iff`);
* `InformationModel.FirstOffer`: the first type of a lineage that offers a member of a name;
* `properties_flattened`: the properties of an object type are the images of the first offers, and
  who makes a first offer derives from all others who make one.
-/

import InfoModel.Proofs.Mapping.MostDerived
import InfoModel.Proofs.Mapping.References

namespace InfoModel

/-- The name of a member. -/
def MemberDeclaration.name : MemberDeclaration → String
  | .ofAttribute declared => declared.name
  | .ofRelation declared => declared.name
  | .ofDatagroup reference => reference.name

/-! ### Offers -/

namespace InformationModel

/-- **A dropped member** is a relation that has no target, or whose target is not declared as an
object type. -/
def Drops (model : InformationModel) : MemberDeclaration → Prop
  | .ofRelation declared => ∀ target, declared.target = some target →
      ∀ objectType ∈ model.objectTypes, objectType.name ≠ target
  | .ofAttribute _ | .ofDatagroup _ => False

/-- **Members offer one of them** under its name, unless it is dropped. -/
structure Offers (model : InformationModel) (members : Members) (name : String)
    (origin : MemberDeclaration) : Prop where
  listed : origin ∈ members.declarations
  named : origin.name = name
  kept : ¬ model.Drops origin

/-- **The first offer** of a name along a lineage. -/
structure FirstOffer (model : InformationModel) (lineage : List ObjectTypeDeclaration)
    (name : String) (declarer : ObjectTypeDeclaration) (origin : MemberDeclaration) : Prop where
  offers : model.Offers declarer.members name origin
  first : ∃ front back, lineage = front ++ declarer :: back ∧
    ∀ earlier ∈ front, ∀ other, ¬ model.Offers earlier.members name other

end InformationModel

/-! ### Images -/

/-- **What a member is mapped to.**

* An attribute, unless the values of its datatype are objects, to an attribute of the value type
  that its datatype or choice is resolved to.
* An attribute whose values are objects to a relation to its datatype, without an inverse.
* A relation to a relation with the same target and inverse; seen from there it occurs any number of
  times, unless declared otherwise.
* A reference to a datagroup type to a relation to that type, which is no part of the key. -/
inductive Mapper.Image (mapper : Mapper) (model : InformationModel) (owner : String) :
    MemberDeclaration → Property → Prop where
  | scalar {declared : AttributeDeclaration} {typeName : String} {valueType : ValueType}
      (scalars : ∀ datatype, declared.datatype = some datatype →
        (mapper.passOver model).resolver.isScalarLike datatype = true)
      (resolved : ((mapper.passOver model).resolver.scalarName owner declared).outcome
        = .ok typeName)
      (created : (mapper.passOver model).valueType typeName = .ok valueType) :
      Image mapper model owner (.ofAttribute declared)
        (.ofAttribute {
          name := declared.name
          identifier := declared.identifier
          valueType := valueType
          cardinality := Cardinality.ofOccurrence? declared.occurrence .optional })
  | structural {declared : AttributeDeclaration} {datatype : String}
      (typed : declared.datatype = some datatype)
      (objects : (mapper.passOver model).resolver.isScalarLike datatype = false) :
      Image mapper model owner (.ofAttribute declared)
        (.ofRelation {
          name := declared.name
          identifier := declared.identifier
          target := datatype
          cardinality := Cardinality.ofOccurrence? declared.occurrence .optional
          inverseName := none
          inverseCardinality := none })
  | relation {declared : RelationDeclaration} {target : String}
      (leads : declared.target = some target) :
      Image mapper model owner (.ofRelation declared)
        (.ofRelation {
          name := declared.name
          identifier := declared.identifier
          target := target
          cardinality := Cardinality.ofOccurrence? declared.occurrence .optional
          inverseName := declared.inverseName
          inverseCardinality :=
            some (Cardinality.ofOccurrence? declared.inverseOccurrence .multi) })
  | datagroup {reference : DatagroupReference} :
      Image mapper model owner (.ofDatagroup reference)
        (.ofRelation {
          name := reference.name
          identifier := false
          target := reference.datagroupType
          cardinality := Cardinality.ofOccurrence? reference.occurrence .optional
          inverseName := none
          inverseCardinality := none })

namespace Resolver

variable {resolver : Resolver} {declared : AttributeDeclaration} {owner : String}

theorem structuralTarget?_eq_none_iff : resolver.structuralTarget? declared = none ↔
    ∀ datatype, declared.datatype = some datatype → resolver.isScalarLike datatype = true := by
  unfold structuralTarget?
  cases declared.datatype with
  | none => simp
  | some datatype => cases resolver.isScalarLike datatype <;> simp

theorem member_eq_ok_relation_iff {target : String} :
    (resolver.member owner declared).outcome = .ok (.relation target) ↔
      resolver.structuralTarget? declared = some target := by
  constructor
  · intro resolved
    exact structuralTarget?_eq_some_iff.mpr (member_eq_ok_relation resolved)
  · intro structural
    unfold member
    rw [structural]
    rfl

theorem member_eq_ok_scalar_iff {name : String} :
    (resolver.member owner declared).outcome = .ok (.scalar name) ↔
      resolver.structuralTarget? declared = none ∧
        (resolver.scalarName owner declared).outcome = .ok name := by
  unfold member
  cases structural : resolver.structuralTarget? declared with
  | some target => exact iff_of_false (by rintro ⟨⟩) (by rintro ⟨⟨⟩, -⟩)
  | none =>
      rw [and_iff_right rfl]
      show ((resolver.scalarName owner declared) >>= _).outcome = _ ↔ _
      rw [Recorded.outcome_bind_eq_ok_iff]
      constructor
      · rintro ⟨_, found, made⟩
        obtain ⟨rfl⟩ := ResolvedType.scalar.inj (Recorded.outcome_pure_eq_ok_iff.mp made)
        exact found
      · exact fun found => ⟨name, found, rfl⟩

end Resolver

namespace Mapper

variable {mapper : Mapper} {model : InformationModel} {owner name : String} {members : Members}
  {origin : MemberDeclaration} {property : Property}

/-! ### Members -/

theorem isSome_objectType?_iff : (model.catalogue.objectType? name).isSome = true ↔
    ∃ objectType ∈ model.objectTypes, objectType.name = name := by
  rw [InformationModel.objectType?_eq_find?, List.find?_isSome]
  simp only [beq_iff_eq]

/-- A relation that is not dropped leads to its target. -/
theorem target?_eq_some_iff {declared : RelationDeclaration} {target : String} :
    (mapper.passOver model).target? declared = some target ↔
      declared.target = some target ∧ ¬ model.Drops (.ofRelation declared) := by
  unfold Pass.target? InformationModel.Drops
  cases named : declared.target with
  | none => simp
  | some other =>
      show (if (model.catalogue.objectType? other).isSome = true then some other else none)
        = some target ↔ _
      rw [Option.ite_none_right_eq_some, isSome_objectType?_iff, and_comm]
      simp [named]

theorem not_drops_relation_iff {declared : RelationDeclaration} :
    ¬ model.Drops (.ofRelation declared) ↔
      ((mapper.passOver model).target? declared).isSome = true := by
  rw [Option.isSome_iff_exists]
  simp only [target?_eq_some_iff]
  constructor
  · intro kept
    cases named : declared.target with
    | none => exact absurd (fun target leads => nomatch named.symm.trans leads) kept
    | some target => exact ⟨target, rfl, kept⟩
  · exact fun ⟨_, _, kept⟩ => kept

/-- **The names that count are those of the members offered.** -/
theorem mem_memberNames_iff :
    name ∈ (mapper.passOver model).memberNames members ↔
      ∃ origin, model.Offers members name origin := by
  unfold Pass.memberNames
  simp only [List.mem_append, List.mem_map, List.mem_filter]
  constructor
  · rintro ((⟨declared, listed, rfl⟩ | ⟨declared, ⟨listed, leads⟩, rfl⟩) | ⟨reference, listed, rfl⟩)
    · exact ⟨.ofAttribute declared, by simpa [Members.declarations] using listed, rfl, id⟩
    · exact ⟨.ofRelation declared, by simpa [Members.declarations] using listed, rfl,
        not_drops_relation_iff.mpr leads⟩
    · exact ⟨.ofDatagroup reference, by simpa [Members.declarations] using listed, rfl, id⟩
  · rintro ⟨origin, listed, rfl, kept⟩
    cases origin with
    | ofAttribute declared =>
        exact Or.inl (Or.inl ⟨declared, by simpa [Members.declarations] using listed, rfl⟩)
    | ofRelation declared =>
        exact Or.inl (Or.inr ⟨declared, ⟨by simpa [Members.declarations] using listed,
          not_drops_relation_iff.mp kept⟩, rfl⟩)
    | ofDatagroup reference =>
        exact Or.inr ⟨reference, by simpa [Members.declarations] using listed, rfl⟩

theorem member_eq_ok_iff_image {declared : AttributeDeclaration} :
    ((mapper.passOver model).member owner declared).outcome = .ok property ↔
      mapper.Image model owner (.ofAttribute declared) property := by
  unfold Pass.member
  rw [Recorded.outcome_bind_eq_ok_iff]
  constructor
  · rintro ⟨typeName | target, resolved, made⟩
    · obtain ⟨valueType, created, made⟩ := Recorded.outcome_bind_eq_ok_iff.mp made
      obtain rfl := Recorded.outcome_pure_eq_ok_iff.mp made
      obtain ⟨scalars, found⟩ := Resolver.member_eq_ok_scalar_iff.mp resolved
      exact .scalar (Resolver.structuralTarget?_eq_none_iff.mp scalars) found created
    · obtain rfl := Recorded.outcome_pure_eq_ok_iff.mp made
      obtain ⟨typed, objects⟩ := Resolver.member_eq_ok_relation resolved
      exact .structural typed objects
  · intro image
    cases image with
    | scalar scalars found created =>
        exact ⟨_, Resolver.member_eq_ok_scalar_iff.mpr
            ⟨Resolver.structuralTarget?_eq_none_iff.mpr scalars, found⟩,
          Recorded.outcome_bind_eq_ok_iff.mpr ⟨_, created, rfl⟩⟩
    | structural typed objects =>
        exact ⟨_, Resolver.member_eq_ok_relation_iff.mpr
          (Resolver.structuralTarget?_eq_some_iff.mpr ⟨typed, objects⟩), rfl⟩

theorem relation?_eq_some_iff_image {declared : RelationDeclaration} :
    (mapper.passOver model).relation? declared = some property ↔
      ¬ model.Drops (.ofRelation declared) ∧
        mapper.Image model owner (.ofRelation declared) property := by
  unfold Pass.relation?
  rw [Option.map_eq_some_iff]
  simp only [target?_eq_some_iff]
  constructor
  · rintro ⟨target, ⟨leads, kept⟩, rfl⟩
    exact ⟨kept, .relation leads⟩
  · rintro ⟨kept, image⟩
    cases image with
    | relation leads => exact ⟨_, ⟨leads, kept⟩, rfl⟩

/-- **A member becomes its image**, unless it is dropped. -/
theorem becomes_iff : (mapper.passOver model).Becomes owner origin property ↔
    ¬ model.Drops origin ∧ mapper.Image model owner origin property := by
  cases origin with
  | ofAttribute declared => exact member_eq_ok_iff_image.trans (and_iff_right id).symm
  | ofRelation declared => exact relation?_eq_some_iff_image
  | ofDatagroup reference =>
      refine Iff.trans ?_ (and_iff_right id).symm
      constructor
      · rintro rfl
        exact .datagroup
      · intro image
        cases image with
        | datagroup => rfl

/-- An image keeps the name of its member. -/
theorem Image.name_eq (image : mapper.Image model owner origin property) :
    property.name = origin.name := by
  cases image <;> rfl

/-- The members of an element become the images of what it offers. -/
theorem mem_properties_iff {properties : List Property}
    (mapped : ((mapper.passOver model).members owner members).outcome = .ok properties) :
    property ∈ properties ∧ property.name = name ↔ ∃ origin,
      model.Offers members name origin ∧ mapper.Image model owner origin property := by
  constructor
  · rintro ⟨member, rfl⟩
    obtain ⟨origin, listed, becomes⟩ := Pass.exists_becomes_of_mem mapped member
    obtain ⟨kept, image⟩ := becomes_iff.mp becomes
    exact ⟨origin, ⟨listed, image.name_eq.symm, kept⟩, image⟩
  · rintro ⟨origin, ⟨listed, rfl, kept⟩, image⟩
    exact ⟨Pass.mem_of_becomes mapped listed (becomes_iff.mpr ⟨kept, image⟩), image.name_eq⟩

/-! ### Lineages -/

variable {lineage : List ObjectTypeDeclaration} {declarer : ObjectTypeDeclaration}

/-- The first declarer of a name makes the first offer. -/
theorem firstDeclarer?_eq_some_iff (mapper : Mapper) :
    (mapper.passOver model).firstDeclarer? lineage name = some declarer ↔
      ∃ origin, model.FirstOffer lineage name declarer origin := by
  have offering (element : ObjectTypeDeclaration) :
      decide (name ∈ (mapper.passOver model).memberNames element.members) = true ↔
        ∃ origin, model.Offers element.members name origin :=
    decide_eq_true_iff.trans mem_memberNames_iff
  unfold Pass.firstDeclarer?
  rw [List.find?_eq_some_iff_append, offering]
  constructor
  · rintro ⟨⟨origin, offers⟩, front, back, split, before⟩
    refine ⟨origin, offers, front, back, split, fun earlier member other offered => ?_⟩
    have silent := before earlier member
    rw [(offering earlier).mpr ⟨other, offered⟩] at silent
    cases silent
  · rintro ⟨origin, offers, front, back, split, before⟩
    refine ⟨⟨origin, offers⟩, front, back, split, fun earlier member => ?_⟩
    rw [Bool.not_eq_true', ← Bool.not_eq_true, offering]
    rintro ⟨other, offered⟩
    exact before earlier member other offered

/-! ### Object types -/

section Built

variable {declared : ObjectTypeDeclaration} {objectType : ObjectType}
  (built : ((mapper.passOver model).objectType declared).outcome = .ok objectType)

include built

/-- **A property is the image of the first offer** of its name. -/
theorem property?_eq_some_iff_image : objectType.property? name = some property ↔
    ∃ declarer origin,
      model.FirstOffer ((mapper.passOver model).lineage declared) name declarer origin ∧
        mapper.Image model declarer.name origin property := by
  obtain ⟨⟨maps, -⟩, -, -, carries⟩ :=
    (Pass.objectType_eq_ok_iff (nodup_map_name_lineage mapper model declared)).mp built
  have own {declarer : ObjectTypeDeclaration} (first : (mapper.passOver model).firstDeclarer?
        ((mapper.passOver model).lineage declared) name = some declarer) :
      property ∈ (mapper.passOver model).ownProperties declarer ∧ property.name = name ↔
        ∃ origin, model.Offers declarer.members name origin ∧
          mapper.Image model declarer.name origin property :=
    mem_properties_iff (Pass.members_eq_ok_iff_ownProperties.mpr
      ⟨maps declarer (Pass.firstDeclarer?_eq_some first).1, rfl⟩)
  rw [carries]
  constructor
  · rintro ⟨declarer, first, owns⟩
    obtain ⟨origin, offers, image⟩ := (own first).mp owns
    obtain ⟨_, firstOffer⟩ := (firstDeclarer?_eq_some_iff mapper).mp first
    exact ⟨declarer, origin, ⟨offers, firstOffer.first⟩, image⟩
  · rintro ⟨declarer, origin, firstOffer, image⟩
    have first := (firstDeclarer?_eq_some_iff mapper).mpr ⟨origin, firstOffer⟩
    exact ⟨declarer, first, (own first).mpr ⟨origin, firstOffer.offers, image⟩⟩

/-- An object type has a property of every name that its lineage offers. -/
theorem exists_property?_iff : (∃ property, objectType.property? name = some property) ↔
    ∃ declarer ∈ (mapper.passOver model).lineage declared, ∃ origin,
      model.Offers declarer.members name origin := by
  obtain ⟨⟨maps, -⟩, -, -, carries⟩ :=
    (Pass.objectType_eq_ok_iff (nodup_map_name_lineage mapper model declared)).mp built
  constructor
  · rintro ⟨property, found⟩
    obtain ⟨declarer, first, -⟩ := (carries name property).mp found
    obtain ⟨inLineage, named⟩ := Pass.firstDeclarer?_eq_some first
    exact ⟨declarer, inLineage, mem_memberNames_iff.mp named⟩
  · rintro ⟨declarer, inLineage, offered⟩
    have declares : (mapper.passOver model).Declares declared name declarer :=
      ⟨inLineage, mem_memberNames_iff.mpr offered⟩
    obtain ⟨earliest, first⟩ := declares.exists_first
    obtain ⟨listed, named⟩ := Pass.firstDeclarer?_eq_some first
    obtain ⟨property, owns, same⟩ := Pass.exists_ownProperty (maps earliest listed) named
    exact ⟨property, (carries name property).mpr ⟨earliest, first, owns, same⟩⟩

/-- Who makes the first offer derives from all others who offer the name. -/
theorem derives_of_firstOffer
    (firstOffer : model.FirstOffer ((mapper.passOver model).lineage declared) name declarer origin)
    {other : ObjectTypeDeclaration} (inLineage : other ∈ (mapper.passOver model).lineage declared)
    (different : other ≠ declarer) (offered : ∃ offer, model.Offers other.members name offer) :
    model.objectTypeHierarchy.Derives declarer.name other.name := by
  have nodup := nodup_map_name_lineage mapper model declared
  obtain ⟨⟨-, clashless⟩, -⟩ := (Pass.objectType_eq_ok_iff nodup).mp built
  have first := (firstDeclarer?_eq_some_iff mapper).mpr ⟨origin, firstOffer⟩
  have mostDerived := (Pass.clashless_iff_mostDerived nodup model.closed_objectTypeHierarchy).mp
    clashless name declarer first
  refine mostDerived.below other ⟨inLineage, mem_memberNames_iff.mpr offered⟩ fun same => ?_
  exact different (Pass.eq_of_name_eq nodup inLineage mostDerived.inLineage same)

end Built

/-- **Flattening comes to its description.** A concrete object type has a property of a name just if
a type of its lineage offers a member of that name, and then the property is the image of the first
offer along the lineage. Who makes it derives from all others who offer the name. Dropped relations
are no offers: they neither take the name nor hide what is taken over. -/
theorem properties_flattened {aliasName : Option String} {result : Model}
    (mapped : (mapper.map model aliasName).outcome = .ok result)
    {declared : ObjectTypeDeclaration} (member : declared ∈ model.objectTypes)
    (isConcrete : declared.isAbstract = false) :
    ∃ objectType lineage, result.objectType? declared.name = some objectType ∧
      lineage = model.catalogue.lineage declared mapper.settings.includeInherited ∧
      ∀ name,
        ((∃ property, objectType.property? name = some property) ↔
          ∃ declarer ∈ lineage, ∃ origin, model.Offers declarer.members name origin) ∧
        (∀ property, objectType.property? name = some property ↔ ∃ declarer origin,
          model.FirstOffer lineage name declarer origin ∧
            mapper.Image model declarer.name origin property) ∧
        ∀ declarer origin, model.FirstOffer lineage name declarer origin →
          ∀ other ∈ lineage, other ≠ declarer →
            (∃ offer, model.Offers other.members name offer) →
              model.objectTypeHierarchy.Derives declarer.name other.name := by
  obtain ⟨objectType, found, emitted⟩ := exists_objectType?_of_concrete mapped member isConcrete
  have built := (Pass.concrete_eq_ok_some_iff isConcrete).mp emitted
  refine ⟨objectType, _, found, rfl, fun name => ⟨exists_property?_iff built,
    fun property => property?_eq_some_iff_image built, ?_⟩⟩
  intro declarer origin firstOffer other inLineage different offered
  exact derives_of_firstOffer built firstOffer inLineage different offered

/-! ### Bridges and their owners -/

/-- The owner of a road. -/
def ownerOfRoad : AttributeDeclaration where
  name := "owner"
  identifier := true
  datatype := some "CharacterString"

/-- The label of a bridge, and in the same way that of a road. -/
def sign : AttributeDeclaration where
  name := "label"
  datatype := some "CharacterString"

/-- A bridge, whose own `owner` leads nowhere. -/
def bridge : ObjectTypeDeclaration where
  name := "Bridge"
  supertypes := ["Road"]
  members := { attributes := [sign], relations := [{ name := "owner" }] }

/-- A road, which has an owner and a label. -/
def road : ObjectTypeDeclaration where
  name := "Road"
  isAbstract := true
  members := { attributes := [sign, ownerOfRoad] }

/-- Bridges and roads. -/
def crossings : InformationModel where
  name := "M"
  packages := [{ name := "P", objectTypes := [bridge, road] }]

/-- The owner of a bridge is that of the road, its label its own. -/
theorem properties_flattened_bridge : ∃ result objectType,
    (map {} crossings none).outcome = .ok result ∧ bridge ∈ crossings.objectTypes ∧
      bridge.isAbstract = false ∧ result.objectType? "Bridge" = some objectType ∧
      crossings.Drops (.ofRelation { name := "owner" }) ∧
      objectType.property? "owner" = some (.ofAttribute ⟨"owner", true, .string, .optional⟩) ∧
      crossings.objectTypeHierarchy.Derives "Bridge" "Road" := by
  obtain ⟨result, mapped⟩ : ∃ result, (map {} crossings none).outcome = .ok result := ⟨_, rfl⟩
  have member : bridge ∈ crossings.objectTypes := List.mem_cons_self
  obtain ⟨objectType, lineage, found, isLineage, each⟩ := properties_flattened mapped member rfl
  obtain rfl : lineage = [bridge, road] := isLineage
  have drops : crossings.Drops (.ofRelation { name := "owner" }) := nofun
  have ownerOffer : crossings.FirstOffer [bridge, road] "owner" road
      (.ofAttribute ownerOfRoad) := by
    refine ⟨⟨List.mem_cons_of_mem _ List.mem_cons_self, rfl, id⟩, [bridge], [], rfl, ?_⟩
    rintro earlier isBridge other ⟨listed, named, kept⟩
    rw [List.mem_singleton.mp isBridge] at listed
    rcases List.mem_cons.mp listed with rfl | isOwner
    · exact absurd named (by decide)
    · exact kept (List.mem_singleton.mp isOwner ▸ drops)
  have labelOffer : crossings.FirstOffer [bridge, road] "label" bridge (.ofAttribute sign) :=
    ⟨⟨List.mem_cons_self, rfl, id⟩, [], [road], rfl, nofun⟩
  refine ⟨result, objectType, mapped, member, rfl, found, drops, ?_, ?_⟩
  · refine ((each "owner").2.1 _).mpr ⟨road, _, ownerOffer, .scalar ?_ rfl rfl⟩
    rintro _ ⟨⟩
    rfl
  · exact (each "label").2.2 bridge _ labelOffer road (by simp) (by decide)
      ⟨.ofAttribute sign, List.mem_cons_self, rfl, id⟩

end Mapper

end InfoModel
