/-
**The order of supertypes.**

A type lists its supertypes in an order, which decides the order of its lineage and nothing else.

* `InformationModel.withSupertypes` gives the object types of a model new supertype lists. Where
  every new list is a permutation of the old one, the types derive from the same types as before
  (`derives_withSupertypes_iff`) and the lineages consist of the same types
  (`mem_lineage_withSupertypes_iff`);
* `contested_withSupertypes_iff` and `mostDerived_withSupertypes_iff`: the most derived declarers
  stay the same, so only the names that are overtaken depend on the order. They decide whether an
  object type is mapped, and not which properties it then has.
-/

import InfoModel.Proofs.Mapping.MostDerived

namespace InfoModel

/-! ### New supertype lists -/

/-- The object type with a new list of supertypes. -/
def ObjectTypeDeclaration.withSupertypes (order : ObjectTypeDeclaration → List String)
    (declared : ObjectTypeDeclaration) : ObjectTypeDeclaration :=
  { declared with supertypes := order declared }

/-- The model whose object types have new lists of supertypes. -/
def InformationModel.withSupertypes (model : InformationModel)
    (order : ObjectTypeDeclaration → List String) : InformationModel :=
  { model with packages := model.packages.map fun package =>
      { package with
        objectTypes := package.objectTypes.map (ObjectTypeDeclaration.withSupertypes order) } }

/-- Items that keep their names under a function keep their place. -/
theorem firstsFrom_map {α : Type} {nameOf : α → String} (change : α → α)
    (keeps : ∀ item, nameOf (change item) = nameOf item) (seen : List String) (items : List α) :
    firstsFrom nameOf seen (items.map change) = (firstsFrom nameOf seen items).map change := by
  induction items generalizing seen with
  | nil => rfl
  | cons head rest ih =>
      rw [List.map_cons, firstsFrom, firstsFrom, keeps]
      split
      · exact ih seen
      · rw [List.map_cons, ih]

namespace InformationModel

variable {model : InformationModel} {order : ObjectTypeDeclaration → List String}

theorem objectTypes_withSupertypes : (model.withSupertypes order).objectTypes
    = model.objectTypes.map (ObjectTypeDeclaration.withSupertypes order) := by
  unfold withSupertypes objectTypes
  rw [List.flatMap_map, List.map_flatMap]

theorem datatypes_withSupertypes :
    (model.withSupertypes order).datatypes = model.datatypes := by
  unfold withSupertypes datatypes
  rw [List.flatMap_map]

theorem objectTypesOf_withSupertypes : Catalogue.objectTypesOf (model.withSupertypes order)
    = (Catalogue.objectTypesOf model).map (ObjectTypeDeclaration.withSupertypes order) := by
  unfold Catalogue.objectTypesOf
  rw [objectTypes_withSupertypes,
    firstsFrom_map (ObjectTypeDeclaration.withSupertypes order) fun _ => rfl]

theorem datatypesOf_withSupertypes :
    Catalogue.datatypesOf (model.withSupertypes order) = Catalogue.datatypesOf model := by
  unfold Catalogue.datatypesOf
  rw [datatypes_withSupertypes]

theorem datatypeHierarchy_withSupertypes :
    (model.withSupertypes order).datatypeHierarchy = model.datatypeHierarchy := by
  unfold datatypeHierarchy
  rw [datatypesOf_withSupertypes]

/-! ### Derivation -/

section Permuted

variable (permutes : ∀ declared, (order declared).Perm declared.supertypes)

include permutes

theorem derives_withSupertypes_iff {subtype supertype : String} :
    (model.withSupertypes order).objectTypeHierarchy.Derives subtype supertype ↔
      model.objectTypeHierarchy.Derives subtype supertype := by
  have edges : (model.withSupertypes order).objectTypeHierarchy.Extends
      = model.objectTypeHierarchy.Extends := by
    funext first second
    unfold objectTypeHierarchy
    rw [objectTypesOf_withSupertypes, List.map_map]
    simp only [Hierarchy.extends_ofDeclarations, List.mem_map, Function.comp_apply, Prod.mk.injEq,
      eq_iff_iff]
    constructor
    · rintro ⟨_, ⟨declared, member, rfl, rfl⟩, named⟩
      exact ⟨_, ⟨declared, member, rfl, rfl⟩, (permutes declared).mem_iff.mp named⟩
    · rintro ⟨_, ⟨declared, member, rfl, rfl⟩, named⟩
      exact ⟨_, ⟨declared, member, rfl, rfl⟩, (permutes declared).mem_iff.mpr named⟩
  unfold Hierarchy.Derives
  rw [edges]

theorem acyclic_withSupertypes_iff :
    (model.withSupertypes order).Acyclic ↔ model.Acyclic := by
  unfold Acyclic Hierarchy.Acyclic
  rw [datatypeHierarchy_withSupertypes]
  simp only [derives_withSupertypes_iff permutes]

end Permuted

end InformationModel

/-! ### The pass -/

namespace Mapper

variable {mapper : Mapper} {model : InformationModel}
  {order : ObjectTypeDeclaration → List String} {declared declarer : ObjectTypeDeclaration}
  {name : String}

theorem objectType?_withSupertypes (name : String) :
    (model.withSupertypes order).catalogue.objectType? name
      = (model.catalogue.objectType? name).map (ObjectTypeDeclaration.withSupertypes order) := by
  show (Catalogue.objectTypesOf (model.withSupertypes order)).find? _ = _
  rw [InformationModel.objectTypesOf_withSupertypes, List.find?_map]
  rfl

/-- The supertype lists have no part in the mapping of members. -/
theorem agrees_withSupertypes (mapper : Mapper) (model : InformationModel)
    (order : ObjectTypeDeclaration → List String) :
    (mapper.passOver model).Agrees (mapper.passOver (model.withSupertypes order)) := by
  have datatypes : (mapper.passOver model).resolver.catalogue.datatypes
      = (mapper.passOver (model.withSupertypes order)).resolver.catalogue.datatypes :=
    InformationModel.datatypesOf_withSupertypes.symm
  have hierarchy : (mapper.passOver model).resolver.catalogue.datatypeHierarchy
      = (mapper.passOver (model.withSupertypes order)).resolver.catalogue.datatypeHierarchy :=
    InformationModel.datatypeHierarchy_withSupertypes.symm
  refine ⟨rfl, fun name => ?_, fun name => ?_, fun name => ?_, fun name ancestor => ?_,
    fun name => ?_⟩
  · unfold Resolver.isScalarLike Catalogue.datatype?
    rw [datatypes]
  · unfold Resolver.isDeclaredText Catalogue.datatype?
    rw [datatypes]
  · unfold Resolver.base
    rw [hierarchy]
  · exact congrArg (fun found => Hierarchy.isSubtype found name ancestor) hierarchy
  · show _ = ((model.withSupertypes order).catalogue.objectType? name).isSome
    rw [objectType?_withSupertypes, Option.isSome_map]
    rfl

theorem memberNames_withSupertypes (declared : ObjectTypeDeclaration) :
    (mapper.passOver (model.withSupertypes order)).memberNames
        (declared.withSupertypes order).members
      = (mapper.passOver model).memberNames declared.members :=
  ((agrees_withSupertypes mapper model order).memberNames declared.members).symm

theorem mapsMembers_withSupertypes_iff (declared : ObjectTypeDeclaration) :
    (mapper.passOver (model.withSupertypes order)).MapsMembers (declared.withSupertypes order) ↔
      (mapper.passOver model).MapsMembers declared := by
  unfold Pass.MapsMembers
  rw [(agrees_withSupertypes mapper model order).members]
  rfl

theorem ownProperties_withSupertypes (declared : ObjectTypeDeclaration) :
    (mapper.passOver (model.withSupertypes order)).ownProperties (declared.withSupertypes order)
      = (mapper.passOver model).ownProperties declared := by
  unfold Pass.ownProperties
  rw [(agrees_withSupertypes mapper model order).members]
  rfl

section Permuted

variable (inherited : mapper.settings.includeInherited = true)
  (permutes : ∀ declared, (order declared).Perm declared.supertypes)

include inherited permutes

/-- **The lineages consist of the same types.** -/
theorem mem_lineage_withSupertypes_iff :
    declarer ∈ (mapper.passOver (model.withSupertypes order)).lineage
        (declared.withSupertypes order) ↔
      ∃ original ∈ (mapper.passOver model).lineage declared,
        declarer = original.withSupertypes order := by
  unfold Pass.lineage
  show declarer ∈ (model.withSupertypes order).catalogue.lineage _
      mapper.settings.includeInherited ↔
    ∃ original ∈ model.catalogue.lineage declared mapper.settings.includeInherited, _
  simp only [inherited, InformationModel.mem_lineage_iff,
    InformationModel.derives_withSupertypes_iff permutes,
    InformationModel.objectTypesOf_withSupertypes, List.mem_map]
  constructor
  · rintro (rfl | ⟨⟨original, member, rfl⟩, above⟩)
    · exact ⟨declared, Or.inl rfl, rfl⟩
    · exact ⟨original, Or.inr ⟨member, above⟩, rfl⟩
  · rintro ⟨original, rfl | ⟨member, above⟩, rfl⟩
    · exact Or.inl rfl
    · exact Or.inr ⟨⟨original, member, rfl⟩, above⟩

theorem declares_withSupertypes_iff :
    (mapper.passOver (model.withSupertypes order)).Declares (declared.withSupertypes order) name
        declarer ↔
      ∃ original, (mapper.passOver model).Declares declared name original ∧
        declarer = original.withSupertypes order := by
  constructor
  · rintro ⟨inLineage, named⟩
    obtain ⟨original, member, rfl⟩ :=
      (mem_lineage_withSupertypes_iff inherited permutes).mp inLineage
    exact ⟨original, ⟨member, memberNames_withSupertypes original ▸ named⟩, rfl⟩
  · rintro ⟨original, ⟨member, named⟩, rfl⟩
    exact ⟨(mem_lineage_withSupertypes_iff inherited permutes).mpr ⟨original, member, rfl⟩,
      (memberNames_withSupertypes original).symm ▸ named⟩

/-- **The most derived declarers stay the same.** -/
theorem mostDerived_withSupertypes_iff :
    (mapper.passOver (model.withSupertypes order)).MostDerived (declared.withSupertypes order) name
        declarer ↔
      ∃ original, (mapper.passOver model).MostDerived declared name original ∧
        declarer = original.withSupertypes order := by
  have derives := @InformationModel.derives_withSupertypes_iff model order permutes
  constructor
  · rintro ⟨declares, below⟩
    obtain ⟨original, originalDeclares, rfl⟩ :=
      (declares_withSupertypes_iff inherited permutes).mp declares
    refine ⟨original, ⟨originalDeclares, fun other otherDeclares different => ?_⟩, rfl⟩
    exact derives.mp (below (other.withSupertypes order)
      ((declares_withSupertypes_iff inherited permutes).mpr ⟨other, otherDeclares, rfl⟩) different)
  · rintro ⟨original, ⟨originalDeclares, below⟩, rfl⟩
    refine ⟨(declares_withSupertypes_iff inherited permutes).mpr ⟨original, originalDeclares, rfl⟩,
      fun changed changedDeclares different => ?_⟩
    obtain ⟨other, otherDeclares, rfl⟩ :=
      (declares_withSupertypes_iff inherited permutes).mp changedDeclares
    exact derives.mpr (below other otherDeclares different)

/-- **A name stays contested or uncontested.** -/
theorem contested_withSupertypes_iff :
    (mapper.passOver (model.withSupertypes order)).Contested (declared.withSupertypes order) name ↔
      (mapper.passOver model).Contested declared name := by
  unfold Pass.Contested
  simp only [declares_withSupertypes_iff inherited permutes,
    mostDerived_withSupertypes_iff inherited permutes]
  refine and_congr ?_ (not_congr ?_)
  · exact ⟨fun ⟨_, original, found, _⟩ => ⟨original, found⟩,
      fun ⟨original, found⟩ => ⟨_, original, found, rfl⟩⟩
  · exact ⟨fun ⟨_, original, found, _⟩ => ⟨original, found⟩,
      fun ⟨original, found⟩ => ⟨_, original, found, rfl⟩⟩

/-- The members of a lineage can be mapped or not, whatever the order. -/
theorem mapsMembers_lineage_withSupertypes
    (maps : ∀ declarer ∈ (mapper.passOver model).lineage declared,
      (mapper.passOver model).MapsMembers declarer) :
    ∀ declarer ∈ (mapper.passOver (model.withSupertypes order)).lineage
        (declared.withSupertypes order),
      (mapper.passOver (model.withSupertypes order)).MapsMembers declarer := by
  intro declarer inLineage
  obtain ⟨original, inOriginal, rfl⟩ :=
    (mem_lineage_withSupertypes_iff inherited permutes).mp inLineage
  exact (mapsMembers_withSupertypes_iff original).mpr (maps original inOriginal)

/-- **An object type that is mapped for both orders has the same properties.** -/
theorem property?_eq_of_withSupertypes (acyclic : model.Acyclic)
    (isConcrete : declared.isAbstract = false) {before after : ObjectType}
    (mappedBefore : ((mapper.passOver model).concrete declared).outcome = .ok (some before))
    (mappedAfter : ((mapper.passOver (model.withSupertypes order)).concrete
      (declared.withSupertypes order)).outcome = .ok (some after)) (name : String) :
    before.property? name = after.property? name := by
  have acyclicToo := (InformationModel.acyclic_withSupertypes_iff permutes).mpr acyclic
  have concreteToo : (declared.withSupertypes order).isAbstract = false := isConcrete
  obtain ⟨-, -, -, foundBefore⟩ :=
    (concrete_eq_ok_some_iff_mostDerived acyclic isConcrete).mp mappedBefore
  obtain ⟨-, -, -, foundAfter⟩ :=
    (concrete_eq_ok_some_iff_mostDerived acyclicToo concreteToo).mp mappedAfter
  refine Option.ext fun property => ?_
  rw [foundBefore, foundAfter]
  simp only [mostDerived_withSupertypes_iff inherited permutes]
  constructor
  · rintro ⟨declarer, mostDerived, own, named⟩
    exact ⟨_, ⟨declarer, mostDerived, rfl⟩,
      (ownProperties_withSupertypes declarer).symm ▸ own, named⟩
  · rintro ⟨_, ⟨declarer, mostDerived, rfl⟩, own, named⟩
    exact ⟨declarer, mostDerived, ownProperties_withSupertypes declarer ▸ own, named⟩

end Permuted

/-! ### Whose member is kept -/

/-- **The most derived declarer's member is kept, or the object type is not mapped at all.**

An object type is not mapped just if a name is contested or overtaken. Reordering supertypes changes
which names are overtaken and so whether the object type is mapped, but not the properties that it
then has. -/
theorem member_of_mostDerived_kept
    (acyclic : model.Acyclic) (inherited : mapper.settings.includeInherited = true)
    (member : declared ∈ model.objectTypes) (isConcrete : declared.isAbstract = false)
    (maps : ∀ declarer ∈ (mapper.passOver model).lineage declared,
      (mapper.passOver model).MapsMembers declarer) :
    (Catalogue.build model).outcome = .ok (mapper.passOver model).catalogue ∧
      ((∃ name, ((mapper.passOver model).concrete declared).outcome
          = .error (.duplicateProperty declared.name name)) ↔
        ∃ name, (mapper.passOver model).Contested declared name ∨
          (mapper.passOver model).Overtaken declared name) ∧
      ((∀ name, ¬ (mapper.passOver model).Contested declared name ∧
          ¬ (mapper.passOver model).Overtaken declared name) →
        ∃ objectType,
          ((mapper.passOver model).concrete declared).outcome = .ok (some objectType) ∧
          objectType.name = declared.name ∧ objectType.supertypes = declared.supertypes ∧
          ∀ name property, objectType.property? name = some property ↔ ∃ declarer,
            (mapper.passOver model).MostDerived declared name declarer ∧
              property ∈ (mapper.passOver model).ownProperties declarer ∧ property.name = name) ∧
      (∀ aliasName result, (mapper.map model aliasName).outcome = .ok result →
        ∃ objectType, result.objectType? declared.name = some objectType ∧
          ((mapper.passOver model).concrete declared).outcome = .ok (some objectType)) ∧
      ∀ order : ObjectTypeDeclaration → List String,
        (∀ other, (order other).Perm other.supertypes) →
        ((∃ objectType, ((mapper.passOver (model.withSupertypes order)).concrete
            (declared.withSupertypes order)).outcome = .ok (some objectType)) ↔
          ∀ name, ¬ (mapper.passOver model).Contested declared name ∧
            ¬ (mapper.passOver (model.withSupertypes order)).Overtaken
              (declared.withSupertypes order) name) ∧
        ∀ before after,
          ((mapper.passOver model).concrete declared).outcome = .ok (some before) →
          ((mapper.passOver (model.withSupertypes order)).concrete
            (declared.withSupertypes order)).outcome = .ok (some after) →
          ∀ name, before.property? name = after.property? name := by
  have emits := Mapper.exists_concrete_eq_ok_iff acyclic maps isConcrete
  refine ⟨Catalogue.build_eq_ok_iff.mpr ⟨acyclic, rfl⟩,
    exists_concrete_eq_duplicateProperty_iff acyclic maps isConcrete, ?_, ?_, ?_⟩
  · intro settled
    obtain ⟨objectType, mapped⟩ := emits.mpr settled
    obtain ⟨-, name, supertypes, found⟩ :=
      (concrete_eq_ok_some_iff_mostDerived acyclic isConcrete).mp mapped
    exact ⟨objectType, mapped, name, supertypes, found⟩
  · intro aliasName result mapped
    exact exists_objectType?_of_concrete mapped member isConcrete
  · intro order permutes
    have acyclicToo := (InformationModel.acyclic_withSupertypes_iff permutes).mpr acyclic
    have concreteToo : (declared.withSupertypes order).isAbstract = false := isConcrete
    have mapsToo := mapsMembers_lineage_withSupertypes inherited permutes maps
    constructor
    · rw [Mapper.exists_concrete_eq_ok_iff acyclicToo mapsToo concreteToo]
      simp only [contested_withSupertypes_iff inherited permutes]
    · intro before after mappedBefore mappedAfter
      exact property?_eq_of_withSupertypes inherited permutes acyclic isConcrete mappedBefore
        mappedAfter

/-! ### A supertype that is named twice

`T` names `A` and `B` as supertypes, and `A` itself derives from `B`. Both declare `code`. -/

/-- An abstract type that declares `code`. -/
def coded (name datatype : String) (supertypes : List String) : ObjectTypeDeclaration where
  name := name
  isAbstract := true
  supertypes := supertypes
  members := { attributes := [{ name := "code", datatype := some datatype }] }

/-- The object type `T`, with its supertypes in this order. -/
def crossed (supertypes : List String) : ObjectTypeDeclaration where
  name := "T"
  supertypes := supertypes

/-- The model of these types. -/
def crossing (supertypes : List String) : InformationModel where
  name := "M"
  packages := [{
    name := "P"
    objectTypes := [
      crossed supertypes,
      coded "A" "CharacterString" ["B"],
      coded "B" "Integer" []] }]

theorem acyclic_crossing : (crossing ["B", "A"]).Acyclic := by
  have built : (Catalogue.build (crossing ["B", "A"])).outcome
      = .ok (crossing ["B", "A"]).catalogue := rfl
  exact (Catalogue.build_eq_ok_iff.mp built).1

theorem lineage_crossing : (passOver {} (crossing ["B", "A"])).lineage (crossed ["B", "A"])
    = [crossed ["B", "A"], coded "B" "Integer" [], coded "A" "CharacterString" ["B"]] := rfl

theorem mapsMembers_crossing :
    ∀ declarer ∈ (passOver {} (crossing ["B", "A"])).lineage (crossed ["B", "A"]),
      (passOver {} (crossing ["B", "A"])).MapsMembers declarer := by
  rw [lineage_crossing]
  simp only [List.forall_mem_cons]
  exact ⟨⟨_, rfl⟩, ⟨_, rfl⟩, ⟨_, rfl⟩, nofun⟩

/-- The member of `A` is not kept: `A` is overtaken. -/
theorem member_of_mostDerived_kept_crossing :
    ((crossing ["B", "A"]).Acyclic ∧ ({} : Mapper).settings.includeInherited = true ∧
      crossed ["B", "A"] ∈ (crossing ["B", "A"]).objectTypes ∧
      (crossed ["B", "A"]).isAbstract = false ∧
      ∀ declarer ∈ (passOver {} (crossing ["B", "A"])).lineage (crossed ["B", "A"]),
        (passOver {} (crossing ["B", "A"])).MapsMembers declarer) ∧
      ∃ name, (passOver {} (crossing ["B", "A"])).Contested (crossed ["B", "A"]) name ∨
        (passOver {} (crossing ["B", "A"])).Overtaken (crossed ["B", "A"]) name :=
  ⟨⟨acyclic_crossing, rfl, List.mem_cons_self, rfl, mapsMembers_crossing⟩,
    (member_of_mostDerived_kept acyclic_crossing rfl List.mem_cons_self rfl
      mapsMembers_crossing).2.1.mp ⟨"code", rfl⟩⟩

theorem declares_crossing {name : String} {declarer : ObjectTypeDeclaration}
    (declares :
      (passOver {} (crossing ["B", "A"])).Declares (crossed ["B", "A"]) name declarer) :
    name = "code" ∧
      (declarer = coded "B" "Integer" [] ∨ declarer = coded "A" "CharacterString" ["B"]) := by
  obtain ⟨inLineage, named⟩ := declares
  rw [lineage_crossing] at inLineage
  simp only [List.mem_cons, List.not_mem_nil, or_false] at inLineage
  rcases inLineage with rfl | rfl | rfl
  · exact absurd named List.not_mem_nil
  · exact ⟨List.mem_singleton.mp named, Or.inl rfl⟩
  · exact ⟨List.mem_singleton.mp named, Or.inr rfl⟩

/-- **The order of supertypes decides whether an object type is mapped**, even where no name is
contested. -/
theorem supertype_order_decides_mapping :
    (∀ name, ¬ (passOver {} (crossing ["B", "A"])).Contested (crossed ["B", "A"]) name) ∧
      (map {} (crossing ["B", "A"]) none).outcome = .error (.duplicateProperty "T" "code") ∧
      ∃ result, (map {} (crossing ["A", "B"]) none).outcome = .ok result := by
  refine ⟨?_, rfl, _, rfl⟩
  rintro name ⟨⟨declarer, declares⟩, none⟩
  have derives : (crossing ["B", "A"]).objectTypeHierarchy.Derives "A" "B" :=
    Relation.TransGen.single (show "B" ∈ Hierarchy.direct _ "A" by decide)
  obtain ⟨rfl, -⟩ := declares_crossing declares
  refine none ⟨coded "A" "CharacterString" ["B"], ⟨?_, List.mem_singleton_self _⟩, ?_⟩
  · rw [lineage_crossing]
    exact List.mem_cons_of_mem _ (List.mem_cons_of_mem _ List.mem_cons_self)
  · intro other otherDeclares different
    obtain ⟨-, rfl | rfl⟩ := declares_crossing otherDeclares
    · exact derives
    · exact absurd rfl different

end Mapper

end InfoModel
