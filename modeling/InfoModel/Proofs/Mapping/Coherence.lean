/-
**Inheritance along the hierarchy.**

An object type and a type above it are mapped by two walks of their own. Their results fit together:
the object type has every property name of the type above it.

* `lineage_subset_of_derives`: a type's lineage holds the lineages of all types above it;
* `overrides_of_mostDerived`: where the most derived declarers of a name are different for the two,
  the one for the object type is not in the lineage of the type above it and derives from the other;
* `keeps_of_mostDerived`: a mapped object type keeps the members of its most derived declarers. So
  it has the property of the type above it, or one that another type puts in its place.
-/

import InfoModel.Proofs.Mapping.MostDerived

namespace InfoModel

/-- **The mapping of an object type keeps a member of a type**, by its record of kept members. -/
def Pass.Keeps (pass : Pass) (declared declarer : ObjectTypeDeclaration) (property : Property) :
    Prop :=
  ∃ kept, (pass.flatten declared.name [] (pass.lineage declared)).outcome = .ok kept ∧
    ⟨declarer.name, property⟩ ∈ kept

namespace Mapper

variable {mapper : Mapper} {model : InformationModel} {aliasName : Option String} {result : Model}
  {declared above declarer overridden : ObjectTypeDeclaration} {name : String}

/-! ### Lineages -/

section Lineage

variable (inherited : mapper.settings.includeInherited = true)

include inherited

theorem mem_lineage_iff_of_inherited :
    declarer ∈ (mapper.passOver model).lineage declared ↔
      declarer = declared ∨ declarer ∈ Catalogue.objectTypesOf model ∧
        declarer.name ≠ declared.name ∧
          model.objectTypeHierarchy.Derives declared.name declarer.name := by
  show declarer ∈ model.catalogue.lineage declared mapper.settings.includeInherited ↔ _
  rw [inherited, InformationModel.mem_lineage_iff]

variable (acyclic : model.objectTypeHierarchy.Acyclic)

include acyclic

/-- A type that counts and from which the object type derives is in its lineage. -/
theorem mem_lineage_of_derives (counts : declarer ∈ Catalogue.objectTypesOf model)
    (derives : model.objectTypeHierarchy.Derives declared.name declarer.name) :
    declarer ∈ (mapper.passOver model).lineage declared := by
  refine (mem_lineage_iff_of_inherited inherited).mpr (Or.inr ⟨counts, fun same => ?_, derives⟩)
  rw [same] at derives
  exact acyclic _ derives

/-- A type that counts but is not in the lineage is neither the object type nor above it. -/
theorem not_derives_of_not_mem_lineage
    (distinct : (model.objectTypes.map ObjectTypeDeclaration.name).Nodup)
    (counts : declared ∈ model.objectTypes) (declarerCounts : declarer ∈ model.objectTypes)
    (outside : declarer ∉ (mapper.passOver model).lineage declared) :
    declarer.name ≠ declared.name ∧
      ¬ model.objectTypeHierarchy.Derives declared.name declarer.name := by
  constructor
  · intro sameName
    have same : declarer = declared :=
      List.inj_on_of_nodup_map distinct declarerCounts counts sameName
    exact outside ((mem_lineage_iff_of_inherited inherited).mpr (Or.inl same))
  · intro further
    rw [← InformationModel.objectTypesOf_eq_of_distinct distinct] at declarerCounts
    exact outside (mem_lineage_of_derives inherited acyclic declarerCounts further)

/-- **The lineage of a type above is part of the lineage.** -/
theorem lineage_subset_of_derives (counts : above ∈ Catalogue.objectTypesOf model)
    (derives : model.objectTypeHierarchy.Derives declared.name above.name)
    (member : declarer ∈ (mapper.passOver model).lineage above) :
    declarer ∈ (mapper.passOver model).lineage declared := by
  rcases (mem_lineage_iff_of_inherited inherited).mp member with rfl | ⟨declarerCounts, -, further⟩
  · exact mem_lineage_of_derives inherited acyclic counts derives
  · exact mem_lineage_of_derives inherited acyclic declarerCounts (derives.trans further)

/-! ### Declarers -/

theorem declares_of_derives (counts : above ∈ Catalogue.objectTypesOf model)
    (derives : model.objectTypeHierarchy.Derives declared.name above.name)
    (declares : (mapper.passOver model).Declares above name declarer) :
    (mapper.passOver model).Declares declared name declarer :=
  ⟨lineage_subset_of_derives inherited acyclic counts derives declares.inLineage, declares.named⟩

/-- **A different most derived declarer** is outside the lineage of the type above and derives from
that type's most derived declarer. -/
theorem overrides_of_mostDerived (counts : above ∈ Catalogue.objectTypesOf model)
    (derives : model.objectTypeHierarchy.Derives declared.name above.name)
    (mostDerived : (mapper.passOver model).MostDerived declared name declarer)
    (mostDerivedAbove : (mapper.passOver model).MostDerived above name overridden)
    (different : declarer ≠ overridden) :
    declarer ∉ (mapper.passOver model).lineage above ∧
      model.objectTypeHierarchy.Derives declarer.name overridden.name := by
  have declares := declares_of_derives inherited acyclic counts derives mostDerivedAbove.toDeclares
  have names : overridden.name ≠ declarer.name := fun same => different
    (Pass.eq_of_name_eq (nodup_map_name_lineage mapper model declared) mostDerived.inLineage
      declares.inLineage same.symm)
  have down := mostDerived.below overridden declares names
  refine ⟨fun inAbove => ?_, down⟩
  have up := mostDerivedAbove.below declarer ⟨inAbove, mostDerived.named⟩ names.symm
  exact acyclic.asymm down up

end Lineage

/-! ### Mapped object types -/

/-- A mapped object type keeps the member of a most derived declarer. -/
theorem keeps_of_mostDerived (acyclic : model.Acyclic)
    (accepted : (∀ declarer ∈ (mapper.passOver model).lineage declared,
        (mapper.passOver model).MapsMembers declarer) ∧
      ∀ name, ¬ (mapper.passOver model).Contested declared name ∧
        ¬ (mapper.passOver model).Overtaken declared name)
    (mostDerived : (mapper.passOver model).MostDerived declared name declarer)
    {property : Property} (own : property ∈ (mapper.passOver model).ownProperties declarer)
    (named : property.name = name) :
    (mapper.passOver model).Keeps declared declarer property := by
  have nodup := nodup_map_name_lineage mapper model declared
  have clashless := (Pass.clashless_iff nodup model.closed_objectTypeHierarchy acyclic.2).mpr
    accepted.2
  refine ⟨_, (Pass.flatten_lineage_eq_ok_iff nodup).mpr ⟨⟨accepted.1, clashless⟩, rfl⟩, ?_⟩
  refine (Pass.mem_taken_iff nodup).mpr ⟨declarer, ?_, own, rfl⟩
  rw [named]
  exact mostDerived.first (accepted.2 name).2

/-- **Properties are inherited coherently.** A mapped object type has every property name of a
concrete type above it. Under the name it has the same property, or one of a type that is neither
the type above nor above that one, and that derives from the type whose property it replaces. -/
theorem properties_coherent (mapped : (mapper.map model aliasName).outcome = .ok result)
    (distinct : (model.objectTypes.map ObjectTypeDeclaration.name).Nodup)
    (inherited : mapper.settings.includeInherited = true)
    (member : declared ∈ model.objectTypes) (isConcrete : declared.isAbstract = false)
    (aboveMember : above ∈ model.objectTypes) (aboveConcrete : above.isAbstract = false)
    (derives : model.objectTypeHierarchy.Derives declared.name above.name) :
    ∃ objectType aboveType, result.objectType? declared.name = some objectType ∧
      result.objectType? above.name = some aboveType ∧
      ∀ name property, aboveType.property? name = some property →
        ∃ other, objectType.property? name = some other ∧
          (other = property ∨ ∃ declarer overridden,
            (mapper.passOver model).Keeps declared declarer other ∧
            (mapper.passOver model).Keeps above overridden property ∧
            declarer ∈ (mapper.passOver model).lineage declared ∧
            declarer.name ≠ above.name ∧
            ¬ model.objectTypeHierarchy.Derives above.name declarer.name ∧
            model.objectTypeHierarchy.Derives declarer.name overridden.name) := by
  have acyclic := (map_eq_ok_iff.mp mapped).1
  have all := InformationModel.objectTypesOf_eq_of_distinct distinct
  have counts : above ∈ Catalogue.objectTypesOf model := all ▸ aboveMember
  obtain ⟨objectType, found, emitted⟩ :=
    exists_objectType?_of_concrete mapped member isConcrete
  obtain ⟨aboveType, aboveFound, aboveEmitted⟩ :=
    exists_objectType?_of_concrete mapped aboveMember aboveConcrete
  refine ⟨objectType, aboveType, found, aboveFound, ?_⟩
  obtain ⟨accepted, -, -, properties⟩ :=
    (concrete_eq_ok_some_iff_mostDerived acyclic isConcrete).mp emitted
  obtain ⟨aboveAccepted, -, -, aboveProperties⟩ :=
    (concrete_eq_ok_some_iff_mostDerived acyclic aboveConcrete).mp aboveEmitted
  intro name property carried
  obtain ⟨overridden, mostDerivedAbove, own, named⟩ := (aboveProperties name property).mp carried
  have declares := declares_of_derives inherited acyclic.2 counts derives
    mostDerivedAbove.toDeclares
  obtain ⟨declarer, mostDerived⟩ := declares.exists_mostDerived (accepted.2 name).1
  by_cases same : declarer = overridden
  · subst same
    exact ⟨property, (properties name property).mpr ⟨declarer, mostDerived, own, named⟩,
      Or.inl rfl⟩
  · obtain ⟨outside, down⟩ := overrides_of_mostDerived inherited acyclic.2 counts derives
      mostDerived mostDerivedAbove same
    obtain ⟨other, otherOwn, otherNamed⟩ :=
      Pass.exists_ownProperty (accepted.1 declarer mostDerived.inLineage) mostDerived.named
    have declarerMember : declarer ∈ model.objectTypes := by
      rcases (mem_lineage_iff_of_inherited inherited).mp mostDerived.inLineage with rfl | ⟨known, -⟩
      · exact member
      · exact all ▸ known
    obtain ⟨different, notAbove⟩ := not_derives_of_not_mem_lineage inherited acyclic.2 distinct
      aboveMember declarerMember outside
    exact ⟨other, (properties name other).mpr ⟨declarer, mostDerived, otherOwn, otherNamed⟩,
      Or.inr ⟨declarer, overridden,
        keeps_of_mostDerived acyclic accepted mostDerived otherOwn otherNamed,
        keeps_of_mostDerived acyclic aboveAccepted mostDerivedAbove own named,
        mostDerived.inLineage, different, notAbove, down⟩⟩

/-- A chain of types. `C` is abstract and redeclares the `code` of `A`, `T` takes it over. -/
def chain : InformationModel where
  name := "M"
  packages := [{
    name := "P"
    objectTypes := [
      { name := "T", supertypes := ["C"] },
      { name := "C", isAbstract := true, supertypes := ["A"],
        members := { attributes := [{ name := "code", datatype := some "CharacterString" }] } },
      { name := "A", supertypes := ["B"],
        members := { attributes := [{ name := "code", datatype := some "Integer" }] } },
      { name := "B", isAbstract := true,
        members := { attributes := [{ name := "since", datatype := some "Date" }] } }] }]

theorem properties_coherent_chain :
    ∃ result, (map {} chain none).outcome = .ok result ∧
      (chain.objectTypes.map ObjectTypeDeclaration.name).Nodup ∧
      ({} : Mapper).settings.includeInherited = true ∧
      chain.objectTypes[0] ∈ chain.objectTypes ∧ chain.objectTypes[0].isAbstract = false ∧
      chain.objectTypes[2] ∈ chain.objectTypes ∧ chain.objectTypes[2].isAbstract = false ∧
      chain.objectTypeHierarchy.Derives "T" "A" ∧
      ∃ objectType aboveType, result.objectType? "T" = some objectType ∧
        result.objectType? "A" = some aboveType ∧
        ∀ name property, aboveType.property? name = some property →
          ∃ other, objectType.property? name = some other ∧
            (other = property ∨ ∃ declarer overridden,
              (passOver {} chain).Keeps chain.objectTypes[0] declarer other ∧
              (passOver {} chain).Keeps chain.objectTypes[2] overridden property ∧
              declarer ∈ (passOver {} chain).lineage chain.objectTypes[0] ∧
              declarer.name ≠ "A" ∧
              ¬ chain.objectTypeHierarchy.Derives "A" declarer.name ∧
              chain.objectTypeHierarchy.Derives declarer.name overridden.name) := by
  obtain ⟨result, mapped⟩ : ∃ result, (map {} chain none).outcome = .ok result := ⟨_, rfl⟩
  have distinct : (chain.objectTypes.map ObjectTypeDeclaration.name).Nodup := by decide
  have member : chain.objectTypes[0] ∈ chain.objectTypes := by decide
  have aboveMember : chain.objectTypes[2] ∈ chain.objectTypes := by decide
  have derives : chain.objectTypeHierarchy.Derives "T" "A" :=
    .tail (.single (show "C" ∈ Hierarchy.direct _ "T" by decide))
      (show "A" ∈ Hierarchy.direct _ "C" by decide)
  exact ⟨result, mapped, distinct, rfl, member, rfl, aboveMember, rfl, derives,
    properties_coherent mapped distinct rfl member rfl aboveMember rfl derives⟩

end Mapper

end InfoModel
