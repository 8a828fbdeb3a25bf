/-
**The most derived declaration of a name.**

Several types of a lineage can declare the same name. The most derived of these declarers derives
from all the others. The law of inheritance asks that its member is the one taken over; the walk
along the lineage only compares the declarer it meets first with the ones behind it.

* `clashless_iff_mostDerived`: a lineage is taken over just if the first declarer of every name is
  its most derived one;
* `clashless_iff`: so there are two ways to fail. A name is contested (`Pass.Contested`) when none
  of its declarers is most derived. It is overtaken (`Pass.Overtaken`) when one is, but the lineage
  lists another declarer before it;
* `MostDerived.unique`: in an acyclic hierarchy no name has two most derived declarers.
-/

import InfoModel.Proofs.Mapping.Emission
import InfoModel.Proofs.Mapping.Inheritance
import Mathlib.Data.List.Pairwise

namespace InfoModel

namespace Pass

variable {pass : Pass} {declared declarer other : ObjectTypeDeclaration} {name : String}

/-! ### Declarers -/

/-- A type of the lineage of `declared` that declares the name. -/
structure Declares (pass : Pass) (declared : ObjectTypeDeclaration) (name : String)
    (declarer : ObjectTypeDeclaration) : Prop where
  inLineage : declarer ∈ pass.lineage declared
  named : name ∈ pass.memberNames declarer.members

/-- **The most derived declarer** of a name derives from all its other declarers. -/
structure MostDerived (pass : Pass) (declared : ObjectTypeDeclaration) (name : String)
    (declarer : ObjectTypeDeclaration) : Prop extends pass.Declares declared name declarer where
  below : ∀ other, pass.Declares declared name other → other.name ≠ declarer.name →
    pass.catalogue.objectTypeHierarchy.Derives declarer.name other.name

/-- **A contested name** is declared, but has no most derived declarer. -/
def Contested (pass : Pass) (declared : ObjectTypeDeclaration) (name : String) : Prop :=
  (∃ declarer, pass.Declares declared name declarer) ∧
    ¬ ∃ declarer, pass.MostDerived declared name declarer

/-- **An overtaken name** has a most derived declarer, but the lineage lists another declarer of the
name before it. -/
def Overtaken (pass : Pass) (declared : ObjectTypeDeclaration) (name : String) : Prop :=
  ∃ declarer earlier, pass.MostDerived declared name declarer ∧
    pass.Declares declared name earlier ∧ [earlier, declarer].Sublist (pass.lineage declared)

/-- A declared name has a first declarer. -/
theorem Declares.exists_first (declares : pass.Declares declared name declarer) :
    ∃ first, pass.firstDeclarer? (pass.lineage declared) name = some first := by
  refine Option.isSome_iff_exists.mp (List.find?_isSome.mpr ?_)
  exact ⟨declarer, declares.inLineage, decide_eq_true declares.named⟩

/-- A declared name that is not contested has a most derived declarer. -/
theorem Declares.exists_mostDerived (declares : pass.Declares declared name declarer)
    (uncontested : ¬ pass.Contested declared name) :
    ∃ mostDerived, pass.MostDerived declared name mostDerived :=
  not_not.mp fun none => uncontested ⟨⟨declarer, declares⟩, none⟩

theorem declares_of_firstDeclarer?
    (first : pass.firstDeclarer? (pass.lineage declared) name = some declarer) :
    pass.Declares declared name declarer :=
  ⟨(firstDeclarer?_eq_some first).1, (firstDeclarer?_eq_some first).2⟩

/-- All other declarers are listed behind the first. -/
theorem sublist_of_firstDeclarer?
    (first : pass.firstDeclarer? (pass.lineage declared) name = some declarer)
    (declares : pass.Declares declared name other) (different : other ≠ declarer) :
    [declarer, other].Sublist (pass.lineage declared) := by
  obtain ⟨-, front, back, split, before⟩ := List.find?_eq_some_iff_append.mp first
  have notBefore : other ∉ front := fun member => by
    simpa [declares.named] using before other member
  have member := declares.inLineage
  rw [split, List.mem_append, List.mem_cons] at member
  have behind : other ∈ back := (member.resolve_left notBefore).resolve_left different
  rw [split]
  exact ((List.singleton_sublist.mpr behind).cons_cons declarer).trans
    (List.sublist_append_right _ _)

/-- Of two items of a list without repeats, only one stands before the other. -/
theorem not_sublist_swap {α : Type} {items : List α} {first second : α} (nodup : items.Nodup)
    (before : [first, second].Sublist items) : ¬ [second, first].Sublist items := by
  induction items with
  | nil => cases before
  | cons head rest ih =>
      rw [List.nodup_cons] at nodup
      intro behind
      cases before with
      | cons _ before =>
          cases behind with
          | cons _ behind => exact ih nodup.2 before behind
          | cons_cons _ _ => exact nodup.1 (before.subset (by simp))
      | cons_cons _ before =>
          cases behind with
          | cons _ behind => exact nodup.1 (behind.subset (by simp))
          | cons_cons _ _ => exact nodup.1 (before.subset (by simp))

/-- The most derived declarer is the first one, unless it is overtaken. -/
theorem MostDerived.first (mostDerived : pass.MostDerived declared name declarer)
    (ahead : ¬ pass.Overtaken declared name) :
    pass.firstDeclarer? (pass.lineage declared) name = some declarer := by
  obtain ⟨first, found⟩ := mostDerived.toDeclares.exists_first
  by_cases same : declarer = first
  · rw [same]
    exact found
  · refine absurd ⟨declarer, first, mostDerived, declares_of_firstDeclarer? found, ?_⟩ ahead
    exact sublist_of_firstDeclarer? found mostDerived.toDeclares same

/-! ### What a lineage takes over -/

section Lineage

variable (nodup : ((pass.lineage declared).map ObjectTypeDeclaration.name).Nodup)
  (closed : pass.catalogue.objectTypeHierarchy.Closed)

include nodup in
/-- Types of a lineage are known by their names. -/
theorem eq_of_name_eq (member : declarer ∈ pass.lineage declared)
    (otherMember : other ∈ pass.lineage declared) (same : declarer.name = other.name) :
    declarer = other :=
  List.inj_on_of_nodup_map nodup member otherMember same

include nodup in
/-- **No name has two most derived declarers** in an acyclic hierarchy. -/
theorem MostDerived.unique (acyclic : pass.catalogue.objectTypeHierarchy.Acyclic)
    (mostDerived : pass.MostDerived declared name declarer)
    (otherMostDerived : pass.MostDerived declared name other) : declarer = other := by
  by_contra different
  have names : declarer.name ≠ other.name := fun same =>
    different (eq_of_name_eq nodup mostDerived.inLineage otherMostDerived.inLineage same)
  have down := mostDerived.below other otherMostDerived.toDeclares names.symm
  have up := otherMostDerived.below declarer mostDerived.toDeclares names
  exact acyclic.asymm down up

include nodup closed

/-- **The first declarer of every name has to be its most derived one.** -/
theorem clashless_iff_mostDerived :
    pass.Clashless [] (pass.lineage declared) ↔ ∀ name first,
      pass.firstDeclarer? (pass.lineage declared) name = some first →
        pass.MostDerived declared name first := by
  unfold Clashless
  constructor
  · intro clashless name first found
    refine ⟨declares_of_firstDeclarer? found, fun other declares different => ?_⟩
    have holds : pass.holder? [] (pass.lineage declared) name = some first.name :=
      (holder?_nil_eq_some_iff nodup (firstDeclarer?_eq_some found).1).mpr found
    have below := clashless name first.name holds other declares.inLineage declares.named different
    exact ((Hierarchy.isSubtype_iff closed).mp below).2
  · intro mostDerived name holder holds other member named different
    obtain ⟨first, found, rfl⟩ := Option.map_eq_some_iff.mp holds
    have below := (mostDerived name first found).below other ⟨member, named⟩ different
    exact (Hierarchy.isSubtype_iff closed).mpr ⟨different, below⟩

/-- **A lineage is taken over just if no name is contested or overtaken.** -/
theorem clashless_iff (acyclic : pass.catalogue.objectTypeHierarchy.Acyclic) :
    pass.Clashless [] (pass.lineage declared) ↔
      ∀ name, ¬ pass.Contested declared name ∧ ¬ pass.Overtaken declared name := by
  rw [clashless_iff_mostDerived nodup closed]
  constructor
  · intro firstWins name
    constructor
    · rintro ⟨⟨declarer, declares⟩, none⟩
      obtain ⟨first, found⟩ := declares.exists_first
      exact none ⟨first, firstWins name first found⟩
    · rintro ⟨declarer, earlier, mostDerived, declares, before⟩
      obtain ⟨first, found⟩ := declares.exists_first
      obtain rfl := mostDerived.unique nodup acyclic (firstWins name first found)
      -- the most derived declarer is the first one, so the earlier one would stand on both sides
      have different : earlier ≠ declarer := (nodup.of_map _).forall_sublist before
      exact not_sublist_swap (nodup.of_map _) before
        (sublist_of_firstDeclarer? found declares different)
  · intro settled name first found
    obtain ⟨uncontested, ahead⟩ := settled name
    obtain ⟨declarer, mostDerived⟩ :=
      (declares_of_firstDeclarer? found).exists_mostDerived uncontested
    have same := (mostDerived.first ahead).symm.trans found
    exact Option.some.inj same ▸ mostDerived

/-- **An object type takes over the members of the most derived declarers**, if all members can be
mapped and no name is contested or overtaken. -/
theorem objectType_eq_ok_iff_mostDerived (acyclic : pass.catalogue.objectTypeHierarchy.Acyclic)
    {result : ObjectType} :
    (pass.objectType declared).outcome = .ok result ↔
      ((∀ declarer ∈ pass.lineage declared, pass.MapsMembers declarer) ∧
        ∀ name, ¬ pass.Contested declared name ∧ ¬ pass.Overtaken declared name) ∧
        result.name = declared.name ∧ result.supertypes = declared.supertypes ∧
        ∀ name property, result.property? name = some property ↔ ∃ declarer,
          pass.MostDerived declared name declarer ∧ property ∈ pass.ownProperties declarer ∧
            property.name = name := by
  rw [objectType_eq_ok_iff nodup, clashless_iff nodup closed acyclic]
  refine and_congr_right fun ⟨_, settled⟩ => and_congr_right fun _ => and_congr_right fun _ => ?_
  have firstWins := (clashless_iff_mostDerived nodup closed).mp
    ((clashless_iff nodup closed acyclic).mpr settled)
  have same : ∀ name declarer,
      pass.firstDeclarer? (pass.lineage declared) name = some declarer ↔
        pass.MostDerived declared name declarer := fun name declarer =>
    ⟨firstWins name declarer, fun mostDerived =>
      mostDerived.first (settled name).2⟩
  simp only [same]

end Lineage

end Pass

/-! ### The object types of a model -/

namespace Mapper

variable {mapper : Mapper} {model : InformationModel} {declared : ObjectTypeDeclaration}

section Acyclic

variable (acyclic : model.Acyclic)

include acyclic

/-- A mapped object type has the properties of the most derived declarers. -/
theorem concrete_eq_ok_some_iff_mostDerived (isConcrete : declared.isAbstract = false)
    {objectType : ObjectType} :
    ((mapper.passOver model).concrete declared).outcome = .ok (some objectType) ↔
      ((∀ declarer ∈ (mapper.passOver model).lineage declared,
          (mapper.passOver model).MapsMembers declarer) ∧
        ∀ name, ¬ (mapper.passOver model).Contested declared name ∧
          ¬ (mapper.passOver model).Overtaken declared name) ∧
        objectType.name = declared.name ∧ objectType.supertypes = declared.supertypes ∧
        ∀ name property, objectType.property? name = some property ↔ ∃ declarer,
          (mapper.passOver model).MostDerived declared name declarer ∧
            property ∈ (mapper.passOver model).ownProperties declarer ∧ property.name = name := by
  rw [Pass.concrete_eq_ok_some_iff isConcrete]
  exact Pass.objectType_eq_ok_iff_mostDerived (nodup_map_name_lineage mapper model declared)
    model.closed_objectTypeHierarchy acyclic.2

variable (maps : ∀ declarer ∈ (mapper.passOver model).lineage declared,
  (mapper.passOver model).MapsMembers declarer)

include maps

/-- A concrete object type is mapped just if no name is contested or overtaken. -/
theorem exists_concrete_eq_ok_iff (isConcrete : declared.isAbstract = false) :
    (∃ objectType, ((mapper.passOver model).concrete declared).outcome = .ok (some objectType)) ↔
      ∀ name, ¬ (mapper.passOver model).Contested declared name ∧
        ¬ (mapper.passOver model).Overtaken declared name := by
  have nodup := nodup_map_name_lineage mapper model declared
  simp only [Pass.concrete_eq_ok_some_iff isConcrete]
  rw [Pass.exists_objectType_eq_ok_iff nodup,
    Pass.clashless_iff nodup model.closed_objectTypeHierarchy acyclic.2]
  exact and_iff_right maps

/-- A concrete object type that is not mapped repeats a property. -/
theorem exists_concrete_eq_duplicateProperty_iff (isConcrete : declared.isAbstract = false) :
    (∃ name, ((mapper.passOver model).concrete declared).outcome
        = .error (.duplicateProperty declared.name name)) ↔
      ∃ name, (mapper.passOver model).Contested declared name ∨
        (mapper.passOver model).Overtaken declared name := by
  have nodup := nodup_map_name_lineage mapper model declared
  simp only [Pass.concrete_eq_error_iff isConcrete]
  rw [Pass.exists_duplicateProperty_iff nodup maps,
    Pass.clashless_iff nodup model.closed_objectTypeHierarchy acyclic.2, not_forall]
  simp only [not_and_or, not_not]

end Acyclic

end Mapper

end InfoModel
