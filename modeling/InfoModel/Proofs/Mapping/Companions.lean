/-
**Two mappings of one model.**

Two mappers over one model work with the same catalogue. If they also take over inherited members
alike, they differ only in what they make of single attributes: names, dropped relations, lineages
and their order are the same for both.

* `Mapper.Companions related`: such mappers, where what both make of an attribute is `related`;
* `supplier?_eq`: every property is supplied by the same element;
* `corresponds_of_emit`, `corresponds_of_map`: what both make of a declaration, and of the model, is
  related property by property (`ObjectType.Corresponds`);
* `exists_map_of_resolves`: what the one can map, the other can, if attributes that resolve for the
  one do so for the other.
-/

import InfoModel.Proofs.Mapping.Acceptance
import InfoModel.Proofs.Mapping.Inventory
import InfoModel.Proofs.Rearrangement

namespace InfoModel

/-- **Object types correspond** if they have the same name, the same supertypes and properties of
the same names, each related to that of the other. -/
structure ObjectType.Corresponds (related : Property → Property → Prop)
    (first second : ObjectType) : Prop where
  name : first.name = second.name
  supertypes : first.supertypes = second.supertypes
  properties : ∀ name, Option.Rel related (first.property? name) (second.property? name)

/-- Options are related if both or none hold a value, and values are related. -/
theorem optionRel_of {α : Type} {related : α → α → Prop} {first second : Option α}
    (both : (∃ value, first = some value) ↔ ∃ value, second = some value)
    (each : ∀ value other, first = some value → second = some other → related value other) :
    Option.Rel related first second := by
  cases first with
  | none =>
      cases second with
      | none => exact .none
      | some other => exact absurd (both.mpr ⟨other, rfl⟩) nofun
  | some value =>
      cases second with
      | none => exact absurd (both.mp ⟨value, rfl⟩) nofun
      | some other => exact .some (each value other rfl rfl)

/-- Related options are alike in what all related values share. -/
theorem map_eq_of_optionRel {α β : Type} {related : α → α → Prop} {first second : Option α}
    (shared : α → β) (both : Option.Rel related first second)
    (each : ∀ value other, related value other → shared value = shared other) :
    first.map shared = second.map shared := by
  cases both with
  | none => rfl
  | some holds => exact congrArg some (each _ _ holds)

/-- Object types that correspond with equal properties are equal. -/
theorem ObjectType.Corresponds.eq {first second : ObjectType}
    (same : first.Corresponds (· = ·) second) : first = second := by
  refine ObjectType.ext_property? same.name same.supertypes fun name => ?_
  simpa using map_eq_of_optionRel id (same.properties name) fun _ _ => id

/-- What two steps make of the same items is related, if what they make of each item is. -/
theorem forall₂_of_items {α β γ : Type} {step : α → β → Prop} {other : α → γ → Prop}
    {related : β → γ → Prop} {items : List α} {results : List β} {others : List γ}
    (made : List.Forall₂ step items results) (otherMade : List.Forall₂ other items others)
    (each : ∀ item result counterpart, step item result → other item counterpart →
      related result counterpart) :
    List.Forall₂ related results others := by
  induction made generalizing others with
  | nil =>
      cases otherMade
      exact .nil
  | cons one _ ih =>
      cases otherMade with
      | cons otherOne otherRest => exact .cons (each _ _ _ one otherOne) (ih otherRest)

namespace Mapper

variable {mapper other : Mapper} {model : InformationModel} {aliasName : Option String}
  {related : Property → Property → Prop}

/-- **Companions** take over inherited members alike, and what both make of an attribute is related.
A relation stands for itself. -/
structure Companions (related : Property → Property → Prop) (mapper other : Mapper)
    (model : InformationModel) : Prop where
  inherited : mapper.settings.includeInherited = other.settings.includeInherited
  attributes : ∀ owner declared property counterpart,
    ((mapper.passOver model).member owner declared).outcome = .ok property →
      ((other.passOver model).member owner declared).outcome = .ok counterpart →
        related property counterpart
  relations : ∀ value, related (.ofRelation value) (.ofRelation value)

/-! ### Elements -/

namespace Companions

variable (companions : Companions related mapper other model)

include companions

section Element

variable {owner : String} {members : Members} {properties counterparts : List Property}
  (mapped : ((mapper.passOver model).members owner members).outcome = .ok properties)
  (otherMapped : ((other.passOver model).members owner members).outcome = .ok counterparts)

include mapped otherMapped

/-- **The properties of an element are related in a row**, with the same names. -/
theorem forall₂_members : List.Forall₂ (fun property counterpart =>
    property.name = counterpart.name ∧ related property counterpart) properties counterparts := by
  obtain ⟨-, attributes, each, rfl⟩ := Pass.members_eq_ok_iff.mp mapped
  obtain ⟨-, otherAttributes, otherEach, rfl⟩ := Pass.members_eq_ok_iff.mp otherMapped
  have front := forall₂_of_items each otherEach fun declared property counterpart made otherMade =>
    And.intro ((Pass.name_of_member made).trans (Pass.name_of_member otherMade).symm)
      (companions.attributes owner declared property counterpart made otherMade)
  -- behind the attributes both lists hold the same relations
  refine List.rel_append (List.rel_append front ?_) ?_
  · refine List.forall₂_same.mpr fun property member => And.intro rfl ?_
    obtain ⟨declared, -, becomes⟩ := List.mem_filterMap.mp member
    obtain ⟨target, -, rfl⟩ := Option.map_eq_some_iff.mp becomes
    exact companions.relations _
  · refine List.forall₂_same.mpr fun property member => And.intro rfl ?_
    obtain ⟨reference, -, rfl⟩ := List.mem_map.mp member
    exact companions.relations _

/-- Properties of one name are related. -/
theorem related_of_mem {property counterpart : Property} (member : property ∈ properties)
    (otherMember : counterpart ∈ counterparts) (same : property.name = counterpart.name) :
    related property counterpart := by
  obtain ⟨found, listed, named, holds⟩ :=
    exists_related_of_mem (companions.forall₂_members mapped otherMapped) otherMember
  have isFound : found = property :=
    List.inj_on_of_nodup_map (Pass.nodup_map_name_of_members mapped) listed member
      (named.trans same.symm)
  exact isFound ▸ holds

end Element

end Companions

/-! ### Declarations -/

section Inherited

variable (inherited : mapper.settings.includeInherited = other.settings.includeInherited)

include inherited

/-- Lineages are the same. -/
theorem lineage_eq (declared : ObjectTypeDeclaration) :
    (mapper.passOver model).lineage declared = (other.passOver model).lineage declared := by
  show model.catalogue.lineage declared mapper.settings.includeInherited = _
  rw [inherited]
  rfl

/-- **A name has the same supplier.** -/
theorem supplier?_eq (declaration : Declaration) (name : String) :
    (mapper.passOver model).supplier? declaration name
      = (other.passOver model).supplier? declaration name := by
  have sources : (mapper.passOver model).sources declaration
      = (other.passOver model).sources declaration := by
    cases declaration with
    | objectType declared =>
        exact congrArg (List.map ObjectTypeDeclaration.element) (lineage_eq inherited declared)
    | datagroupType declared => rfl
    | datatype declared => rfl
  unfold Pass.supplier?
  rw [sources]
  rfl

end Inherited

/-- **An object type has a property of every name that is supplied.** -/
theorem exists_property?_iff_supplier? {declaration : Declaration} {objectType : ObjectType}
    (emitted : ((mapper.passOver model).emit declaration).outcome = .ok (some objectType))
    {name : String} : (∃ property, objectType.property? name = some property) ↔
      ∃ element, (mapper.passOver model).supplier? declaration name = some element := by
  apply Iff.intro
  · intro ⟨property, carried⟩
    obtain ⟨-, element, -, found, -⟩ := exists_supplier_of_emit emitted carried
    exact ⟨element, found⟩
  intro ⟨element, found⟩
  have source := List.mem_of_find?_eq_some found
  have named : name ∈ (mapper.passOver model).memberNames element.members := by
    simpa using List.find?_some found
  obtain ⟨step, emission, mapped⟩ := Pass.emit_eq_ok_some_iff.mp emitted
  rcases Pass.outcome_emission? emission with ⟨declared, rfl, -, rfl⟩ | ⟨sources, same⟩
  · have nodup := nodup_map_name_lineage mapper model declared
    obtain ⟨⟨maps, -⟩, -, -, carries⟩ := (Pass.objectType_eq_ok_iff nodup).mp mapped
    obtain ⟨offering, inLineage, rfl⟩ := List.mem_map.mp source
    have declares : (mapper.passOver model).Declares declared name offering := ⟨inLineage, named⟩
    obtain ⟨declarer, first⟩ := declares.exists_first
    obtain ⟨listed, own⟩ := Pass.firstDeclarer?_eq_some first
    obtain ⟨property, owns, isNamed⟩ := Pass.exists_ownProperty (maps declarer listed) own
    exact ⟨property, (carries name property).mpr ⟨declarer, first, owns, isNamed⟩⟩
  · rw [same] at mapped
    obtain ⟨properties, mappedMembers, -, -, carries⟩ := Pass.mapElement_eq_ok_iff.mp mapped
    rw [sources, List.mem_singleton] at source
    subst source
    rw [← Pass.map_name_of_members mappedMembers] at named
    obtain ⟨property, member, isNamed⟩ := List.mem_map.mp named
    exact ⟨property, (carries name property).mpr ⟨member, isNamed⟩⟩

/-- **What companions make of a declaration corresponds.** -/
theorem Companions.corresponds_of_emit (companions : Companions related mapper other model)
    {declaration : Declaration} {objectType counterpart : ObjectType}
    (emitted : ((mapper.passOver model).emit declaration).outcome = .ok (some objectType))
    (otherEmitted : ((other.passOver model).emit declaration).outcome = .ok (some counterpart)) :
    objectType.Corresponds related counterpart where
  name := (Pass.name_of_emit emitted).trans (Pass.name_of_emit otherEmitted).symm
  supertypes := (supertypes_of_emit emitted).trans (supertypes_of_emit otherEmitted).symm
  properties name := by
    have supplier : (mapper.passOver model).supplier? declaration name
        = (other.passOver model).supplier? declaration name :=
      supplier?_eq companions.inherited declaration name
    apply optionRel_of
    · rw [exists_property?_iff_supplier? emitted, exists_property?_iff_supplier? otherEmitted,
        supplier]
    · intro property counterpart carried otherCarried
      obtain ⟨named, element, properties, found, mapped, member⟩ :=
        exists_supplier_of_emit emitted carried
      obtain ⟨otherNamed, same, counterparts, otherFound, otherMapped, otherMember⟩ :=
        exists_supplier_of_emit otherEmitted otherCarried
      rw [supplier, otherFound] at found
      obtain rfl := Option.some.inj found
      exact companions.related_of_mem mapped otherMapped member otherMember
        (named.trans otherNamed.symm)

/-! ### Models -/

/-- **What companions make of a model corresponds**, object type by object type. -/
theorem Companions.corresponds_of_map (companions : Companions related mapper other model)
    {result counterpart : Model} (mapped : (mapper.map model aliasName).outcome = .ok result)
    (otherMapped : (other.map model aliasName).outcome = .ok counterpart) :
    result.aliasName = counterpart.aliasName ∧ ∀ name,
      Option.Rel (ObjectType.Corresponds related) (result.objectType? name)
        (counterpart.objectType? name) := by
  obtain ⟨-, -, distinct, sameAlias, holds⟩ := map_eq_ok_iff.mp mapped
  obtain ⟨-, -, -, otherAlias, otherHolds⟩ := map_eq_ok_iff.mp otherMapped
  refine ⟨sameAlias.trans otherAlias.symm, fun name => ?_⟩
  apply optionRel_of
  · apply Iff.intro
    · intro ⟨objectType, found⟩
      obtain ⟨declaration, member, rfl, emitted⟩ := (holds name objectType).mp found
      obtain ⟨other, otherFound, -⟩ :=
        exists_objectType?_of_map otherMapped member (Pass.emits_of_emit emitted)
      exact ⟨other, otherFound⟩
    · intro ⟨objectType, found⟩
      obtain ⟨declaration, member, rfl, emitted⟩ := (otherHolds name objectType).mp found
      obtain ⟨other, otherFound, -⟩ :=
        exists_objectType?_of_map mapped member (Pass.emits_of_emit emitted)
      exact ⟨other, otherFound⟩
  · intro objectType other found otherFound
    obtain ⟨declaration, member, named, emitted⟩ := (holds name objectType).mp found
    obtain ⟨same, otherMember, otherNamed, otherEmitted⟩ := (otherHolds name other).mp otherFound
    obtain rfl : declaration = same :=
      List.inj_on_of_nodup_map distinct
        (List.mem_filter.mpr ⟨member, Pass.emits_of_emit emitted⟩)
        (List.mem_filter.mpr ⟨otherMember, Pass.emits_of_emit otherEmitted⟩)
        (named.trans otherNamed.symm)
    exact companions.corresponds_of_emit emitted otherEmitted

section Resolves

variable (inherited : mapper.settings.includeInherited = other.settings.includeInherited)
  (resolves : ∀ owner declared, (mapper.passOver model).Resolves owner declared →
    (other.passOver model).Resolves owner declared)

include resolves

theorem accepts_element_of_resolves {element : Element}
    (accepts : (mapper.passOver model).Accepts element) :
    (other.passOver model).Accepts element where
  resolves declared member := resolves _ declared (accepts.resolves declared member)
  distinct := accepts.distinct

include inherited

theorem accepts_of_resolves (accepts : mapper.Accepts model) : other.Accepts model where
  members declared member isConcrete := by
    rw [← lineage_eq inherited]
    intro declarer inLineage
    apply accepts_element_of_resolves resolves
    exact accepts.members declared member isConcrete declarer inLineage
  inherited declared member isConcrete name first found := by
    rw [← lineage_eq inherited] at found
    obtain ⟨⟨inLineage, named⟩, below⟩ :=
      accepts.inherited declared member isConcrete name first found
    refine ⟨⟨lineage_eq inherited declared ▸ inLineage, named⟩, ?_⟩
    intro rival ⟨listed, declares⟩
    exact below rival ⟨(lineage_eq inherited declared).symm ▸ listed, declares⟩
  datagroupTypes declared member :=
    accepts_element_of_resolves resolves (accepts.datagroupTypes declared member)
  structured declared member isStructured :=
    accepts_element_of_resolves resolves (accepts.structured declared member isStructured)

/-- **What can be mapped can be mapped** by a mapper for which all attributes resolve that do so. -/
theorem exists_map_of_resolves {result : Model}
    (mapped : (mapper.map model aliasName).outcome = .ok result) :
    ∃ counterpart, (other.map model aliasName).outcome = .ok counterpart := by
  obtain ⟨acyclic, accepts, distinct⟩ := exists_map_eq_ok_iff_accepts.mp ⟨result, mapped⟩
  exact exists_map_eq_ok_iff_accepts.mpr
    ⟨acyclic, accepts_of_resolves inherited resolves accepts, distinct⟩

end Resolves

end Mapper

end InfoModel
