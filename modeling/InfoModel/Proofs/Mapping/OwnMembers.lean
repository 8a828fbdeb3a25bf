/-
**Inherited members only add.**

The settings say whether object types take over the members of their supertypes. Without that an
object type is its own lineage; elements are mapped as they are with it.

* `Mapper.inheriting` sets this, on or off. `members_inheriting`: elements are mapped alike;
* `clashless_singleton`: one type by itself does not clash, whatever is above it;
* `ObjectType.Within` says that an object type has all properties of another one of its name and
  supertypes. What a declaration becomes with inherited members has what it becomes without, and
  where the one can be mapped the other can (`exists_within_of_emit`);
* `inheritance_only_adds` says so of whole models.
-/

import InfoModel.Proofs.Mapping.Inventory

namespace InfoModel

/-- **An object type is part of another** of the same name with the same supertypes: its properties
are there, unchanged. -/
structure ObjectType.Within (part whole : ObjectType) : Prop where
  name : part.name = whole.name
  supertypes : part.supertypes = whole.supertypes
  properties : ∀ name property, part.property? name = some property →
    whole.property? name = some property

theorem ObjectType.Within.refl (objectType : ObjectType) : objectType.Within objectType :=
  ⟨rfl, rfl, fun _ _ carried => carried⟩

/-- One type by itself does not clash: it holds all the names that it declares. -/
theorem Pass.clashless_singleton (pass : Pass) (declared : ObjectTypeDeclaration) :
    pass.Clashless [] [declared] := by
  intro name holder holds other member named different
  obtain rfl := List.mem_singleton.mp member
  rw [holder?_cons_of_mem named] at holds
  exact absurd (Option.some.inj holds) different

namespace Mapper

/-- The mapper that takes over inherited members, or does not. -/
def inheriting (mapper : Mapper) (includeInherited : Bool) : Mapper :=
  { mapper with settings := { mapper.settings with includeInherited } }

variable {mapper : Mapper} {model : InformationModel} {aliasName : Option String}

/-! ### Elements -/

/-- **Elements are mapped alike.** -/
theorem members_inheriting (owner : String) (members : Members) :
    ((mapper.inheriting false).passOver model).members owner members
      = ((mapper.inheriting true).passOver model).members owner members := rfl

theorem memberNames_inheriting (members : Members) :
    ((mapper.inheriting false).passOver model).memberNames members
      = ((mapper.inheriting true).passOver model).memberNames members := rfl

theorem mapsMembers_inheriting (declared : ObjectTypeDeclaration) :
    ((mapper.inheriting false).passOver model).MapsMembers declared ↔
      ((mapper.inheriting true).passOver model).MapsMembers declared := by
  unfold Pass.MapsMembers
  rw [members_inheriting]

theorem ownProperties_inheriting (declared : ObjectTypeDeclaration) :
    ((mapper.inheriting false).passOver model).ownProperties declared
      = ((mapper.inheriting true).passOver model).ownProperties declared := by
  unfold Pass.ownProperties
  rw [members_inheriting]

/-- What takes over no members is mapped alike. -/
theorem emit_inheriting {declaration : Declaration}
    (noObjectType : ∀ declared, declaration ≠ .objectType declared) :
    ((mapper.inheriting false).passOver model).emit declaration
      = ((mapper.inheriting true).passOver model).emit declaration := by
  cases declaration with
  | objectType declared => exact absurd rfl (noObjectType declared)
  | datagroupType declared => rfl
  | datatype declared => rfl

/-! ### Object types -/

/-- **An object type with inherited members has its own ones.** They come first in its lineage, so
they are mapped whenever it is, and nothing further up takes their names. -/
theorem exists_within_of_objectType {declared : ObjectTypeDeclaration} {whole : ObjectType}
    (mapped : (((mapper.inheriting true).passOver model).objectType declared).outcome
      = .ok whole) :
    ∃ part, (((mapper.inheriting false).passOver model).objectType declared).outcome = .ok part ∧
      part.Within whole := by
  have nodup := nodup_map_name_lineage (mapper.inheriting true) model declared
  have nodupOwn := nodup_map_name_lineage (mapper.inheriting false) model declared
  have lineage : ((mapper.inheriting false).passOver model).lineage declared = [declared] := rfl
  obtain ⟨⟨maps, -⟩, name, supertypes, carries⟩ := (Pass.objectType_eq_ok_iff nodup).mp mapped
  have mapsOwn : ((mapper.inheriting false).passOver model).MapsMembers declared :=
    (mapsMembers_inheriting declared).mpr (maps declared List.mem_cons_self)
  obtain ⟨part, own⟩ := (Pass.exists_objectType_eq_ok_iff nodupOwn).mpr (by
    rw [lineage]
    exact ⟨List.forall_mem_singleton.mpr mapsOwn, Pass.clashless_singleton _ declared⟩)
  obtain ⟨-, ownName, ownSupertypes, ownCarries⟩ := (Pass.objectType_eq_ok_iff nodupOwn).mp own
  refine ⟨part, own, ownName.trans name.symm, ownSupertypes.trans supertypes.symm, ?_⟩
  intro other property carried
  obtain ⟨declarer, first, owns, named⟩ := (ownCarries other property).mp carried
  obtain ⟨isDeclared, declares⟩ := Pass.firstDeclarer?_eq_some first
  obtain rfl := List.mem_singleton.mp isDeclared
  rw [ownProperties_inheriting] at owns
  rw [memberNames_inheriting] at declares
  refine (carries other property).mpr ⟨declarer, ?_, owns, named⟩
  exact List.find?_cons_of_pos (decide_eq_true declares)

theorem exists_within_of_emit {declaration : Declaration} {whole : ObjectType}
    (emitted : (((mapper.inheriting true).passOver model).emit declaration).outcome
      = .ok (some whole)) :
    ∃ part, (((mapper.inheriting false).passOver model).emit declaration).outcome
      = .ok (some part) ∧ part.Within whole := by
  cases declaration with
  | objectType declared =>
      have isConcrete : declared.isAbstract = false := by
        simpa [Declaration.emits] using Pass.emits_of_emit emitted
      obtain ⟨part, own, within⟩ :=
        exists_within_of_objectType ((Pass.concrete_eq_ok_some_iff isConcrete).mp emitted)
      exact ⟨part, (Pass.concrete_eq_ok_some_iff isConcrete).mpr own, within⟩
  | datagroupType declared => exact ⟨whole, emitted, .refl whole⟩
  | datatype declared => exact ⟨whole, emitted, .refl whole⟩

theorem maps_inheriting {declaration : Declaration}
    (maps : ((mapper.inheriting true).passOver model).Maps declaration) :
    ((mapper.inheriting false).passOver model).Maps declaration := by
  obtain ⟨_ | whole, emitted⟩ := maps
  · exact ⟨none, Pass.emit_eq_ok_none_iff.mpr (Pass.emit_eq_ok_none_iff.mp emitted)⟩
  · obtain ⟨part, own, -⟩ := exists_within_of_emit emitted
    exact ⟨some part, own⟩

/-! ### Models -/

/-- Results of one model have the same names, whatever they were mapped with. -/
theorem keys_eq_of_map {other : Mapper} {result otherResult : Model}
    (mapped : (mapper.map model aliasName).outcome = .ok result)
    (otherMapped : (other.map model aliasName).outcome = .ok otherResult) :
    result.objectTypes.keys = otherResult.objectTypes.keys := by
  have perm := (map_name_values_perm mapped).trans (map_name_values_perm otherMapped).symm
  rw [(keyedBy_name mapped).map_values, (keyedBy_name otherMapped).map_values] at perm
  refine perm.eq_of_pairwise (fun first second _ _ below above => ?_)
    result.objectTypes.ascending otherResult.objectTypes.ascending
  have below := Text.Utf8.bytes_lt_iff.mp below
  exact absurd (String.lt_trans below (Text.Utf8.bytes_lt_iff.mp above)) (String.lt_irrefl _)

/-- **Inherited members only add.** What can be mapped with them can be mapped without. The result
without them has the same alias and the same object types. Each of these has the same supertypes and
is part of the one with inherited members, and those of datagroup types and structured datatypes are
the same. -/
theorem inheritance_only_adds {whole : Model}
    (mapped : ((mapper.inheriting true).map model aliasName).outcome = .ok whole) :
    ∃ part, ((mapper.inheriting false).map model aliasName).outcome = .ok part ∧
      part.aliasName = whole.aliasName ∧ part.objectTypes.keys = whole.objectTypes.keys ∧
      (∀ name own objectType, part.objectType? name = some own →
        whole.objectType? name = some objectType → own.Within objectType) ∧
      (∀ declared ∈ model.datagroupTypes, ∃ objectType,
        part.objectType? declared.name = some objectType ∧
          whole.objectType? declared.name = some objectType) ∧
      ∀ declared ∈ model.datatypes, ∀ elements, declared.form = .structured elements →
        ∃ objectType, part.objectType? declared.name = some objectType ∧
          whole.objectType? declared.name = some objectType := by
  obtain ⟨acyclic, maps, distinct, sameAlias, holds⟩ := map_eq_ok_iff.mp mapped
  obtain ⟨part, mappedPart⟩ := exists_map_eq_ok_iff.mpr
    ⟨acyclic, fun declaration member => maps_inheriting (maps declaration member), distinct⟩
  obtain ⟨-, -, -, partAlias, partHolds⟩ := map_eq_ok_iff.mp mappedPart
  have same : ∀ declaration ∈ model.declarations, declaration.emits = true →
      (∀ declared, declaration ≠ .objectType declared) → ∃ objectType,
        part.objectType? declaration.name = some objectType ∧
          whole.objectType? declaration.name = some objectType := by
    intro declaration member emits noObjectType
    obtain ⟨objectType, found, emitted⟩ := exists_objectType?_of_map mapped member emits
    rw [← emit_inheriting noObjectType] at emitted
    exact ⟨objectType, (partHolds _ _).mpr ⟨declaration, member, rfl, emitted⟩, found⟩
  refine ⟨part, mappedPart, partAlias.trans sameAlias.symm, keys_eq_of_map mappedPart mapped,
    ?_, ?_, ?_⟩
  · intro name own objectType ownFound found
    obtain ⟨declaration, member, rfl, emitted⟩ := (holds name objectType).mp found
    obtain ⟨other, otherEmitted, within⟩ := exists_within_of_emit emitted
    have otherFound := (partHolds _ other).mpr ⟨declaration, member, rfl, otherEmitted⟩
    rw [ownFound] at otherFound
    obtain rfl := Option.some.inj otherFound
    exact within
  · intro declared member
    exact same (.datagroupType declared)
      (InformationModel.datagroupType_mem_declarations.mpr member) rfl nofun
  · intro declared member elements isStructured
    refine same (.datatype declared)
      (InformationModel.datatype_mem_declarations.mpr member) ?_ nofun
    rw [Declaration.emits, Datatype.dataElements?, isStructured]
    rfl

/-! ### Bicycles and their prices -/

/-- Bicycles are articles and have a price of their own. -/
def stock : InformationModel where
  name := "M"
  packages := [{
    name := "P"
    objectTypes := [
      { name := "Bicycle", supertypes := ["Article"],
        members := { attributes := [{ name := "price", datatype := some "Integer" }] } },
      { name := "Article", isAbstract := true,
        members := { attributes := [{ name := "number", datatype := some "CharacterString" },
          { name := "price", datatype := some "Amount" }] } }]
    datagroupTypes := [
      { name := "Size",
        members := { attributes := [{ name := "height", datatype := some "Real" }] } }]
    datatypes := [
      { name := "Amount",
        form := .structured [{ name := "value", datatype := some "Decimal" }] }] }]

/-- A bicycle takes over the number, not the price. -/
theorem inheritance_only_adds_stock : ∃ whole part bicycle own,
    ((({} : Mapper).inheriting true).map stock none).outcome = .ok whole ∧
    ((({} : Mapper).inheriting false).map stock none).outcome = .ok part ∧
    whole.objectType? "Bicycle" = some bicycle ∧ part.objectType? "Bicycle" = some own ∧
    own.Within bicycle ∧ (bicycle.property? "number").isSome = true ∧
    own.property? "number" = none ∧ (own.property? "price").isSome = true := by
  obtain ⟨whole, bicycle, mapped, found, number⟩ : ∃ whole bicycle,
      ((({} : Mapper).inheriting true).map stock none).outcome = .ok whole ∧
        whole.objectType? "Bicycle" = some bicycle ∧
        (bicycle.property? "number").isSome = true := ⟨_, _, rfl, rfl, rfl⟩
  obtain ⟨part, partMapped, -, -, within, -⟩ := inheritance_only_adds mapped
  obtain ⟨same, own, reached, ownFound, noNumber, price⟩ : ∃ same own,
      ((({} : Mapper).inheriting false).map stock none).outcome = .ok same ∧
        same.objectType? "Bicycle" = some own ∧ own.property? "number" = none ∧
        (own.property? "price").isSome = true := ⟨_, _, rfl, rfl, rfl, rfl⟩
  obtain rfl := Except.ok.inj (partMapped.symm.trans reached)
  exact ⟨whole, part, bicycle, own, mapped, partMapped, found, ownFound,
    within _ _ _ ownFound found, number, noNumber, price⟩

end Mapper

end InfoModel
