/-
**A mapped model holds just the declared types.**

None is lost, invented or merged:

* `NameMap.KeyedBy`, `NameMap.Ascending`: entries stand under their own names, and the names
  increase in the order of their bytes. A table of named items holds the items, once each
  (`values_perm`);
* `ObjectType.Orderly` says that the properties of an object type are such a table, and that each is
  either an attribute or a relation;
* `Mapper.Inventory` lists what a result owes to the model: an entry for each concrete object type,
  datagroup type and structured datatype, with its supertypes, and no other entry;
* `inventory`: every result has it.
-/

import InfoModel.Proofs.Mapping.Elements
import InfoModel.Proofs.Text.ByteOrder

namespace InfoModel

/-! ### Tables of named items -/

namespace NameMap

variable {α : Type} {nameOf : α → String} {table : NameMap α}

/-- Every entry stands under its own name. -/
def KeyedBy (nameOf : α → String) (table : NameMap α) : Prop :=
  ∀ entry ∈ table.entries, nameOf entry.2 = entry.1

/-- The names increase, in the order of their bytes. -/
def Ascending (table : NameMap α) : Prop :=
  table.keys.Pairwise fun first second => Text.Utf8.bytes first < Text.Utf8.bytes second

theorem ascending (table : NameMap α) : table.Ascending := by
  unfold Ascending keys
  rw [List.pairwise_map]
  exact table.sorted.imp Text.Utf8.bytes_lt_iff.mpr

theorem nodup_keys (table : NameMap α) : table.keys.Nodup := by
  unfold keys
  refine List.pairwise_map.mpr (table.sorted.imp ?_)
  intro first second below same
  rw [same] at below
  exact String.lt_irrefl _ below

theorem keyedBy_iff : table.KeyedBy nameOf ↔
    ∀ name value, table.get? name = some value → nameOf value = name := by
  simp only [get?_eq_some_iff]
  exact ⟨fun keyed name value member => keyed (name, value) member,
    fun keyed entry member => keyed entry.1 entry.2 member⟩

theorem KeyedBy.map_values (keyed : table.KeyedBy nameOf) :
    table.values.map nameOf = table.keys := by
  unfold values keys
  rw [List.map_map]
  exact List.map_congr_left keyed

theorem KeyedBy.nodup (keyed : table.KeyedBy nameOf) : (table.values.map nameOf).Nodup := by
  rw [keyed.map_values]
  exact table.nodup_keys

/-- A value of such a table is found under its own name. -/
theorem KeyedBy.mem_values_iff (keyed : table.KeyedBy nameOf) {value : α} :
    value ∈ table.values ↔ table.get? (nameOf value) = some value := by
  unfold values
  rw [get?_eq_some_iff, List.mem_map]
  constructor
  · rintro ⟨entry, member, rfl⟩
    rw [keyed entry member]
    exact member
  · intro member
    exact ⟨_, member, rfl⟩

/-- **A table of named items holds the items**, once each. -/
theorem values_perm {items : List α} (distinct : (items.map nameOf).Nodup)
    (found : ∀ name value, table.get? name = some value ↔ value ∈ items ∧ nameOf value = name) :
    table.values.Perm items := by
  have keyed : table.KeyedBy nameOf :=
    keyedBy_iff.mpr fun name value carried => ((found name value).mp carried).2
  refine (List.perm_ext_iff_of_nodup keyed.nodup.of_map distinct.of_map).mpr fun value => ?_
  rw [keyed.mem_values_iff, found]
  exact and_iff_left rfl

end NameMap

/-! ### Object types -/

namespace ObjectType

variable {objectType : ObjectType}

/-- Attributes and relations make up a list of properties. -/
theorem perm_of_attributes_relations (properties : List Property) :
    ((properties.filterMap Property.attribute?).map Property.ofAttribute ++
      (properties.filterMap Property.relation?).map Property.ofRelation).Perm properties := by
  induction properties with
  | nil => exact .nil
  | cons property rest ih =>
      cases property with
      | ofAttribute value => exact ih.cons _
      | ofRelation value => exact List.perm_middle.trans (ih.cons _)

/-- **The properties of an object type are in order.** Each stands under its own name, and the names
increase in the order of their bytes. Each is an attribute or a relation, and no attribute has the
name of a relation. -/
structure Orderly (objectType : ObjectType) : Prop where
  keyed : objectType.properties.KeyedBy Property.name
  ascending : objectType.properties.Ascending
  split : (objectType.attributes.map Property.ofAttribute ++
    objectType.relations.map Property.ofRelation).Perm objectType.properties.values
  disjoint : (objectType.attributes.map Attribute.name).Disjoint
    (objectType.relations.map Relation.name)

theorem orderly_of_keyed (keyed : objectType.properties.KeyedBy Property.name) :
    objectType.Orderly := by
  have split := perm_of_attributes_relations objectType.properties.values
  have distinct := (split.map Property.name).nodup_iff.mpr keyed.nodup
  rw [List.map_append, List.map_map, List.map_map] at distinct
  exact ⟨keyed, objectType.properties.ascending, split, List.disjoint_of_nodup_append distinct⟩

end ObjectType

/-! ### Results -/

/-- The supertypes that an emitted object type has. -/
def Declaration.supertypes : Declaration → List String
  | .objectType declared => declared.supertypes
  | .datagroupType _ => []
  | .datatype _ => []

namespace Mapper

variable {mapper : Mapper} {model : InformationModel} {aliasName : Option String} {result : Model}

/-- **What a result owes to the model.**

* The names to emit are distinct. They are the names of the object types of the result, in another
  order, and so many are there.
* The object types are those that the declarations become one by one. An abstract object type and a
  datatype that is not structured become none.
* Object types stand under their own names, which increase in the order of their bytes, and so do
  the properties of each.
* A concrete object type is there with its direct supertypes, in order; a datagroup type and a
  structured datatype are there without supertypes. -/
structure Inventory (mapper : Mapper) (model : InformationModel) (result : Model) : Prop where
  distinct : model.emittedNames.Nodup
  names : (result.objectTypes.values.map ObjectType.name).Perm model.emittedNames
  size : result.size = model.emittedNames.length
  entries : result.objectTypes.values.Perm (mapper.emitted model)
  abstractTypes : ∀ declared ∈ model.objectTypes, declared.isAbstract = true →
    ((mapper.passOver model).emit (.objectType declared)).outcome = .ok none
  unstructured : ∀ declared ∈ model.datatypes, (∀ elements, declared.form ≠ .structured elements) →
    ((mapper.passOver model).emit (.datatype declared)).outcome = .ok none
  keyed : result.objectTypes.KeyedBy ObjectType.name
  ascending : result.objectTypes.Ascending
  orderly : ∀ objectType ∈ result.objectTypes.values, objectType.Orderly
  objectTypes : ∀ declared ∈ model.objectTypes, declared.isAbstract = false →
    ∃ objectType, result.objectType? declared.name = some objectType ∧
      objectType.supertypes = declared.supertypes
  datagroupTypes : ∀ declared ∈ model.datagroupTypes,
    ∃ objectType, result.objectType? declared.name = some objectType ∧ objectType.supertypes = []
  structured : ∀ declared ∈ model.datatypes, ∀ elements, declared.form = .structured elements →
    ∃ objectType, result.objectType? declared.name = some objectType ∧ objectType.supertypes = []

/-- **An emitted object type has the supertypes of its declaration.** -/
theorem supertypes_of_emit {declaration : Declaration} {objectType : ObjectType}
    (emitted : ((mapper.passOver model).emit declaration).outcome = .ok (some objectType)) :
    objectType.supertypes = declaration.supertypes := by
  obtain ⟨step, found, mapped⟩ := Pass.emit_eq_ok_some_iff.mp emitted
  cases declaration with
  | objectType declared =>
      rw [Pass.emission?] at found
      split at found
      · cases found
      · cases found
        have nodup := nodup_map_name_lineage mapper model declared
        exact ((Pass.objectType_eq_ok_iff nodup).mp mapped).2.2.1
  | datagroupType declared =>
      cases found
      rw [Pass.outcome_datagroupType] at mapped
      obtain ⟨-, -, -, supertypes, -⟩ := Pass.mapElement_eq_ok_iff.mp mapped
      exact supertypes
  | datatype declared =>
      obtain ⟨elements, -, rfl⟩ := Option.map_eq_some_iff.mp found
      rw [Pass.outcome_structured] at mapped
      obtain ⟨-, -, -, supertypes, -⟩ := Pass.mapElement_eq_ok_iff.mp mapped
      exact supertypes

/-- The properties of an emitted object type are in order. -/
theorem orderly_of_emit {declaration : Declaration} {objectType : ObjectType}
    (emitted : ((mapper.passOver model).emit declaration).outcome = .ok (some objectType)) :
    objectType.Orderly := by
  refine ObjectType.orderly_of_keyed (NameMap.keyedBy_iff.mpr fun name property carried => ?_)
  exact (exists_supplier_of_emit emitted carried).1

section Mapped

variable (mapped : (mapper.map model aliasName).outcome = .ok result)

include mapped

/-- The object types of a result are those that the declarations become. -/
theorem values_perm_emitted : result.objectTypes.values.Perm (mapper.emitted model) := by
  obtain ⟨-, -, built⟩ := map_eq_ok_iff_build.mp mapped
  obtain ⟨distinct, -, found⟩ := Model.Draft.build_eq_ok_iff.mp built
  exact NameMap.values_perm distinct found

/-- They go by the names to emit. -/
theorem map_name_values_perm :
    (result.objectTypes.values.map ObjectType.name).Perm model.emittedNames := by
  obtain ⟨-, maps, -⟩ := map_eq_ok_iff.mp mapped
  have names := (values_perm_emitted mapped).map ObjectType.name
  rw [emitted, Pass.map_name_emitted maps] at names
  exact names.trans model.perm_emittedNames

theorem keyedBy_name : result.objectTypes.KeyedBy ObjectType.name := by
  obtain ⟨-, -, built⟩ := map_eq_ok_iff_build.mp mapped
  obtain ⟨-, -, found⟩ := Model.Draft.build_eq_ok_iff.mp built
  exact NameMap.keyedBy_iff.mpr fun name objectType carried =>
    ((found name objectType).mp carried).2

/-- What a declaration becomes is there under its name, with its supertypes. -/
theorem exists_supertypes_of_map {declaration : Declaration}
    (member : declaration ∈ model.declarations) (emits : declaration.emits = true) :
    ∃ objectType, result.objectType? declaration.name = some objectType ∧
      objectType.supertypes = declaration.supertypes := by
  obtain ⟨objectType, found, emitted⟩ := exists_objectType?_of_map mapped member emits
  exact ⟨objectType, found, supertypes_of_emit emitted⟩

/-- **No declared type is lost, invented or merged.** -/
theorem inventory : mapper.Inventory model result := by
  have names := map_name_values_perm mapped
  have keyed := keyedBy_name mapped
  have values := values_perm_emitted mapped
  refine
    { distinct := names.nodup_iff.mp keyed.nodup
      names
      size := ?_
      entries := values
      abstractTypes := fun declared _ isAbstract => ?_
      unstructured := fun declared _ notStructured => ?_
      keyed
      ascending := result.objectTypes.ascending
      orderly := fun objectType member => ?_
      objectTypes := fun declared member isConcrete => ?_
      datagroupTypes := fun declared member => ?_
      structured := fun declared member elements isStructured => ?_ }
  · rw [← names.length_eq, List.length_map]
    exact (List.length_map _).symm
  · refine Pass.emit_eq_ok_none_iff.mpr ?_
    rw [Declaration.emits, isAbstract]
    rfl
  · refine Pass.emit_eq_ok_none_iff.mpr ?_
    rw [Declaration.emits, Datatype.dataElements?]
    split
    · exact absurd ‹_› (notStructured _)
    · rfl
  · obtain ⟨declaration, -, emitted⟩ := mem_emitted_iff.mp (values.mem_iff.mp member)
    exact orderly_of_emit emitted
  · exact exists_supertypes_of_map mapped
      (InformationModel.objectType_mem_declarations.mpr member)
      (Declaration.emits_of_concrete isConcrete)
  · exact exists_supertypes_of_map mapped
      (InformationModel.datagroupType_mem_declarations.mpr member) rfl
  · refine exists_supertypes_of_map mapped
      (InformationModel.datatype_mem_declarations.mpr member) ?_
    rw [Declaration.emits, Datatype.dataElements?, isStructured]
    rfl

end Mapped

/-- One type of each kind, over two packages. -/
def assortment : InformationModel where
  name := "M"
  packages := [
    { name := "P"
      objectTypes := [
        { name := "Weg", supertypes := ["Bau", "Ort"],
          members := { attributes := [{ name := "länge", datatype := some "Real" }] } },
        { name := "Bau", isAbstract := true }]
      datatypes := [
        { name := "Punkt", form := .structured [{ name := "x", datatype := some "Real" }] },
        { name := "Art", form := .enumeration ["a", "b"] },
        { name := "Kataster", form := .referenceList }] },
    { name := "Q"
      objectTypes := [{ name := "Ort", isAbstract := true }]
      datagroupTypes := [
        { name := "Ära", members := { relations := [{ name := "ort", target := some "Weg" }] } }] }]

theorem inventory_assortment : ∃ result, (map {} assortment none).outcome = .ok result ∧
    ({} : Mapper).Inventory assortment result := by
  obtain ⟨result, mapped⟩ : ∃ result, (map {} assortment none).outcome = .ok result := ⟨_, rfl⟩
  exact ⟨result, mapped, inventory mapped⟩

end Mapper

end InfoModel
