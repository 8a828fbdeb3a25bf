/-
**Mapping is conservative.**

A package more does not change what the other packages of a model are mapped to, as long as these
neither declare nor mention its types. The types of the package may refer to the others, and derive
from them.

* `agreeOn_datatypeHierarchy`, `agreeOn_objectTypeHierarchy`: away from the types of the package,
  the hierarchies are those of the model without it;
* `Pass.AgreesOn.emit`: passes that agree on what a declaration mentions map it alike;
* `agreesOn_add`: there the two passes map members alike. `lineage_add`: the object types of the
  model have the same lineages;
* `emit_add`: so each declaration of the model is mapped alike, and with the same reports;
* `map_conservative`: if the extended model is mapped then so is the model, and what it is mapped to
  is found in the other result.
-/

import InfoModel.Proofs.Hierarchy.Agreement
import InfoModel.Proofs.Mapping.Elements

namespace InfoModel

/-! ### A package more -/

namespace InformationModel

variable {model : InformationModel} {package : Package} {name : String}

/-- **The model with a package more.** -/
def add (model : InformationModel) (package : Package) : InformationModel :=
  { model with packages := model.packages ++ [package] }

@[simp] theorem objectTypes_add :
    (model.add package).objectTypes = model.objectTypes ++ package.objectTypes := by
  simp [add, objectTypes]

@[simp] theorem datatypes_add :
    (model.add package).datatypes = model.datatypes ++ package.datatypes := by
  simp [add, datatypes]

@[simp] theorem declarations_add :
    (model.add package).declarations = model.declarations ++ package.declarations := by
  simp [add, declarations]

/-- What stands behind items is not found by a name that it does not go by. -/
theorem find?_append_of_foreign {α : Type} {nameOf : α → String} {items more : List α}
    (foreign : name ∉ more.map nameOf) :
    (items ++ more).find? (fun item => nameOf item == name)
      = items.find? fun item => nameOf item == name := by
  have none : more.find? (fun item => nameOf item == name) = none := by
    refine List.find?_eq_none.mpr fun item member same => foreign ?_
    have equal : nameOf item = name := by simpa using same
    rw [← equal]
    exact List.mem_map_of_mem member
  rw [List.find?_append, none, Option.or_none]

section Foreign

variable (foreign : name ∉ package.typeNames)

include foreign

theorem objectType?_add :
    (model.add package).catalogue.objectType? name = model.catalogue.objectType? name := by
  rw [objectType?_eq_find?, objectType?_eq_find?, objectTypes_add]
  exact find?_append_of_foreign fun declared => foreign (List.mem_append_left _ declared)

theorem datatype?_add :
    (model.add package).catalogue.datatype? name = model.catalogue.datatype? name := by
  rw [datatype?_eq_find?, datatype?_eq_find?, datatypes_add]
  exact find?_append_of_foreign fun declared => foreign (List.mem_append_right _ declared)

end Foreign

/-! ### Hierarchies -/

/-- The supertypes of an object type are those of the declaration that counts. -/
theorem direct_objectTypeHierarchy (model : InformationModel) (name : String) :
    model.objectTypeHierarchy.direct name
      = (model.catalogue.objectType? name).toList.flatMap ObjectTypeDeclaration.supertypes :=
  Hierarchy.direct_ofDeclarations_of_distinct _ (nodup_firstsFrom _ _) name

/-- The supertypes of a datatype are those of the declaration that counts. -/
theorem direct_datatypeHierarchy (model : InformationModel) (name : String) :
    model.datatypeHierarchy.direct name
      = (model.catalogue.datatype? name).toList.flatMap Datatype.supertypes :=
  Hierarchy.direct_ofDeclarations_of_distinct _ (nodup_firstsFrom _ _) name

/-- Where an object type has supertypes, some declaration of the model lists them. -/
theorem exists_of_extends_objectType {supertype : String}
    (edge : model.objectTypeHierarchy.Extends name supertype) :
    ∃ declared ∈ model.objectTypes, declared.name = name ∧ supertype ∈ declared.supertypes := by
  unfold Hierarchy.Extends at edge
  rw [direct_objectTypeHierarchy] at edge
  obtain ⟨declared, found, listed⟩ := List.mem_flatMap.mp edge
  obtain ⟨counts, same⟩ := objectType?_eq_some_iff.mp (Option.mem_toList.mp found)
  exact ⟨declared, mem_of_mem_firstsFrom counts, same, listed⟩

/-- Where a datatype has supertypes, some declaration of the model lists them. -/
theorem exists_of_extends_datatype {supertype : String}
    (edge : model.datatypeHierarchy.Extends name supertype) :
    ∃ declared ∈ model.datatypes, declared.name = name ∧ supertype ∈ declared.supertypes := by
  unfold Hierarchy.Extends at edge
  rw [direct_datatypeHierarchy, datatype?_eq_find?] at edge
  obtain ⟨declared, found, listed⟩ := List.mem_flatMap.mp edge
  have found := Option.mem_toList.mp found
  exact ⟨declared, List.mem_of_find?_eq_some found, by simpa using List.find?_some found, listed⟩

theorem mem_typeNames_of_objectType {declared : ObjectTypeDeclaration}
    (member : declared ∈ model.objectTypes) : declared.name ∈ model.typeNames :=
  List.mem_append_left _ (List.mem_map_of_mem member)

theorem mem_typeNames_of_datatype {declared : Datatype} (member : declared ∈ model.datatypes) :
    declared.name ∈ model.typeNames :=
  List.mem_append_right _ (List.mem_map_of_mem member)

theorem mem_mentions_of_objectType {declared : ObjectTypeDeclaration}
    (member : declared ∈ model.objectTypes) (mentioned : name ∈ declared.mentions) :
    name ∈ model.mentions :=
  List.mem_append_left _ (List.mem_append_left _
    (List.mem_flatMap.mpr ⟨declared, member, mentioned⟩))

theorem mem_mentions_of_datagroupType {declared : DatagroupTypeDeclaration}
    (member : declared ∈ model.datagroupTypes) (mentioned : name ∈ declared.members.mentions) :
    name ∈ model.mentions :=
  List.mem_append_left _ (List.mem_append_right _
    (List.mem_flatMap.mpr ⟨declared, member, mentioned⟩))

theorem mem_mentions_of_datatype {declared : Datatype} (member : declared ∈ model.datatypes)
    (mentioned : name ∈ declared.mentions) : name ∈ model.mentions :=
  List.mem_append_right _ (List.mem_flatMap.mpr ⟨declared, member, mentioned⟩)

/-- **What the members of an element mention, the model mentions.** -/
theorem mem_mentions_of_element {element : Element} (member : element ∈ model.elements)
    (mentioned : name ∈ element.members.mentions) : name ∈ model.mentions := by
  obtain ⟨declaration, declared, rfl⟩ := List.mem_map.mp member
  cases declaration with
  | objectType objectType =>
      exact mem_mentions_of_objectType (objectType_mem_declarations.mp declared)
        (List.mem_append_right _ mentioned)
  | datagroupType datagroupType =>
      exact mem_mentions_of_datagroupType (datagroupType_mem_declarations.mp declared) mentioned
  | datatype datatype =>
      refine mem_mentions_of_datatype (datatype_mem_declarations.mp declared)
        (List.mem_append_right _ ?_)
      have same : datatype.element.members.mentions
          = (datatype.dataElements?.getD []).flatMap fun element => element.datatype.toList := by
        simp [Datatype.element, Members.ofElements, Members.mentions, List.flatMap_map,
          DataElement.toAttribute, AttributeDeclaration.mentions]
      rw [← same]
      exact mentioned

section Unaware

variable (unaware : model.Unaware package)

include unaware

/-- The types of the model are not among those of the package. -/
theorem foreign_of_mem_typeNames (declared : name ∈ model.typeNames) : name ∉ package.typeNames :=
  fun clash => (unaware name clash).1 declared

/-- What the model mentions is not among the types of the package. -/
theorem foreign_of_mem_mentions (mentioned : name ∈ model.mentions) : name ∉ package.typeNames :=
  fun clash => (unaware name clash).2 mentioned

/-- **Away from the package, object types have the supertypes of the model without it.** -/
theorem agreeOn_objectTypeHierarchy : Hierarchy.AgreeOn (· ∉ package.typeNames)
    model.objectTypeHierarchy (model.add package).objectTypeHierarchy where
  direct name foreign := by
    rw [direct_objectTypeHierarchy, direct_objectTypeHierarchy, objectType?_add foreign]
  inside name _ supertype edge := by
    obtain ⟨declared, member, -, listed⟩ := exists_of_extends_objectType edge
    exact foreign_of_mem_mentions unaware
      (mem_mentions_of_objectType member (List.mem_append_left _ listed))

/-- **Away from the package, datatypes have the supertypes of the model without it.** -/
theorem agreeOn_datatypeHierarchy : Hierarchy.AgreeOn (· ∉ package.typeNames)
    model.datatypeHierarchy (model.add package).datatypeHierarchy where
  direct name foreign := by
    rw [direct_datatypeHierarchy, direct_datatypeHierarchy, datatype?_add foreign]
  inside name _ supertype edge := by
    obtain ⟨declared, member, -, listed⟩ := exists_of_extends_datatype edge
    exact foreign_of_mem_mentions unaware
      (mem_mentions_of_datatype member (List.mem_append_left _ listed))

/-- A cycle of the model is a cycle of the extended model. -/
theorem acyclic_of_add (acyclic : (model.add package).Acyclic) : model.Acyclic := by
  constructor
  · refine (agreeOn_datatypeHierarchy unaware).acyclic (fun subtype supertype edge => ?_) acyclic.1
    obtain ⟨declared, member, rfl, -⟩ := exists_of_extends_datatype edge
    exact foreign_of_mem_typeNames unaware (mem_typeNames_of_datatype member)
  · refine (agreeOn_objectTypeHierarchy unaware).acyclic (fun subtype supertype edge => ?_)
      acyclic.2
    obtain ⟨declared, member, rfl, -⟩ := exists_of_extends_objectType edge
    exact foreign_of_mem_typeNames unaware (mem_typeNames_of_objectType member)

end Unaware

end InformationModel

/-! ### Lineages taken over alike -/

namespace Pass

variable {pass other : Pass} {region : String → Prop} {objectType : String}

/-- Whoever keeps a property declared it before, or declares it now. -/
theorem inside_of_inherit {declarer : String} {kept result : List Declared}
    {properties : List Property} (inside : ∀ entry ∈ kept, region entry.declarer)
    (here : region declarer)
    (done : (pass.inherit objectType declarer kept properties).outcome = .ok result) :
    ∀ entry ∈ result, region entry.declarer := by
  induction properties generalizing kept with
  | nil =>
      cases done
      exact inside
  | cons property rest ih =>
      rw [inherit] at done
      split at done
      · exact ih (List.forall_mem_append.mpr ⟨inside, List.forall_mem_singleton.mpr here⟩) done
      · split at done
        · obtain ⟨_, -, later⟩ := Recorded.outcome_bind_eq_ok_iff.mp done
          exact ih inside later
        · cases done

section Alike

variable (subtypes : ∀ name ancestor, region name →
  pass.catalogue.objectTypeHierarchy.isSubtype name ancestor
    = other.catalogue.objectTypeHierarchy.isSubtype name ancestor)

include subtypes

/-- A type hands on its properties alike. -/
theorem inherit_congr {declarer : String} {kept : List Declared} (properties : List Property)
    (inside : ∀ entry ∈ kept, region entry.declarer) (here : region declarer) :
    pass.inherit objectType declarer kept properties
      = other.inherit objectType declarer kept properties := by
  induction properties generalizing kept with
  | nil => rfl
  | cons property rest ih =>
      rw [inherit, inherit]
      cases found : keeper? kept property.name with
      | none =>
          exact ih (List.forall_mem_append.mpr ⟨inside, List.forall_mem_singleton.mpr here⟩)
      | some keeper =>
          obtain ⟨entry, member, rfl, -⟩ := mem_of_keeper?_eq_some found
          simp only [subtypes entry.declarer declarer (inside entry member), ih inside]

/-- **A lineage is taken over alike** where its types and all that they mention are in a region on
which the passes agree. -/
theorem flatten_congr (agrees : AgreesOn region pass other) {kept : List Declared}
    {lineage : List ObjectTypeDeclaration} (inside : ∀ entry ∈ kept, region entry.declarer)
    (named : ∀ declared ∈ lineage, region declared.name)
    (mentioned : ∀ declared ∈ lineage, ∀ name ∈ declared.members.mentions, region name) :
    pass.flatten objectType kept lineage = other.flatten objectType kept lineage := by
  induction lineage generalizing kept with
  | nil => rfl
  | cons declared rest ih =>
      rw [List.forall_mem_cons] at named mentioned
      rw [flatten, flatten, agrees.members mentioned.1]
      refine Recorded.bind_congr fun properties _ => ?_
      rw [inherit_congr subtypes properties inside named.1]
      refine Recorded.bind_congr fun next done => ?_
      rw [← inherit_congr subtypes properties inside named.1] at done
      exact ih (inside_of_inherit inside named.1 done) named.2 mentioned.2

end Alike

/-- An object type is mapped alike where its lineage is taken over alike and lacks the same
supertypes. -/
theorem objectType_congr {declared : ObjectTypeDeclaration} (mapper : pass.mapper = other.mapper)
    (undeclared :
      pass.catalogue.undeclaredSupertypes declared pass.mapper.settings.includeInherited
        = other.catalogue.undeclaredSupertypes declared pass.mapper.settings.includeInherited)
    (flattened : pass.flatten declared.name [] (pass.lineage declared)
      = other.flatten declared.name [] (other.lineage declared)) :
    pass.objectType declared = other.objectType declared := by
  unfold lineage at flattened
  unfold objectType
  dsimp only
  rw [flattened, undeclared, mapper]

end Pass

/-! ### The two mappings -/

/-- Passes that agree map a structured datatype alike. -/
theorem Pass.AgreesOn.structured {pass other : Pass} {region : String → Prop}
    (agrees : AgreesOn region pass other) (name : String) {elements : List DataElement}
    (inside : ∀ mentioned ∈ (Members.ofElements elements).mentions, region mentioned) :
    pass.structured name elements = other.structured name elements := by
  have properties : (elements.mapM fun element => pass.member name element.toAttribute)
      = elements.mapM fun element => other.member name element.toAttribute :=
    Recorded.mapM_congr fun element listed => agrees.member fun mentioned among =>
      inside mentioned (List.mem_append_left _ (List.mem_flatMap.mpr
        ⟨element.toAttribute, List.mem_map_of_mem listed, among⟩))
  unfold Pass.structured
  rw [properties]

/-- **Passes that agree on what a declaration mentions map it alike.** An object type mentions more
than that in its lineage, so that it is taken to be mapped alike. -/
theorem Pass.AgreesOn.emit {pass other : Pass} {region : String → Prop}
    (agrees : AgreesOn region pass other) {declaration : Declaration}
    (inside : ∀ name ∈ declaration.element.members.mentions, region name)
    (objectTypes : ∀ declared, declaration = .objectType declared →
      pass.objectType declared = other.objectType declared) :
    pass.emit declaration = other.emit declaration := by
  cases declaration with
  | objectType declared =>
      show pass.concrete declared = other.concrete declared
      unfold concrete
      rw [objectTypes declared rfl]
  | datagroupType declared =>
      have inside : ∀ name ∈ declared.members.mentions, region name := inside
      show some <$> pass.datagroupType declared = some <$> other.datagroupType declared
      unfold datagroupType
      rw [agrees.members inside]
  | datatype declared =>
      have inside : ∀ name ∈ (Members.ofElements (declared.dataElements?.getD [])).mentions,
          region name := inside
      show pass.datatype declared = other.datatype declared
      unfold datatype
      cases structured : declared.dataElements? with
      | none => rfl
      | some elements =>
          rw [structured] at inside
          have same : pass.structured declared.name elements
              = other.structured declared.name elements := agrees.structured declared.name inside
          simp only [same]

/-- **Passes that agree and know the same object types map every declaration alike.** -/
theorem Pass.emit_congr {pass other : Pass} (agrees : pass.Agrees other)
    (objectTypes : pass.catalogue.objectTypes = other.catalogue.objectTypes)
    (hierarchy : pass.catalogue.objectTypeHierarchy = other.catalogue.objectTypeHierarchy)
    (declaration : Declaration) : pass.emit declaration = other.emit declaration := by
  refine (agrees.on fun _ => True).emit (fun _ _ => trivial) fun declared _ => ?_
  have lineage : pass.lineage declared = other.lineage declared := by
    unfold Pass.lineage Catalogue.lineage Catalogue.inheritedNames Catalogue.objectType?
    rw [objectTypes, hierarchy, agrees.mapper]
  refine objectType_congr agrees.mapper ?_ ?_
  · unfold Catalogue.undeclaredSupertypes Catalogue.inheritedNames Catalogue.objectType?
    rw [objectTypes, hierarchy]
  · rw [lineage]
    exact flatten_congr (fun _ _ _ => by rw [hierarchy]) (agrees.on fun _ => True) (by simp)
      (fun _ _ => trivial) fun _ _ _ _ => trivial

namespace Mapper

open InformationModel

variable {mapper : Mapper} {model : InformationModel} {package : Package}
  {aliasName : Option String} (unaware : model.Unaware package)

include unaware

/-- **Away from the package, the two passes map members alike.** -/
theorem agreesOn_add (mapper : Mapper) : Pass.AgreesOn (· ∉ package.typeNames)
    (mapper.passOver model) (mapper.passOver (model.add package)) where
  mapper := rfl
  scalarLike name foreign := by
    have same : (mapper.passOver (model.add package)).resolver.catalogue.datatype? name
        = (mapper.passOver model).resolver.catalogue.datatype? name := datatype?_add foreign
    unfold Resolver.isScalarLike
    rw [same]
  declaredText name foreign := by
    have same : (mapper.passOver (model.add package)).resolver.catalogue.datatype? name
        = (mapper.passOver model).resolver.catalogue.datatype? name := datatype?_add foreign
    unfold Resolver.isDeclaredText
    rw [same]
  base name foreign := (agreeOn_datatypeHierarchy unaware).root
    model.closed_datatypeHierarchy (model.add package).closed_datatypeHierarchy foreign
  isSubtype name ancestor foreign := (agreeOn_datatypeHierarchy unaware).isSubtype
    model.closed_datatypeHierarchy (model.add package).closed_datatypeHierarchy foreign ancestor
  known name foreign := congrArg Option.isSome (objectType?_add foreign).symm

section ObjectTypes

variable {declared : ObjectTypeDeclaration} (member : declared ∈ model.objectTypes)

include member

theorem inheritedNames_add (includeInherited : Bool) :
    (model.add package).catalogue.inheritedNames declared includeInherited
      = model.catalogue.inheritedNames declared includeInherited := by
  have foreign := foreign_of_mem_typeNames unaware (mem_typeNames_of_objectType member)
  have ancestors : model.catalogue.objectTypeHierarchy.ancestors declared.name
      = (model.add package).catalogue.objectTypeHierarchy.ancestors declared.name :=
    (agreeOn_objectTypeHierarchy unaware).ancestors model.closed_objectTypeHierarchy
      (model.add package).closed_objectTypeHierarchy foreign
  unfold Catalogue.inheritedNames
  rw [ancestors]

/-- The names above an object type of the model are not among the types of the package. -/
theorem foreign_of_mem_inheritedNames {includeInherited : Bool} {name : String}
    (above : name ∈ model.catalogue.inheritedNames declared includeInherited) :
    name ∉ package.typeNames := by
  unfold Catalogue.inheritedNames at above
  split at above
  · have derives := ((Hierarchy.mem_ancestors_iff model.closed_objectTypeHierarchy).mp above).2
    exact (agreeOn_objectTypeHierarchy unaware).inside_of_derives
      (foreign_of_mem_typeNames unaware (mem_typeNames_of_objectType member)) derives
  · cases above

/-- **The object types of the model have the same lineages.** -/
theorem lineage_add (mapper : Mapper) : (mapper.passOver (model.add package)).lineage declared
    = (mapper.passOver model).lineage declared := by
  show (model.add package).catalogue.lineage declared mapper.settings.includeInherited
    = model.catalogue.lineage declared mapper.settings.includeInherited
  unfold Catalogue.lineage
  rw [inheritedNames_add unaware member]
  refine congrArg (declared :: ·) (List.filterMap_congr fun name above => ?_)
  exact objectType?_add (foreign_of_mem_inheritedNames unaware member above)

theorem undeclaredSupertypes_add (includeInherited : Bool) :
    (model.add package).catalogue.undeclaredSupertypes declared includeInherited
      = model.catalogue.undeclaredSupertypes declared includeInherited := by
  unfold Catalogue.undeclaredSupertypes
  rw [inheritedNames_add unaware member]
  refine List.filter_congr fun name above => ?_
  rw [objectType?_add (foreign_of_mem_inheritedNames unaware member above)]

/-- An object type of the model is mapped alike. -/
theorem objectType_add (mapper : Mapper) :
    (mapper.passOver (model.add package)).objectType declared
      = (mapper.passOver model).objectType declared := by
  have flattened : (mapper.passOver model).flatten declared.name []
        ((mapper.passOver model).lineage declared)
      = (mapper.passOver (model.add package)).flatten declared.name []
        ((mapper.passOver model).lineage declared) := by
    have declarers : ∀ declarer ∈ (mapper.passOver model).lineage declared,
        declarer ∈ model.objectTypes :=
      fun declarer => mem_objectTypes_of_mem_lineage member
    refine Pass.flatten_congr (fun name ancestor foreign => ?_) (agreesOn_add unaware mapper)
      (by simp) (fun declarer inLineage => ?_) fun declarer inLineage name mentioned => ?_
    · exact (agreeOn_objectTypeHierarchy unaware).isSubtype model.closed_objectTypeHierarchy
        (model.add package).closed_objectTypeHierarchy foreign ancestor
    · exact foreign_of_mem_typeNames unaware
        (mem_typeNames_of_objectType (declarers declarer inLineage))
    · exact foreign_of_mem_mentions unaware (mem_mentions_of_objectType
        (declarers declarer inLineage) (List.mem_append_right _ mentioned))
  refine Pass.objectType_congr rfl (undeclaredSupertypes_add unaware member _) ?_
  rw [lineage_add unaware member, ← flattened]

end ObjectTypes

/-- **Each declaration of the model is mapped alike**, and with the same reports. -/
theorem emit_add {declaration : Declaration} (member : declaration ∈ model.declarations) :
    (mapper.passOver (model.add package)).emit declaration
      = (mapper.passOver model).emit declaration := by
  refine ((agreesOn_add unaware mapper).emit (fun name inside => ?_) ?_).symm
  · exact foreign_of_mem_mentions unaware
      (mem_mentions_of_element (Declaration.element_mem_elements member) inside)
  · rintro declared rfl
    exact (objectType_add unaware (objectType_mem_declarations.mp member) mapper).symm

/-- **Mapping is conservative.** A package whose types the model is not aware of does not change
what the model is mapped to. -/
theorem map_conservative {larger : Model}
    (extended : (mapper.map (model.add package) aliasName).outcome = .ok larger) :
    ∃ result, (mapper.map model aliasName).outcome = .ok result ∧
      ∀ name objectType, result.objectType? name = some objectType →
        larger.objectType? name = some objectType := by
  obtain ⟨acyclic, maps, distinct, -, holds⟩ := map_eq_ok_iff.mp extended
  rw [declarations_add, List.forall_mem_append] at maps
  rw [declarations_add, List.filter_append, List.map_append] at distinct
  have mapsModel : ∀ declaration ∈ model.declarations,
      (mapper.passOver model).Maps declaration := by
    intro declaration member
    obtain ⟨emission, mapped⟩ := maps.1 declaration member
    rw [emit_add unaware member] at mapped
    exact ⟨emission, mapped⟩
  obtain ⟨result, mapped⟩ := exists_map_eq_ok_iff.mpr
    ⟨acyclic_of_add unaware acyclic, mapsModel, (List.nodup_append.mp distinct).1⟩
  refine ⟨result, mapped, fun name objectType found => ?_⟩
  obtain ⟨-, -, -, -, holdsModel⟩ := map_eq_ok_iff.mp mapped
  obtain ⟨declaration, member, named, emitted⟩ := (holdsModel name objectType).mp found
  rw [← emit_add unaware member] at emitted
  refine (holds name objectType).mpr ⟨declaration, ?_, named, emitted⟩
  rw [declarations_add]
  exact List.mem_append_left _ member

/-! ### Bridges on roads -/

omit unaware

/-- Roads and what they have in common with other features. -/
def roads : InformationModel where
  name := "M"
  packages := [{
    name := "P"
    objectTypes := [
      { name := "Road", supertypes := ["Feature"],
        members := { relations := [{ name := "next", target := some "Road" }] } },
      { name := "Feature", isAbstract := true,
        members := { attributes := [{ name := "label", datatype := some "CharacterString" }] } }] }]

/-- Bridges, which are roads and lead to roads. -/
def bridges : Package where
  name := "Q"
  objectTypes := [
    { name := "Bridge", supertypes := ["Road"],
      members := {
        attributes := [{ name := "material", datatype := some "Material" }]
        relations := [{ name := "carries", target := some "Road" }] } }]
  datatypes := [{ name := "Material", form := .enumeration ["steel", "stone"] }]

theorem map_conservative_bridges : roads.Unaware bridges ∧
    ∃ larger result road, (map {} (roads.add bridges) none).outcome = .ok larger ∧
      (map {} roads none).outcome = .ok result ∧ result.objectType? "Road" = some road ∧
      (∀ name objectType, result.objectType? name = some objectType →
        larger.objectType? name = some objectType) ∧
      larger.objectType? "Road" = some road ∧ (larger.objectType? "Bridge").isSome = true := by
  have unaware : roads.Unaware bridges := by decide
  obtain ⟨larger, extended, found⟩ : ∃ larger,
      (map {} (roads.add bridges) none).outcome = .ok larger ∧
        (larger.objectType? "Bridge").isSome = true := ⟨_, rfl, rfl⟩
  obtain ⟨result, mapped, kept⟩ := map_conservative unaware extended
  obtain ⟨same, road, reached, isRoad⟩ : ∃ same road,
      (map {} roads none).outcome = .ok same ∧ same.objectType? "Road" = some road :=
    ⟨_, _, rfl, rfl⟩
  obtain rfl := Except.ok.inj (mapped.symm.trans reached)
  exact ⟨unaware, larger, result, road, extended, mapped, isRoad, kept, kept _ _ isRoad, found⟩

end Mapper

end InfoModel
