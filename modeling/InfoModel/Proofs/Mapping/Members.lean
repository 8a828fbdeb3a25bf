/-
**The members of one element.**

* `Resolver.outcome_valueTypeName` lists the rules for the value type of a datatype;
* `members_eq_ok_iff`: an element is mapped just if each of its attributes is, and the names of its
  members are distinct; relations that lead to no object type do not count, and are the only members
  left out (`Pass.memberNames`, `map_name_of_members`). It fails with the fault of an attribute or
  with a repeated name (`members_eq_error`);
* `Pass.AgreesOn` lists what the mapping of members asks of a pass about the names of a region. Two
  passes that agree on the names that an element mentions map it alike (`AgreesOn.members`), and two
  that agree on all names map every element alike (`Agrees.members`). So the order of the
  declarations and what is known of the object type hierarchy have no part in it.
-/

import InfoModel.Mapping.Pass
import InfoModel.Proofs.Mentions
import InfoModel.Proofs.Recorded
import Mathlib.Data.List.Nodup

namespace InfoModel

/-! ### Value types -/

/-- What a datatype that is neither text nor geometry is resolved to. -/
def Settings.baseOutcome (settings : Settings) (datatype base : String) :
    Except MappingFault String :=
  match settings.scalarKind? base, settings.unmappedTypes with
  | some kind, _ => .ok kind.name
  | none, .passThrough => .ok base
  | none, .fail => .error (.unresolvableType datatype base)

section BaseOutcome

variable {settings : Settings} {datatype base : String}

theorem Settings.baseOutcome_eq_ok_iff {name : String} :
    settings.baseOutcome datatype base = .ok name ↔
      (∃ kind, settings.scalarKind? base = some kind ∧ kind.name = name) ∨
        settings.scalarKind? base = none ∧ settings.unmappedTypes = .passThrough ∧ base = name := by
  unfold baseOutcome
  cases settings.scalarKind? base with
  | some kind => simp
  | none => cases settings.unmappedTypes <;> simp

theorem Settings.baseOutcome_eq_error_iff {fault : MappingFault} :
    settings.baseOutcome datatype base = .error fault ↔
      settings.scalarKind? base = none ∧ settings.unmappedTypes = .fail ∧
        fault = .unresolvableType datatype base := by
  unfold baseOutcome
  cases settings.scalarKind? base with
  | some kind => simp
  | none => cases settings.unmappedTypes <;> simp [eq_comm]

end BaseOutcome

namespace Resolver

variable {resolver other : Resolver} {datatype : String}

/-- **The outcome for a datatype**, rule by rule. -/
theorem outcome_valueTypeName : (resolver.valueTypeName datatype).outcome =
    if resolver.isDeclaredText datatype = true ∨ resolver.catalogue.datatypeHierarchy.isSubtype
        datatype resolver.settings.stringSupertype = true then
      .ok ScalarKind.string.name
    else if resolver.settings.isGeometryName datatype = true then .ok ScalarKind.geometry.name
    else resolver.settings.baseOutcome datatype (resolver.base datatype) := by
  unfold valueTypeName Settings.baseOutcome
  by_cases declared : resolver.isDeclaredText datatype = true
  · rw [if_pos declared, if_pos (Or.inl declared)]
    rfl
  by_cases derives : resolver.catalogue.datatypeHierarchy.isSubtype datatype
      resolver.settings.stringSupertype = true
  · rw [if_neg declared, if_pos derives, if_pos (Or.inr derives)]
    rfl
  rw [if_neg declared, if_neg derives, if_neg (not_or.mpr ⟨declared, derives⟩)]
  by_cases geometry : resolver.settings.isGeometryName datatype = true
  · rw [if_pos geometry, if_pos geometry]
    rfl
  rw [if_neg geometry, if_neg geometry]
  dsimp only
  cases resolver.settings.scalarKind? (resolver.base datatype) with
  | some kind => rfl
  | none => cases resolver.settings.unmappedTypes <;> rfl

/-- The value type of a datatype depends on its declaration, on what it derives from and on its
topmost supertype. -/
theorem valueTypeName_congr (settings : resolver.settings = other.settings)
    (declaredText : resolver.isDeclaredText datatype = other.isDeclaredText datatype)
    (isSubtype : ∀ ancestor, resolver.catalogue.datatypeHierarchy.isSubtype datatype ancestor
      = other.catalogue.datatypeHierarchy.isSubtype datatype ancestor)
    (base : resolver.base datatype = other.base datatype) :
    resolver.valueTypeName datatype = other.valueTypeName datatype := by
  unfold valueTypeName
  rw [declaredText, isSubtype, settings, base]

end Resolver

namespace Pass

variable {pass other : Pass} {owner : String}

/-! ### Names -/

/-- The names of the members of an element, without the relations that are left out. -/
def memberNames (pass : Pass) (members : Members) : List String :=
  members.attributes.map AttributeDeclaration.name ++
    (members.relations.filter fun relation => (pass.target? relation).isSome).map
      RelationDeclaration.name ++
    members.datagroups.map DatagroupReference.name

/-- The property that a relation becomes, if it leads to an object type. -/
def relation? (pass : Pass) (relation : RelationDeclaration) : Option Property :=
  (pass.target? relation).map fun target => .ofRelation (relationTo relation target)

theorem outcome_relation (relation : RelationDeclaration) :
    (pass.relation owner relation).outcome = .ok (pass.relation? relation) := by
  unfold Pass.relation relation?
  cases pass.target? relation <;> rfl

/-- A member keeps its name. -/
theorem name_of_member {declared : AttributeDeclaration} {property : Property}
    (mapped : (pass.member owner declared).outcome = .ok property) :
    property.name = declared.name := by
  unfold Pass.member at mapped
  obtain ⟨resolved, -, rest⟩ := Recorded.outcome_bind_eq_ok_iff.mp mapped
  cases resolved with
  | scalar name =>
      obtain ⟨valueType, -, made⟩ := Recorded.outcome_bind_eq_ok_iff.mp rest
      rw [← Recorded.outcome_pure_eq_ok_iff.mp made]
      rfl
  | relation target =>
      rw [← Recorded.outcome_pure_eq_ok_iff.mp rest]
      rfl

theorem map_name_of_attributes {attributes : List AttributeDeclaration}
    {properties : List Property}
    (mapped : List.Forall₂ (fun declared property =>
      (pass.member owner declared).outcome = .ok property) attributes properties) :
    properties.map Property.name = attributes.map AttributeDeclaration.name := by
  induction mapped with
  | nil => rfl
  | cons one _ ih => rw [List.map_cons, List.map_cons, ih, name_of_member one]

theorem map_name_of_relations (pass : Pass) (relations : List RelationDeclaration) :
    (relations.filterMap pass.relation?).map Property.name
      = (relations.filter fun relation => (pass.target? relation).isSome).map
        RelationDeclaration.name := by
  induction relations with
  | nil => rfl
  | cons relation rest ih =>
      cases target : pass.target? relation with
      | none =>
          rw [List.filterMap_cons_none (by simp [relation?, target]), ih,
            List.filter_cons_of_neg (by simp [target])]
      | some name =>
          have kept : pass.relation? relation = some (.ofRelation (relationTo relation name)) := by
            simp [relation?, target]
          rw [List.filterMap_cons_some kept, List.filter_cons_of_pos (by simp [target]),
            List.map_cons, List.map_cons, ih]
          rfl

theorem map_name_of_datagroups (datagroups : List DatagroupReference) :
    (datagroups.map datagroup).map Property.name = datagroups.map DatagroupReference.name := by
  rw [List.map_map]
  rfl

theorem firstRepeat?_eq_none_iff {seen names : List String} :
    firstRepeat? seen names = none ↔ names.Nodup ∧ ∀ name ∈ names, name ∉ seen := by
  induction names generalizing seen with
  | nil => simp [firstRepeat?]
  | cons name rest ih =>
      rw [firstRepeat?]
      by_cases known : name ∈ seen
      · simp [known]
      · rw [if_neg known, ih, List.nodup_cons]
        constructor
        · rintro ⟨nodup, fresh⟩
          refine ⟨⟨fun member => fresh name member List.mem_cons_self, nodup⟩, ?_⟩
          intro later member before
          rcases List.mem_cons.mp member with rfl | inRest
          · exact known before
          · exact fresh later inRest (List.mem_cons_of_mem _ before)
        · rintro ⟨⟨once, nodup⟩, fresh⟩
          refine ⟨nodup, ?_⟩
          intro later member before
          rcases List.mem_cons.mp before with rfl | inSeen
          · exact once member
          · exact fresh later (List.mem_cons_of_mem _ member) inSeen

/-! ### Success -/

/-- The properties of an element, given those of its attributes. -/
def assembled (pass : Pass) (members : Members) (attributes : List Property) : List Property :=
  attributes ++ members.relations.filterMap pass.relation? ++ members.datagroups.map datagroup

theorem map_name_assembled {members : Members} {attributes : List Property}
    (mapped : List.Forall₂ (fun declared property =>
      (pass.member owner declared).outcome = .ok property) members.attributes attributes) :
    (pass.assembled members attributes).map Property.name = pass.memberNames members := by
  unfold assembled memberNames
  rw [List.map_append, List.map_append, map_name_of_attributes mapped, map_name_of_relations,
    map_name_of_datagroups]

/-- The check of the names at the end. -/
theorem outcome_checkNames_eq_ok_iff {properties result : List Property} :
    (match firstRepeat? [] (properties.map Property.name) with
      | some name => Recorded.fail (.duplicateProperty owner name)
      | none => (pure properties : Recorded (List Property))).outcome = .ok result ↔
      (properties.map Property.name).Nodup ∧ result = properties := by
  cases found : firstRepeat? [] (properties.map Property.name) with
  | none => simp [(firstRepeat?_eq_none_iff.mp found).1, eq_comm]
  | some name =>
      constructor
      · rintro ⟨⟩
      · rintro ⟨nodup, -⟩
        rw [firstRepeat?_eq_none_iff.mpr ⟨nodup, by simp⟩] at found
        cases found

theorem outcome_checkNames_eq_error_iff {properties : List Property} {fault : MappingFault} :
    (match firstRepeat? [] (properties.map Property.name) with
      | some name => Recorded.fail (.duplicateProperty owner name)
      | none => (pure properties : Recorded (List Property))).outcome = .error fault ↔
      ∃ name, firstRepeat? [] (properties.map Property.name) = some name ∧
        fault = .duplicateProperty owner name := by
  cases firstRepeat? [] (properties.map Property.name) <;> simp [eq_comm]

/-- **An element is mapped just if its attributes are and its members have distinct names.** -/
theorem members_eq_ok_iff {members : Members} {properties : List Property} :
    (pass.members owner members).outcome = .ok properties ↔
      (pass.memberNames members).Nodup ∧ ∃ attributes,
        List.Forall₂ (fun declared property => (pass.member owner declared).outcome = .ok property)
          members.attributes attributes ∧ properties = pass.assembled members attributes := by
  have relations : (members.relations.mapM (pass.relation owner)).outcome
      = .ok (members.relations.map pass.relation?) :=
    Recorded.outcome_mapM_of_forall outcome_relation _
  have same : ∀ attributes, attributes ++ (members.relations.map pass.relation?).filterMap id ++
      members.datagroups.map datagroup = pass.assembled members attributes := by
    intro attributes
    rw [List.filterMap_map]
    rfl
  unfold Pass.members
  rw [Recorded.outcome_bind_eq_ok_iff]
  constructor
  · rintro ⟨attributes, mapped, rest⟩
    obtain ⟨_, found, checked⟩ := Recorded.outcome_bind_eq_ok_iff.mp rest
    obtain rfl := Except.ok.inj (relations.symm.trans found)
    have each := Recorded.outcome_mapM_eq_ok_iff.mp mapped
    rw [same] at checked
    obtain ⟨distinct, result⟩ := outcome_checkNames_eq_ok_iff.mp checked
    rw [map_name_assembled each] at distinct
    exact ⟨distinct, attributes, each, result⟩
  · rintro ⟨nodup, attributes, each, rfl⟩
    refine ⟨attributes, Recorded.outcome_mapM_eq_ok_iff.mpr each,
      Recorded.outcome_bind_eq_ok_iff.mpr ⟨_, relations, ?_⟩⟩
    rw [same]
    refine outcome_checkNames_eq_ok_iff.mpr ⟨?_, rfl⟩
    rw [map_name_assembled each]
    exact nodup

/-- **An element fails with the fault of one of its attributes, or with a repeated name.** -/
theorem members_eq_error {members : Members} {fault : MappingFault}
    (failed : (pass.members owner members).outcome = .error fault) :
    (∃ declared ∈ members.attributes, (pass.member owner declared).outcome = .error fault) ∨
      ∃ name, firstRepeat? [] (pass.memberNames members) = some name ∧
        fault = .duplicateProperty owner name := by
  have relations : (members.relations.mapM (pass.relation owner)).outcome
      = .ok (members.relations.map pass.relation?) :=
    Recorded.outcome_mapM_of_forall outcome_relation _
  unfold Pass.members at failed
  rcases Recorded.outcome_bind_eq_error_iff.mp failed with unmapped | ⟨attributes, mapped, rest⟩
  · exact Or.inl (Recorded.exists_of_outcome_mapM_eq_error unmapped)
  rcases Recorded.outcome_bind_eq_error_iff.mp rest with unrelated | ⟨_, found, checked⟩
  · rw [relations] at unrelated
    cases unrelated
  · obtain rfl := Except.ok.inj (relations.symm.trans found)
    obtain ⟨name, repeats, rfl⟩ := outcome_checkNames_eq_error_iff.mp checked
    rw [List.filterMap_map] at repeats
    rw [← map_name_assembled (Recorded.outcome_mapM_eq_ok_iff.mp mapped)]
    exact Or.inr ⟨name, repeats, rfl⟩

/-- **The properties of an element go by the names of its members.** -/
theorem map_name_of_members {members : Members} {properties : List Property}
    (mapped : (pass.members owner members).outcome = .ok properties) :
    properties.map Property.name = pass.memberNames members := by
  obtain ⟨-, attributes, each, rfl⟩ := members_eq_ok_iff.mp mapped
  exact map_name_assembled each

/-! ### Passes that agree -/

/-- **What the mapping of members asks of a pass** about the names of a region. -/
structure AgreesOn (region : String → Prop) (pass other : Pass) : Prop where
  mapper : pass.mapper = other.mapper
  scalarLike : ∀ name, region name →
    pass.resolver.isScalarLike name = other.resolver.isScalarLike name
  declaredText : ∀ name, region name →
    pass.resolver.isDeclaredText name = other.resolver.isDeclaredText name
  base : ∀ name, region name → pass.resolver.base name = other.resolver.base name
  isSubtype : ∀ name ancestor, region name →
    pass.catalogue.datatypeHierarchy.isSubtype name ancestor
      = other.catalogue.datatypeHierarchy.isSubtype name ancestor
  known : ∀ name, region name → (pass.catalogue.objectType? name).isSome
    = (other.catalogue.objectType? name).isSome

namespace AgreesOn

variable {region : String → Prop} (agrees : AgreesOn region pass other)

include agrees

theorem settings : pass.resolver.settings = other.resolver.settings :=
  congrArg Mapper.settings agrees.mapper

theorem valueTypeName {datatype : String} (inside : region datatype) :
    pass.resolver.valueTypeName datatype = other.resolver.valueTypeName datatype :=
  Resolver.valueTypeName_congr agrees.settings (agrees.declaredText datatype inside)
    (fun ancestor => agrees.isSubtype datatype ancestor inside) (agrees.base datatype inside)

theorem choice (member : String) {alternatives : List String}
    (inside : ∀ name ∈ alternatives, region name) :
    pass.resolver.choice member alternatives = other.resolver.choice member alternatives := by
  have bases : alternatives.map pass.resolver.base = alternatives.map other.resolver.base :=
    List.map_congr_left fun name among => agrees.base name (inside name among)
  unfold Resolver.choice
  rw [bases, agrees.settings]
  cases alternatives with
  | nil => rfl
  | cons first others => simp only [agrees.valueTypeName (inside first List.mem_cons_self)]

section Attribute

variable {declared : AttributeDeclaration} (inside : ∀ name ∈ declared.mentions, region name)

include inside

theorem structuralTarget? :
    pass.resolver.structuralTarget? declared = other.resolver.structuralTarget? declared := by
  unfold Resolver.structuralTarget?
  cases typed : declared.datatype with
  | none => rfl
  | some datatype =>
      have mentioned : region datatype :=
        inside datatype (by simp [AttributeDeclaration.mentions, typed])
      simp only [agrees.scalarLike datatype mentioned]

theorem scalarName : pass.resolver.scalarName owner declared
    = other.resolver.scalarName owner declared := by
  unfold AttributeDeclaration.mentions at inside
  unfold Resolver.scalarName
  split
  · rename_i first rest _ offers
    rw [offers] at inside
    exact agrees.choice _ fun name among => inside name (List.mem_append_right _ among)
  · rename_i datatype typed _
    rw [typed] at inside
    exact agrees.valueTypeName (inside datatype (List.mem_append_left _ List.mem_cons_self))
  · rfl

/-- Passes that agree map an attribute alike. -/
theorem member : pass.member owner declared = other.member owner declared := by
  unfold Pass.member Resolver.member Pass.valueType Pass.options
  simp only [agrees.structuralTarget? inside, agrees.scalarName inside, agrees.mapper]

end Attribute

theorem target? {declared : RelationDeclaration}
    (inside : ∀ name ∈ declared.mentions, region name) :
    pass.target? declared = other.target? declared := by
  unfold Pass.target?
  cases leads : declared.target with
  | none => rfl
  | some target =>
      have mentioned : region target :=
        inside target (by simp [RelationDeclaration.mentions, leads])
      simp only [agrees.known target mentioned]

section Element

variable {element : Members} (inside : ∀ name ∈ element.mentions, region name)

include inside

theorem target?_of_mem {declared : RelationDeclaration} (listed : declared ∈ element.relations) :
    pass.target? declared = other.target? declared :=
  agrees.target? fun name mentioned => inside name
    (List.mem_append_right _ (List.mem_flatMap.mpr ⟨declared, listed, mentioned⟩))

theorem memberNames : pass.memberNames element = other.memberNames element := by
  have relations : element.relations.filter (fun relation => (pass.target? relation).isSome)
      = element.relations.filter fun relation => (other.target? relation).isSome :=
    List.filter_congr fun relation listed => by rw [agrees.target?_of_mem inside listed]
  unfold Pass.memberNames
  rw [relations]

/-- **Passes that agree map an element alike.** -/
theorem members : pass.members owner element = other.members owner element := by
  have attributes : element.attributes.mapM (pass.member owner)
      = element.attributes.mapM (other.member owner) :=
    Recorded.mapM_congr fun declared listed => agrees.member fun name mentioned => inside name
      (List.mem_append_left _ (List.mem_flatMap.mpr ⟨declared, listed, mentioned⟩))
  have relations : element.relations.mapM (pass.relation owner)
      = element.relations.mapM (other.relation owner) :=
    Recorded.mapM_congr fun declared listed => by
      unfold Pass.relation
      rw [agrees.target?_of_mem inside listed]
  unfold Pass.members
  rw [attributes, relations]

end Element

end AgreesOn

/-- **What the mapping of members asks of a pass.** -/
structure Agrees (pass other : Pass) : Prop where
  mapper : pass.mapper = other.mapper
  scalarLike : ∀ name, pass.resolver.isScalarLike name = other.resolver.isScalarLike name
  declaredText : ∀ name, pass.resolver.isDeclaredText name = other.resolver.isDeclaredText name
  base : ∀ name, pass.resolver.base name = other.resolver.base name
  isSubtype : ∀ name ancestor, pass.catalogue.datatypeHierarchy.isSubtype name ancestor
    = other.catalogue.datatypeHierarchy.isSubtype name ancestor
  known : ∀ name, (pass.catalogue.objectType? name).isSome
    = (other.catalogue.objectType? name).isSome

namespace Agrees

variable (agrees : pass.Agrees other)

include agrees

/-- Passes that agree on all names agree on those of any region. -/
theorem on (region : String → Prop) : AgreesOn region pass other where
  mapper := agrees.mapper
  scalarLike name _ := agrees.scalarLike name
  declaredText name _ := agrees.declaredText name
  base name _ := agrees.base name
  isSubtype name ancestor _ := agrees.isSubtype name ancestor
  known name _ := agrees.known name

theorem member (declared : AttributeDeclaration) :
    pass.member owner declared = other.member owner declared :=
  (agrees.on fun _ => True).member fun _ _ => trivial

theorem memberNames (members : Members) : pass.memberNames members = other.memberNames members :=
  (agrees.on fun _ => True).memberNames fun _ _ => trivial

theorem members (members : Members) :
    pass.members owner members = other.members owner members :=
  (agrees.on fun _ => True).members fun _ _ => trivial

end Agrees

end Pass

end InfoModel
