/-
**No member disappears silently.**

Every member that an object type could have is among its properties, or the record of the mapping
says why it is not: a relation that leads to no object type is dropped, and a member that is
declared again on a subtype is shadowed.

* `Event.isDrop` and `Event.isShadow` are the two kinds of events that account for a missing member;
* `length_of_members`: what an element declares is mapped or dropped. `length_of_inherit`: what a
  type of a lineage hands on is kept or shadowed. Along a lineage both add up (`length_of_flatten`);
* `events_map` takes the record of a mapping apart, declaration by declaration;
* `members_accounted`: in a mapped model the members declared for each object type are its
  properties, the drops and the shadows that were recorded while it was mapped.
-/

import InfoModel.Proofs.Mapping.Inventory
import Mathlib.Algebra.Ring.Nat

namespace InfoModel

/-- The event of a relation that is left out. -/
def Event.isDrop : Event → Bool
  | .relationWithoutTarget .. | .relationToUnknown .. => true
  | _ => false

/-- The event of a member that gives way to one declared on a subtype. -/
def Event.isShadow : Event → Bool
  | .shadowed .. => true
  | _ => false

/-- The number of attributes, relations and references to datagroup types. -/
def Members.size (members : Members) : Nat :=
  members.attributes.length + members.relations.length + members.datagroups.length

/-! ### Silent steps -/

section Silent

variable {kind : Event → Bool}
  (silent : ∀ base datatype, kind (.passedThrough base datatype) = false)

include silent

/-- The resolution of a datatype reports nothing but that its base is passed through. -/
theorem Resolver.count_valueTypeName (resolver : Resolver) (datatype : String) :
    (resolver.valueTypeName datatype).count kind = 0 := by
  unfold valueTypeName
  split
  · exact Recorded.count_done _
  · split
    · exact Recorded.count_done _
    · split
      · exact Recorded.count_done _
      · dsimp only
        split
        · exact Recorded.count_done _
        · split
          · exact Recorded.count_fail _
          · have unreported : kind (.passedThrough (resolver.base datatype) datatype) = false :=
              silent _ _
            refine Recorded.count_bind_eq_zero ?_ fun _ => Recorded.count_pure _
            rw [Recorded.count_report, unreported]
            rfl

theorem Resolver.count_member (resolver : Resolver) (owner : String)
    (declared : AttributeDeclaration) : (resolver.member owner declared).count kind = 0 := by
  have choice : ∀ alternatives, (resolver.choice declared.name alternatives).count kind = 0 := by
    intro alternatives
    unfold Resolver.choice
    split
    · exact Recorded.count_done _
    · split
      · split
        · exact Resolver.count_valueTypeName silent resolver _
        · exact Recorded.count_fail _
      · exact Recorded.count_fail _
  have scalar : (resolver.scalarName owner declared).count kind = 0 := by
    unfold scalarName
    split
    · exact choice _
    · exact Resolver.count_valueTypeName silent resolver _
    · exact Recorded.count_fail _
  unfold member
  split
  · exact Recorded.count_done _
  · exact Recorded.count_bind_eq_zero scalar fun _ => Recorded.count_pure _

/-- An attribute is neither dropped nor shadowed where it is mapped. -/
theorem Pass.count_member (pass : Pass) (owner : String) (declared : AttributeDeclaration) :
    (pass.member owner declared).count kind = 0 := by
  unfold Pass.member
  refine Recorded.count_bind_eq_zero (Resolver.count_member silent _ owner declared) ?_
  intro resolved
  cases resolved with
  | scalar name => exact Recorded.count_bind_eq_zero rfl fun _ => Recorded.count_pure _
  | relation target => exact Recorded.count_pure _

end Silent

namespace Pass

variable {pass : Pass} {owner : String}

/-! ### One element -/

/-- A relation becomes a property or is dropped. -/
theorem length_of_relation (pass : Pass) (owner : String) (relation : RelationDeclaration) :
    (pass.relation? relation).toList.length + (pass.relation owner relation).count Event.isDrop = 1
      ∧ (pass.relation owner relation).count Event.isShadow = 0 := by
  unfold Pass.relation relation?
  cases pass.target? relation with
  | some target => exact ⟨rfl, rfl⟩
  | none =>
      have counts : ∀ kind : Event → Bool, (do
          Recorded.report (dropEvent owner relation)
          return none : Recorded (Option Property)).count kind
          = if kind (dropEvent owner relation) then 1 else 0 := by
        intro kind
        rw [Recorded.count_bind_of_ok (Recorded.outcome_report _), Recorded.count_report,
          Recorded.count_pure, Nat.add_zero]
      have isDrop : Event.isDrop (dropEvent owner relation) = true := by
        unfold dropEvent
        split <;> rfl
      have notShadow : Event.isShadow (dropEvent owner relation) = false := by
        unfold dropEvent
        split <;> rfl
      constructor
      · show 0 + Recorded.count _ _ = 1
        rw [counts, isDrop, if_pos rfl]
      · show Recorded.count _ _ = 0
        rw [counts, notShadow, if_neg Bool.false_ne_true]

/-- Every relation becomes a property or is dropped. -/
theorem length_of_relations (pass : Pass) (owner : String)
    (relations : List RelationDeclaration) :
    (relations.filterMap pass.relation?).length
        + (relations.mapM (pass.relation owner)).count Event.isDrop = relations.length ∧
      (relations.mapM (pass.relation owner)).count Event.isShadow = 0 := by
  induction relations with
  | nil => exact ⟨rfl, rfl⟩
  | cons relation rest ih =>
      obtain ⟨total, unshadowed⟩ := ih
      obtain ⟨one, notShadowed⟩ := pass.length_of_relation owner relation
      have counts : ∀ kind, ((relation :: rest).mapM (pass.relation owner)).count kind
          = (pass.relation owner relation).count kind
            + (rest.mapM (pass.relation owner)).count kind := by
        intro kind
        have restDone : (rest.mapM (pass.relation owner)).outcome
            = .ok (rest.map pass.relation?) :=
          Recorded.outcome_mapM_of_forall outcome_relation rest
        rw [List.mapM_cons, Recorded.count_bind_of_ok (outcome_relation relation),
          Recorded.count_bind_of_ok restDone, Recorded.count_pure, Nat.add_zero]
      have lengths : ((relation :: rest).filterMap pass.relation?).length
          = (pass.relation? relation).toList.length + (rest.filterMap pass.relation?).length := by
        rw [List.filterMap_cons]
        cases pass.relation? relation with
        | none => exact (Nat.zero_add _).symm
        | some property => exact Nat.add_comm _ _
      rw [counts, counts, lengths, List.length_cons]
      exact ⟨by omega, by omega⟩

/-- **What an element declares is mapped or dropped.** -/
theorem length_of_members {members : Members} {properties : List Property}
    (mapped : (pass.members owner members).outcome = .ok properties) :
    properties.length + (pass.members owner members).count Event.isDrop = members.size ∧
      (pass.members owner members).count Event.isShadow = 0 := by
  obtain ⟨distinct, attributes, each, rfl⟩ := members_eq_ok_iff.mp mapped
  obtain ⟨kept, unshadowed⟩ := pass.length_of_relations owner members.relations
  have attributesDone : (members.attributes.mapM (pass.member owner)).outcome = .ok attributes :=
    Recorded.outcome_mapM_eq_ok_iff.mpr each
  have relationsDone : (members.relations.mapM (pass.relation owner)).outcome
      = .ok (members.relations.map pass.relation?) :=
    Recorded.outcome_mapM_of_forall outcome_relation members.relations
  -- only the relations report a drop or a shadow
  have counts : ∀ kind, (∀ base datatype, kind (.passedThrough base datatype) = false) →
      (pass.members owner members).count kind
        = (members.relations.mapM (pass.relation owner)).count kind := by
    intro kind silent
    have quiet : (members.attributes.mapM (pass.member owner)).count kind = 0 :=
      Recorded.count_mapM_eq_zero (Pass.count_member silent pass owner) _
    unfold Pass.members
    rw [Recorded.count_bind_of_ok attributesDone, Recorded.count_bind_of_ok relationsDone, quiet,
      Nat.zero_add]
    dsimp only
    split <;> rfl
  rw [counts _ fun _ _ => rfl, counts _ fun _ _ => rfl]
  refine ⟨?_, unshadowed⟩
  have sameLength := each.length_eq
  unfold assembled Members.size
  rw [List.length_append, List.length_append, List.length_map]
  omega

/-! ### A lineage -/

/-- **What a type hands on is kept or shadowed.** -/
theorem length_of_inherit {objectType declarer : String} {kept result : List Declared}
    {properties : List Property}
    (done : (pass.inherit objectType declarer kept properties).outcome = .ok result) :
    result.length + (pass.inherit objectType declarer kept properties).count Event.isShadow
        = kept.length + properties.length ∧
      (pass.inherit objectType declarer kept properties).count Event.isDrop = 0 := by
  induction properties generalizing kept with
  | nil =>
      rw [inherit] at done ⊢
      cases done
      exact ⟨rfl, rfl⟩
  | cons property rest ih =>
      rw [inherit] at done ⊢
      rw [List.length_cons]
      split at done
      · obtain ⟨total, undropped⟩ := ih done
        rw [List.length_append, List.length_singleton] at total
        exact ⟨by omega, undropped⟩
      · split at done
        · rename_i keeper _ below
          obtain ⟨_, -, restDone⟩ := Recorded.outcome_bind_eq_ok_iff.mp done
          obtain ⟨total, undropped⟩ := ih restDone
          rw [if_pos below, Recorded.count_bind_of_ok (Recorded.outcome_report _),
            Recorded.count_bind_of_ok (Recorded.outcome_report _), Recorded.count_report,
            Recorded.count_report, undropped]
          refine ⟨?_, rfl⟩
          show _ + (1 + _) = _
          omega
        · cases done

/-- **Along a lineage every member is kept, dropped or shadowed.** -/
theorem length_of_flatten {objectType : String} {kept result : List Declared}
    {lineage : List ObjectTypeDeclaration}
    (done : (pass.flatten objectType kept lineage).outcome = .ok result) :
    result.length + (pass.flatten objectType kept lineage).count Event.isDrop
        + (pass.flatten objectType kept lineage).count Event.isShadow
      = kept.length + (lineage.map fun declarer => declarer.members.size).sum := by
  induction lineage generalizing kept with
  | nil =>
      rw [flatten] at done ⊢
      cases done
      rfl
  | cons declarer rest ih =>
      rw [flatten] at done ⊢
      obtain ⟨properties, mapped, further⟩ := Recorded.outcome_bind_eq_ok_iff.mp done
      obtain ⟨next, inherited, flattened⟩ := Recorded.outcome_bind_eq_ok_iff.mp further
      obtain ⟨declared, unshadowed⟩ := length_of_members mapped
      obtain ⟨handed, undropped⟩ := length_of_inherit inherited
      have later := ih flattened
      rw [Recorded.count_bind_of_ok mapped, Recorded.count_bind_of_ok inherited,
        Recorded.count_bind_of_ok mapped, Recorded.count_bind_of_ok inherited, unshadowed,
        undropped, List.map_cons, List.sum_cons]
      omega

end Pass

/-! ### Finished object types -/

/-- A finished object type has as many properties as its draft. -/
theorem ObjectType.Draft.size_of_build {draft : ObjectType.Draft} {result : ObjectType}
    (built : draft.build = .ok result) : result.properties.size = draft.properties.length := by
  obtain ⟨distinct, -, -, found⟩ := ObjectType.Draft.build_eq_ok_iff.mp built
  have perm := NameMap.values_perm distinct found
  rw [← perm.length_eq]
  exact (List.length_map _).symm

namespace Pass

variable {pass : Pass} {result : ObjectType}

/-- An object type reports that it is started and which supertypes are not declared; all else stems
from its lineage. -/
theorem count_objectType {declared : ObjectTypeDeclaration} {kept : List Declared}
    (flattened : (pass.flatten declared.name [] (pass.lineage declared)).outcome = .ok kept)
    {kind : Event → Bool} (started : kind (.objectTypeStarted declared.name) = false)
    (undeclared : ∀ supertype, kind (.supertypeUndeclared supertype declared.name) = false) :
    (pass.objectType declared).count kind
      = (pass.flatten declared.name [] (pass.lineage declared)).count kind := by
  have silent : ∀ names : List String, (Recorded.reportAll (names.map fun supertype =>
      .supertypeUndeclared supertype declared.name)).count kind = 0 := by
    intro names
    unfold Recorded.count Recorded.reportAll
    rw [List.countP_map, List.countP_eq_zero]
    intro name _
    simp [undeclared]
  have same : pass.catalogue.lineage declared pass.mapper.settings.includeInherited
    = pass.lineage declared := rfl
  unfold Pass.objectType
  dsimp only
  rw [Recorded.count_bind_of_ok (Recorded.outcome_report _), Recorded.count_report, started,
    Recorded.count_bind_of_ok (Recorded.outcome_reportAll _), silent, same,
    Recorded.count_bind_of_ok flattened, Recorded.count_ofExcept]
  simp

/-- **The members declared along the lineage of an object type** are its properties, the drops and
the shadows. -/
theorem size_of_objectType {declared : ObjectTypeDeclaration}
    (done : (pass.objectType declared).outcome = .ok result) :
    ((pass.lineage declared).map fun declarer => declarer.members.size).sum
      = result.properties.size + (pass.objectType declared).count Event.isDrop
        + (pass.objectType declared).count Event.isShadow := by
  rw [outcome_objectType] at done
  cases flattened : (pass.flatten declared.name [] (pass.lineage declared)).outcome with
  | error fault =>
      rw [flattened] at done
      cases done
  | ok kept =>
      rw [flattened] at done
      have built : ObjectType.Draft.build
          ⟨declared.name, declared.supertypes, kept.map Declared.property⟩ = .ok result := done
      have size := ObjectType.Draft.size_of_build built
      rw [List.length_map] at size
      have total := length_of_flatten flattened
      rw [count_objectType flattened rfl fun _ => rfl, count_objectType flattened rfl fun _ => rfl]
      rw [List.length_nil] at total
      omega

/-- **The members of a datagroup type** are its properties and the drops. -/
theorem size_of_datagroupType {declared : DatagroupTypeDeclaration}
    (done : (pass.datagroupType declared).outcome = .ok result) :
    declared.members.size
        = result.properties.size + (pass.datagroupType declared).count Event.isDrop ∧
      (pass.datagroupType declared).count Event.isShadow = 0 := by
  unfold datagroupType at done
  obtain ⟨_, -, done⟩ := Recorded.outcome_bind_eq_ok_iff.mp done
  obtain ⟨properties, mapped, built⟩ := Recorded.outcome_bind_eq_ok_iff.mp done
  have size : result.properties.size = properties.length := ObjectType.Draft.size_of_build built
  obtain ⟨total, unshadowed⟩ := length_of_members mapped
  have counts : ∀ kind : Event → Bool, kind (.datagroupTypeStarted declared.name) = false →
      (pass.datagroupType declared).count kind
        = (pass.members declared.name declared.members).count kind := by
    intro kind started
    unfold datagroupType
    rw [Recorded.count_bind_of_ok (Recorded.outcome_report _), Recorded.count_report, started,
      Recorded.count_bind_of_ok mapped, Recorded.count_ofExcept]
    simp
  rw [counts _ rfl, counts _ rfl]
  exact ⟨by omega, unshadowed⟩

/-- **The data elements of a structured datatype** are its properties. -/
theorem size_of_structured {name : String} {elements : List DataElement}
    (done : (pass.structured name elements).outcome = .ok result) :
    elements.length = result.properties.size := by
  unfold structured at done
  obtain ⟨_, -, done⟩ := Recorded.outcome_bind_eq_ok_iff.mp done
  obtain ⟨properties, mapped, built⟩ := Recorded.outcome_bind_eq_ok_iff.mp done
  have size : result.properties.size = properties.length := ObjectType.Draft.size_of_build built
  rw [size]
  exact (Recorded.outcome_mapM_eq_ok_iff.mp mapped).length_eq

end Pass

/-! ### The record of a mapping -/

namespace Pass

variable {pass : Pass}

/-- A package is recorded declaration by declaration. -/
theorem events_package {package : Package} {objectTypes : List ObjectType}
    (done : (pass.package package).outcome = .ok objectTypes) :
    (pass.package package).events = .packageStarted package.name ::
      package.declarations.flatMap fun declaration => (pass.emit declaration).events := by
  rw [package_eq] at done ⊢
  obtain ⟨_, -, done⟩ := Recorded.outcome_bind_eq_ok_iff.mp done
  obtain ⟨results, mapped, -⟩ := Recorded.outcome_bind_eq_ok_iff.mp done
  rw [Recorded.events_bind_of_ok (Recorded.outcome_report _), Recorded.events_bind_of_ok mapped,
    Recorded.events_mapM_of_ok mapped, Recorded.events_pure, List.append_nil]
  rfl

/-- What is recorded for a declaration that becomes an object type is recorded by its mapping. -/
theorem events_emit {declaration : Declaration} {step : Recorded ObjectType}
    (found : pass.emission? declaration = some step) :
    (pass.emit declaration).events = step.events := by
  have wrapped : ∀ step : Recorded ObjectType,
      (step >>= fun objectType => pure (some objectType)).events = step.events := by
    intro step
    rw [Recorded.events_bind]
    cases step.outcome with
    | ok value => exact List.append_nil _
    | error fault => rfl
  cases declaration with
  | objectType declared =>
      rw [emission?] at found
      split at found
      · cases found
      · rename_i isConcrete
        cases found
        rw [emit, concrete, if_neg isConcrete]
        exact wrapped _
  | datagroupType declared =>
      cases found
      rw [emit, map_eq_pure_bind]
      exact wrapped _
  | datatype declared =>
      obtain ⟨elements, structured, rfl⟩ := Option.map_eq_some_iff.mp found
      rw [emit, datatype, structured]
      exact wrapped _

end Pass

/-- What an item gives is part of what all items give. -/
theorem infix_flatMap {α β : Type} {items : List α} {item : α} (member : item ∈ items)
    (give : α → List β) : give item <:+: items.flatMap give := by
  rw [List.flatMap_def]
  exact List.infix_of_mem_flatten (List.mem_map_of_mem member)

namespace Mapper

section Mapped

variable {mapper : Mapper} {model : InformationModel} {aliasName : Option String} {result : Model}
  (mapped : (mapper.map model aliasName).outcome = .ok result)

include mapped

/-- **The record of a mapping**: what the catalogue reports, and then package by package what each
declaration does. -/
theorem events_map :
    (mapper.map model aliasName).events = (Catalogue.build model).events ++
      (model.packages.flatMap fun package => .packageStarted package.name ::
        package.declarations.flatMap fun declaration =>
          ((mapper.passOver model).emit declaration).events) ++
      [.modelMapped model.name result.size] := by
  unfold Mapper.map at mapped ⊢
  obtain ⟨_, built, mapped⟩ := Recorded.outcome_bind_eq_ok_iff.mp mapped
  obtain ⟨packages, packagesDone, mapped⟩ := Recorded.outcome_bind_eq_ok_iff.mp mapped
  obtain ⟨made, draft, mapped⟩ := Recorded.outcome_bind_eq_ok_iff.mp mapped
  obtain ⟨-, -, mapped⟩ := Recorded.outcome_bind_eq_ok_iff.mp mapped
  obtain rfl := Recorded.outcome_pure_eq_ok_iff.mp mapped
  obtain ⟨-, rfl⟩ := Catalogue.build_eq_ok_iff.mp built
  have each : (model.packages.flatMap fun package =>
        ((mapper.passOver model).package package).events)
      = model.packages.flatMap fun package => .packageStarted package.name ::
        package.declarations.flatMap fun declaration =>
          ((mapper.passOver model).emit declaration).events := by
    refine List.flatMap_congr fun package member => ?_
    obtain ⟨objectTypes, done⟩ :=
      Recorded.exists_outcome_mapM_eq_ok_iff.mp ⟨packages, packagesDone⟩ package member
    exact Pass.events_package done
  rw [Recorded.events_bind_of_ok built]
  dsimp only
  rw [Recorded.events_bind_of_ok packagesDone, Recorded.events_bind_of_ok draft,
    Recorded.events_bind_of_ok (Recorded.outcome_report _), Recorded.events_mapM_of_ok packagesDone]
  rw [← each, List.append_assoc]
  rfl

/-- The record of a declaration is part of the record of the mapping. -/
theorem events_emit_infix {declaration : Declaration} (member : declaration ∈ model.declarations) :
    ((mapper.passOver model).emit declaration).events <:+: (mapper.map model aliasName).events := by
  obtain ⟨package, inModel, inPackage⟩ := List.mem_flatMap.mp member
  have inside : ((mapper.passOver model).emit declaration).events <:+:
      package.declarations.flatMap fun other => ((mapper.passOver model).emit other).events :=
    infix_flatMap inPackage fun other => ((mapper.passOver model).emit other).events
  have all := infix_flatMap inModel fun package => Event.packageStarted package.name ::
    package.declarations.flatMap fun other => ((mapper.passOver model).emit other).events
  rw [events_map mapped]
  exact ((List.infix_cons inside).trans all).trans (List.infix_append _ _ _)

/-- A declaration that becomes an object type is mapped by itself, and its record is part of the
whole. -/
theorem exists_emission_of_map {declaration : Declaration}
    (member : declaration ∈ model.declarations) {step : Recorded ObjectType}
    (found : (mapper.passOver model).emission? declaration = some step) :
    ∃ objectType, result.objectType? declaration.name = some objectType ∧
      step.outcome = .ok objectType ∧ step.events <:+: (mapper.map model aliasName).events := by
  have emits : declaration.emits = true := by
    rw [← (mapper.passOver model).isSome_emission?, found]
    rfl
  obtain ⟨objectType, carried, emitted⟩ := exists_objectType?_of_map mapped member emits
  obtain ⟨other, same, done⟩ := Pass.emit_eq_ok_some_iff.mp emitted
  rw [found] at same
  obtain rfl := Option.some.inj same
  refine ⟨objectType, carried, done, ?_⟩
  rw [← Pass.events_emit found]
  exact events_emit_infix mapped member

/-- **No member disappears silently.**

* For an object type, the members declared along its lineage are its properties, the relations
  dropped and the members shadowed while it was mapped.
* For a datagroup type, its members are its properties and the relations dropped. Nothing is
  shadowed.
* For a structured datatype, its data elements are its properties.

What is recorded while a type is mapped is part of the record of the whole mapping. -/
theorem members_accounted :
    (∀ declared ∈ model.objectTypes, declared.isAbstract = false →
      ∃ objectType, result.objectType? declared.name = some objectType ∧
        ((mapper.passOver model).objectType declared).events
          <:+: (mapper.map model aliasName).events ∧
        (((mapper.passOver model).lineage declared).map fun declarer => declarer.members.size).sum
          = objectType.properties.size
            + ((mapper.passOver model).objectType declared).count Event.isDrop
            + ((mapper.passOver model).objectType declared).count Event.isShadow) ∧
    (∀ declared ∈ model.datagroupTypes,
      ∃ objectType, result.objectType? declared.name = some objectType ∧
        ((mapper.passOver model).datagroupType declared).events
          <:+: (mapper.map model aliasName).events ∧
        declared.members.size = objectType.properties.size
          + ((mapper.passOver model).datagroupType declared).count Event.isDrop ∧
        ((mapper.passOver model).datagroupType declared).count Event.isShadow = 0) ∧
    ∀ declared ∈ model.datatypes, ∀ elements, declared.form = .structured elements →
      ∃ objectType, result.objectType? declared.name = some objectType ∧
        elements.length = objectType.properties.size := by
  refine ⟨?_, ?_, ?_⟩
  · intro declared member isConcrete
    have listed := InformationModel.objectType_mem_declarations.mpr member
    have found : (mapper.passOver model).emission? (.objectType declared)
        = some ((mapper.passOver model).objectType declared) := by
      rw [Pass.emission?, isConcrete]
      rfl
    obtain ⟨objectType, carried, done, recorded⟩ := exists_emission_of_map mapped listed found
    exact ⟨objectType, carried, recorded, Pass.size_of_objectType done⟩
  · intro declared member
    have listed := InformationModel.datagroupType_mem_declarations.mpr member
    obtain ⟨objectType, carried, done, recorded⟩ := exists_emission_of_map mapped listed rfl
    exact ⟨objectType, carried, recorded, Pass.size_of_datagroupType done⟩
  · intro declared member elements isStructured
    have listed := InformationModel.datatype_mem_declarations.mpr member
    have found : (mapper.passOver model).emission? (.datatype declared)
        = some ((mapper.passOver model).structured declared.name elements) := by
      rw [Pass.emission?, Datatype.dataElements?, isStructured]
      rfl
    obtain ⟨objectType, carried, done, -⟩ := exists_emission_of_map mapped listed found
    exact ⟨objectType, carried, Pass.size_of_structured done⟩

end Mapped

/-- `T` keeps its own `code` over that of `A` and takes over `zu`. It loses `ort`, which has no
target, and `bei`, whose target is not declared. `G` loses `alt`. -/
def diminished : InformationModel where
  name := "M"
  packages := [{
    name := "P"
    objectTypes := [
      { name := "T", supertypes := ["A"],
        members := {
          attributes := [{ name := "code", datatype := some "Integer" }],
          relations := [{ name := "ort" }, { name := "bei", target := some "B" }] } },
      { name := "A", isAbstract := true,
        members := {
          attributes := [{ name := "code", datatype := some "CharacterString" }],
          relations := [{ name := "zu", target := some "T" }] } }]
    datagroupTypes := [
      { name := "G",
        members := { relations := [{ name := "alt" }, { name := "neu", target := some "A" }] } }]
    datatypes := [
      { name := "Punkt", form := .structured [
        { name := "x", datatype := some "Real" }, { name := "y", datatype := some "Real" }] }] }]

theorem members_accounted_diminished : ∃ result, (map {} diminished none).outcome = .ok result ∧
    (∃ objectType, result.objectType? "T" = some objectType ∧
      3 + 2 = objectType.properties.size + 2 + 1) ∧
    (∃ objectType, result.objectType? "G" = some objectType ∧
      2 = objectType.properties.size + 1) ∧
    ∃ objectType, result.objectType? "Punkt" = some objectType ∧
      2 = objectType.properties.size := by
  obtain ⟨result, mapped⟩ : ∃ result, (map {} diminished none).outcome = .ok result := ⟨_, rfl⟩
  obtain ⟨objectTypes, datagroupTypes, structured⟩ := members_accounted mapped
  obtain ⟨first, foundFirst, -, total⟩ := objectTypes _ List.mem_cons_self rfl
  obtain ⟨second, foundSecond, -, rest, -⟩ := datagroupTypes _ List.mem_cons_self
  obtain ⟨third, foundThird, elements⟩ := structured _ List.mem_cons_self _ rfl
  exact ⟨result, mapped, ⟨first, foundFirst, total⟩, ⟨second, foundSecond, rest⟩,
    third, foundThird, elements⟩

end Mapper

end InfoModel
