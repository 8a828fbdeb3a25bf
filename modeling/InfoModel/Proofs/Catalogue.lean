/-
**The catalogue of a model without cycles.**

A model makes a catalogue just if its hierarchies are acyclic: the one of its first declarations.

* `Catalogue.build_eq_ok_iff` says so, with `InformationModel.catalogue` for that catalogue;
* `firstsFrom_append_known` and `firstsFrom_eq_self`: a later declaration of a name changes nothing,
  and where all names are distinct every declaration counts;
* `mem_lineage_iff`: the lineage of an object type consists of the type and the declared types that
  it derives from, each once (`nodup_lineage`).
-/

import InfoModel.Catalogue
import InfoModel.Proofs.Hierarchy.CycleSearch
import InfoModel.Proofs.Recorded

namespace InfoModel

/-! ### First declarations -/

section Firsts

variable {α : Type} {nameOf : α → String}

theorem mem_of_mem_firstsFrom {seen : List String} {items : List α} {item : α}
    (member : item ∈ firstsFrom nameOf seen items) : item ∈ items := by
  induction items generalizing seen with
  | nil => cases member
  | cons head rest ih =>
      rw [firstsFrom] at member
      split at member
      · exact List.mem_cons_of_mem _ (ih member)
      · exact (List.mem_cons.mp member).elim (fun same => same ▸ List.mem_cons_self)
          fun later => List.mem_cons_of_mem _ (ih later)

theorem name_notMem_of_mem_firstsFrom {seen : List String} {items : List α} {item : α}
    (member : item ∈ firstsFrom nameOf seen items) : nameOf item ∉ seen := by
  induction items generalizing seen with
  | nil => cases member
  | cons head rest ih =>
      rw [firstsFrom] at member
      split at member
      · exact ih member
      · rename_i fresh
        rcases List.mem_cons.mp member with rfl | later
        · exact fresh
        · exact fun known => ih later (List.mem_cons_of_mem _ known)

theorem nodup_firstsFrom (seen : List String) (items : List α) :
    ((firstsFrom nameOf seen items).map nameOf).Nodup := by
  induction items generalizing seen with
  | nil => exact List.nodup_nil
  | cons head rest ih =>
      rw [firstsFrom]
      split
      · exact ih seen
      · rw [List.map_cons, List.nodup_cons]
        refine ⟨fun member => ?_, ih _⟩
        obtain ⟨item, later, same⟩ := List.mem_map.mp member
        exact name_notMem_of_mem_firstsFrom later (same ▸ List.mem_cons_self)

/-- Items with distinct names are all the first of their name. -/
theorem firstsFrom_eq_self {seen : List String} {items : List α}
    (distinct : (items.map nameOf).Nodup) (fresh : ∀ item ∈ items, nameOf item ∉ seen) :
    firstsFrom nameOf seen items = items := by
  induction items generalizing seen with
  | nil => rfl
  | cons head rest ih =>
      rw [List.map_cons, List.nodup_cons] at distinct
      rw [firstsFrom, if_neg (fresh head List.mem_cons_self), ih distinct.2]
      intro item member known
      rcases List.mem_cons.mp known with same | before
      · exact distinct.1 (same ▸ List.mem_map_of_mem member)
      · exact fresh item (List.mem_cons_of_mem _ member) before

/-- **An item whose name came before does not count.** -/
theorem firstsFrom_append_known {seen : List String} {before after : List α} {item : α}
    (known : nameOf item ∈ seen ∨ nameOf item ∈ before.map nameOf) :
    firstsFrom nameOf seen (before ++ item :: after)
      = firstsFrom nameOf seen (before ++ after) := by
  induction before generalizing seen with
  | nil =>
      have inSeen : nameOf item ∈ seen := known.resolve_right List.not_mem_nil
      rw [List.nil_append, List.nil_append, firstsFrom, if_pos inSeen]
  | cons head rest ih =>
      rw [List.cons_append, List.cons_append, firstsFrom, firstsFrom]
      rw [List.map_cons, List.mem_cons] at known
      split
      · rename_i headKnown
        refine ih ?_
        rcases known with inSeen | same | later
        · exact Or.inl inSeen
        · exact Or.inl (same ▸ headKnown)
        · exact Or.inr later
      · rw [ih]
        rcases known with inSeen | same | later
        · exact Or.inl (List.mem_cons_of_mem _ inSeen)
        · exact Or.inl (same ▸ List.mem_cons_self)
        · exact Or.inr later

/-- The item that counts for a name is the first of that name. -/
theorem find?_firstsFrom {seen : List String} {items : List α} {name : String}
    (fresh : name ∉ seen) :
    (firstsFrom nameOf seen items).find? (fun item => nameOf item == name)
      = items.find? fun item => nameOf item == name := by
  induction items generalizing seen with
  | nil => rfl
  | cons head rest ih =>
      rw [firstsFrom]
      by_cases same : nameOf head = name
      · rw [if_neg (same ▸ fresh), List.find?_cons_of_pos (by simp [same]),
          List.find?_cons_of_pos (by simp [same])]
      · have stillFresh : name ∉ nameOf head :: seen := fun known =>
          (List.mem_cons.mp known).elim (fun equal => same equal.symm) fresh
        rw [List.find?_cons_of_neg (by simp [same])]
        split
        · exact ih fresh
        · rw [List.find?_cons_of_neg (by simp [same])]
          exact ih stillFresh

/-- An item of a list with distinct names is found by its name. -/
theorem find?_name_eq_some_iff {items : List α} (distinct : (items.map nameOf).Nodup)
    {name : String} {item : α} :
    items.find? (fun other => nameOf other == name) = some item ↔
      item ∈ items ∧ nameOf item = name := by
  constructor
  · intro found
    exact ⟨List.mem_of_find?_eq_some found, by simpa using List.find?_some found⟩
  · rintro ⟨member, rfl⟩
    cases found : items.find? fun other => nameOf other == nameOf item with
    | none => simpa using List.find?_eq_none.mp found item member
    | some other =>
        have same : nameOf other = nameOf item := by simpa using List.find?_some found
        rw [List.inj_on_of_nodup_map distinct (List.mem_of_find?_eq_some found) member same]

end Firsts

/-! ### The catalogue -/

namespace InformationModel

/-- The hierarchy of the datatypes that count. -/
def datatypeHierarchy (model : InformationModel) : Hierarchy :=
  .ofDeclarations ((Catalogue.datatypesOf model).map fun datatype =>
    (datatype.name, datatype.supertypes))

/-- The hierarchy of the object types that count. -/
def objectTypeHierarchy (model : InformationModel) : Hierarchy :=
  .ofDeclarations ((Catalogue.objectTypesOf model).map fun objectType =>
    (objectType.name, objectType.supertypes))

/-- No datatype and no object type derives from itself. -/
def Acyclic (model : InformationModel) : Prop :=
  model.datatypeHierarchy.Acyclic ∧ model.objectTypeHierarchy.Acyclic

/-- The catalogue of the declarations that count. -/
def catalogue (model : InformationModel) : Catalogue :=
  ⟨Catalogue.datatypesOf model, Catalogue.objectTypesOf model, model.datatypeHierarchy,
    model.objectTypeHierarchy⟩

theorem objectTypesOf_eq_of_distinct {model : InformationModel}
    (distinct : (model.objectTypes.map ObjectTypeDeclaration.name).Nodup) :
    Catalogue.objectTypesOf model = model.objectTypes :=
  firstsFrom_eq_self distinct fun _ _ => List.not_mem_nil

theorem datatypesOf_eq_of_distinct {model : InformationModel}
    (distinct : (model.datatypes.map Datatype.name).Nodup) :
    Catalogue.datatypesOf model = model.datatypes :=
  firstsFrom_eq_self distinct fun _ _ => List.not_mem_nil

/-- The datatype of a name is its first declaration. -/
theorem datatype?_eq_find? (model : InformationModel) (name : String) :
    model.catalogue.datatype? name
      = model.datatypes.find? fun datatype => datatype.name == name :=
  find?_firstsFrom List.not_mem_nil

/-- The object type of a name is its first declaration. -/
theorem objectType?_eq_find? (model : InformationModel) (name : String) :
    model.catalogue.objectType? name
      = model.objectTypes.find? fun objectType => objectType.name == name :=
  find?_firstsFrom List.not_mem_nil

theorem closed_objectTypeHierarchy (model : InformationModel) : model.objectTypeHierarchy.Closed :=
  Hierarchy.closed_ofDeclarations _

theorem closed_datatypeHierarchy (model : InformationModel) : model.datatypeHierarchy.Closed :=
  Hierarchy.closed_ofDeclarations _

end InformationModel

namespace Catalogue

theorem hierarchyOf_eq_ok_iff {declarations : List (String × List String)}
    {hierarchy : Hierarchy} : hierarchyOf declarations = .ok hierarchy ↔
      (Hierarchy.ofDeclarations declarations).Acyclic ∧
        hierarchy = Hierarchy.ofDeclarations declarations := by
  rw [← Hierarchy.build_eq_ok_iff]
  unfold hierarchyOf
  cases Hierarchy.build declarations <;> simp

/-- **A model makes a catalogue just if its hierarchies are acyclic.** -/
theorem build_eq_ok_iff {model : InformationModel} {catalogue : Catalogue} :
    (build model).outcome = .ok catalogue ↔ model.Acyclic ∧ catalogue = model.catalogue := by
  unfold build
  simp only [Recorded.outcome_bind_eq_ok_iff, Recorded.outcome_ofExcept, hierarchyOf_eq_ok_iff]
  constructor
  · rintro ⟨_, -, datatypes, ⟨datatypesAcyclic, rfl⟩, objectTypes, ⟨objectTypesAcyclic, rfl⟩, _, -,
      made⟩
    exact ⟨⟨datatypesAcyclic, objectTypesAcyclic⟩, (Except.ok.inj made).symm⟩
  · rintro ⟨⟨datatypesAcyclic, objectTypesAcyclic⟩, rfl⟩
    exact ⟨(), rfl, _, ⟨datatypesAcyclic, rfl⟩, _, ⟨objectTypesAcyclic, rfl⟩, (), rfl, rfl⟩

theorem hierarchyOf_eq_error {declarations : List (String × List String)} {fault : MappingFault}
    (failed : hierarchyOf declarations = .error fault) : ∃ typeName,
      fault = .supertypeCycle typeName ∧
        (Hierarchy.ofDeclarations declarations).Derives typeName typeName := by
  unfold hierarchyOf Hierarchy.build at failed
  cases found : (Hierarchy.ofDeclarations declarations).culprit? with
  | none =>
      simp only [found] at failed
      cases failed
  | some culprit =>
      simp only [found] at failed
      cases failed
      exact ⟨culprit, rfl,
        Hierarchy.derives_of_culprit? (Hierarchy.closed_ofDeclarations declarations) found⟩

/-- **A model that makes no catalogue has a cycle**, and the fault names a type on it. -/
theorem build_eq_error {model : InformationModel} {fault : MappingFault}
    (failed : (build model).outcome = .error fault) : ∃ typeName,
      fault = .supertypeCycle typeName ∧ (model.datatypeHierarchy.Derives typeName typeName ∨
        model.objectTypeHierarchy.Derives typeName typeName) := by
  unfold build at failed
  rcases Recorded.outcome_bind_eq_error_iff.mp failed with ⟨⟨⟩⟩ | ⟨_, -, failed⟩
  rcases Recorded.outcome_bind_eq_error_iff.mp failed with datatypes | ⟨_, -, failed⟩
  · obtain ⟨typeName, rfl, derives⟩ := hierarchyOf_eq_error datatypes
    exact ⟨typeName, rfl, Or.inl derives⟩
  rcases Recorded.outcome_bind_eq_error_iff.mp failed with objectTypes | ⟨_, -, failed⟩
  · obtain ⟨typeName, rfl, derives⟩ := hierarchyOf_eq_error objectTypes
    exact ⟨typeName, rfl, Or.inr derives⟩
  rcases Recorded.outcome_bind_eq_error_iff.mp failed with ⟨⟨⟩⟩ | ⟨_, -, ⟨⟩⟩

end Catalogue

/-! ### Lineages -/

namespace InformationModel

variable {model : InformationModel}

theorem objectType?_eq_some_iff {name : String} {objectType : ObjectTypeDeclaration} :
    model.catalogue.objectType? name = some objectType ↔
      objectType ∈ Catalogue.objectTypesOf model ∧ objectType.name = name :=
  find?_name_eq_some_iff (nodup_firstsFrom _ _)

/-- **The lineage of an object type**: the type and the declared types that it derives from. -/
theorem mem_lineage_iff {objectType declarer : ObjectTypeDeclaration} :
    declarer ∈ model.catalogue.lineage objectType true ↔
      declarer = objectType ∨ declarer ∈ Catalogue.objectTypesOf model ∧
        declarer.name ≠ objectType.name ∧
          model.objectTypeHierarchy.Derives objectType.name declarer.name := by
  unfold Catalogue.lineage Catalogue.inheritedNames
  rw [List.mem_cons, if_pos rfl, List.mem_filterMap]
  refine or_congr_right ?_
  constructor
  · rintro ⟨name, above, found⟩
    obtain ⟨member, rfl⟩ := objectType?_eq_some_iff.mp found
    exact ⟨member, (Hierarchy.mem_ancestors_iff model.closed_objectTypeHierarchy).mp above⟩
  · rintro ⟨member, above⟩
    exact ⟨declarer.name, (Hierarchy.mem_ancestors_iff model.closed_objectTypeHierarchy).mpr above,
      objectType?_eq_some_iff.mpr ⟨member, rfl⟩⟩

/-- The names found in a list of names are those that are declared. -/
theorem map_name_filterMap_objectType? (names : List String) :
    (names.filterMap model.catalogue.objectType?).map ObjectTypeDeclaration.name
      = names.filter fun name => (model.catalogue.objectType? name).isSome := by
  induction names with
  | nil => rfl
  | cons name rest ih =>
      cases found : model.catalogue.objectType? name with
      | none => rw [List.filterMap_cons_none found, ih, List.filter_cons_of_neg (by simp [found])]
      | some objectType =>
          rw [List.filterMap_cons_some found, List.map_cons, ih,
            List.filter_cons_of_pos (by simp [found]), (objectType?_eq_some_iff.mp found).2]

/-- No two types of a lineage have the same name. -/
theorem nodup_lineage (objectType : ObjectTypeDeclaration) (includeInherited : Bool) :
    ((model.catalogue.lineage objectType includeInherited).map
      ObjectTypeDeclaration.name).Nodup := by
  have nodup := Hierarchy.nodup_cons_ancestors model.closed_objectTypeHierarchy objectType.name
  unfold Catalogue.lineage Catalogue.inheritedNames
  rw [List.map_cons, map_name_filterMap_objectType?]
  cases includeInherited with
  | false => exact List.nodup_singleton _
  | true => exact nodup.sublist (List.filter_sublist.cons_cons _)

end InformationModel

end InfoModel
