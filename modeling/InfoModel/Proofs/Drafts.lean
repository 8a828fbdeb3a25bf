/-
**What a draft makes.**

A draft makes an object type or a model just if its parts have distinct names. The result holds
these parts and nothing else, each under its own name, so the order of the parts does not matter.

* `ObjectType.Draft.build_eq_ok_iff`, `Model.Draft.build_eq_ok_iff` describe the results;
* `ObjectType.ext_property?`: an object type is determined by its name, its supertypes and its
  properties by name; `Model.ext_objectType?` says so of a model and its object types.
-/

import InfoModel.Proofs.NameMap
import InfoModel.Schema.Model

namespace InfoModel

/-- **An object type is determined by its name, its supertypes and its properties by name.** -/
theorem ObjectType.ext_property? {first second : ObjectType} (name : first.name = second.name)
    (supertypes : first.supertypes = second.supertypes)
    (properties : ∀ name, first.property? name = second.property? name) : first = second := by
  obtain ⟨_, _, firstProperties⟩ := first
  obtain ⟨_, _, secondProperties⟩ := second
  have same : firstProperties = secondProperties := NameMap.ext_get? properties
  cases name
  cases supertypes
  cases same
  rfl

/-- **A model is determined by its alias and its object types by name.** -/
theorem Model.ext_objectType? {first second : Model} (aliasName : first.aliasName = second.aliasName)
    (objectTypes : ∀ name, first.objectType? name = second.objectType? name) : first = second := by
  obtain ⟨_, firstTypes⟩ := first
  obtain ⟨_, secondTypes⟩ := second
  have same : firstTypes = secondTypes := NameMap.ext_get? objectTypes
  cases aliasName
  cases same
  rfl

/-- **The object type of a draft** holds its properties, whose names are distinct. -/
theorem ObjectType.Draft.build_eq_ok_iff {draft : ObjectType.Draft} {result : ObjectType} :
    draft.build = .ok result ↔ (draft.properties.map Property.name).Nodup ∧
      result.name = draft.name ∧ result.supertypes = draft.supertypes ∧
      ∀ name property, result.property? name = some property ↔
        property ∈ draft.properties ∧ property.name = name := by
  unfold build
  constructor
  · intro built
    split at built
    · rename_i table made
      cases built
      obtain ⟨distinct, found⟩ := NameMap.ofDistinct_eq_ok_iff.mp made
      exact ⟨distinct, rfl, rfl, found⟩
    · cases built
  · rintro ⟨distinct, name, supertypes, found⟩
    obtain ⟨table, made⟩ := NameMap.exists_ofDistinct_eq_ok distinct
    rw [made]
    refine congrArg Except.ok (ObjectType.ext_property? name.symm supertypes.symm fun other => ?_)
    refine Option.ext fun property => ?_
    rw [found]
    exact (NameMap.ofDistinct_eq_ok_iff.mp made).2 other property

/-- The order of the properties of a draft has no part in the object type. -/
theorem ObjectType.Draft.build_eq_ok_of_perm {name : String} {supertypes : List String}
    {properties others : List Property} (perm : properties.Perm others) {result : ObjectType}
    (built : build ⟨name, supertypes, properties⟩ = .ok result) :
    build ⟨name, supertypes, others⟩ = .ok result := by
  unfold build at built ⊢
  split at built
  · rename_i table made
    rw [NameMap.ofDistinct_eq_ok_of_perm perm made]
    exact built
  · cases built

/-- **The model of a draft** holds its object types, whose names are distinct. -/
theorem Model.Draft.build_eq_ok_iff {draft : Model.Draft} {result : Model} :
    draft.build = .ok result ↔ (draft.objectTypes.map ObjectType.name).Nodup ∧
      result.aliasName = draft.aliasName ∧
      ∀ name objectType, result.objectType? name = some objectType ↔
        objectType ∈ draft.objectTypes ∧ objectType.name = name := by
  unfold build
  constructor
  · intro built
    split at built
    · rename_i table made
      cases built
      obtain ⟨distinct, found⟩ := NameMap.ofDistinct_eq_ok_iff.mp made
      exact ⟨distinct, rfl, found⟩
    · cases built
  · rintro ⟨distinct, aliasName, found⟩
    obtain ⟨table, made⟩ := NameMap.exists_ofDistinct_eq_ok distinct
    rw [made]
    refine congrArg Except.ok (Model.ext_objectType? aliasName.symm fun name => ?_)
    refine Option.ext fun objectType => ?_
    rw [found]
    exact (NameMap.ofDistinct_eq_ok_iff.mp made).2 name objectType

/-- The order of the object types of a draft has no part in the model. -/
theorem Model.Draft.build_eq_ok_of_perm {aliasName : Option String}
    {objectTypes others : List ObjectType} (perm : objectTypes.Perm others) {result : Model}
    (built : build ⟨aliasName, objectTypes⟩ = .ok result) :
    build ⟨aliasName, others⟩ = .ok result := by
  unfold build at built ⊢
  split at built
  · rename_i table made
    rw [NameMap.ofDistinct_eq_ok_of_perm perm made]
    exact built
  · cases built

end InfoModel
