/-
**What registries refuse.**

* `get?_standard_of_kind` and `get?_standard_eq_none`: the standard registry has a factory for each
  scalar kind, and no other;
* `Registry.Discreet`: the factories of a registry never report a fault of a whole model, such as a
  cycle. The standard registry is discreet (`discreet_standard`).
-/

import InfoModel.Proofs.NameMap
import InfoModel.Schema.Registry

namespace InfoModel

/-- The fault concerns a whole model: one of its hierarchies, or two of the object types to emit. -/
def MappingFault.concernsModel : MappingFault → Bool
  | .supertypeCycle _ | .duplicateObjectType _ => true
  | _ => false

namespace Registry

theorem get?_standard_of_kind (kind : ScalarKind) :
    standard.factories.get? kind.name = some (.scalar kind) := by
  cases kind <;> rfl

theorem get?_standard_eq_none {name : String} (unknown : ∀ kind : ScalarKind, kind.name ≠ name) :
    standard.factories.get? name = none := by
  have differs : ∀ kind : ScalarKind, name ≠ (ValueTypeFactory.scalar kind).typeName :=
    fun kind => (unknown kind).symm
  unfold standard ScalarKind.all register
  simp only [List.foldl_cons, List.foldl_nil, NameMap.get?_insert, if_neg (differs _)]
  rfl

/-- The factories of the standard registry are those of the scalar kinds. -/
theorem exists_kind_of_get?_standard {name : String} {factory : ValueTypeFactory}
    (found : standard.factories.get? name = some factory) :
    ∃ kind : ScalarKind, kind.name = name ∧ factory = .scalar kind := by
  by_cases unknown : ∀ kind : ScalarKind, kind.name ≠ name
  · rw [get?_standard_eq_none unknown] at found
    cases found
  · obtain ⟨kind, same⟩ := not_forall.mp unknown
    obtain rfl := not_not.mp same
    rw [get?_standard_of_kind] at found
    exact ⟨kind, rfl, (Option.some.inj found).symm⟩

/-- **A discreet registry**: its factories never report a fault that concerns a whole model. -/
def Discreet (registry : Registry) : Prop :=
  ∀ name factory options fault, registry.factories.get? name = some factory →
    factory.create options = .error fault → fault.concernsModel = false

/-- A discreet registry refuses a value type for no such fault either. -/
theorem Discreet.create {registry : Registry} (discreet : registry.Discreet) {name : String}
    {options : TypeOptions} {fault : MappingFault}
    (refuses : registry.create name options = .error fault) : fault.concernsModel = false := by
  unfold Registry.create factory at refuses
  cases found : registry.factories.get? name with
  | none =>
      rw [found] at refuses
      cases refuses
      rfl
  | some factory =>
      rw [found] at refuses
      exact discreet name factory options fault found refuses

/-- **The standard registry is discreet.** -/
theorem discreet_standard : standard.Discreet := by
  intro name factory options fault found refuses
  obtain ⟨kind, -, rfl⟩ := exists_kind_of_get?_standard found
  cases kind with
  | geometry =>
      have refuses : ValueTypeFactory.createGeometry options = .error fault := refuses
      unfold ValueTypeFactory.createGeometry at refuses
      split at refuses
      · cases refuses
        rfl
      · split at refuses <;> cases refuses
        rfl
      · cases refuses
        rfl
  | _ => cases refuses

end Registry

end InfoModel
