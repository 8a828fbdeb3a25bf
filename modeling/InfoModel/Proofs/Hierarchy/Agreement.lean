/-
**Hierarchies that agree in part.**

Two hierarchies agree on a region if the types of the region have the same supertypes in both, and
supertypes never lead out of it. What else the hierarchies hold is out of sight from there.

* `climb_add`: a walk that has fuel for all types does not change with more;
* `AgreeOn.ancestors`, `AgreeOn.root`, `AgreeOn.isSubtype`: the types of the region have the same
  ancestors in both. `AgreeOn.acyclic`: a hierarchy whose edges all start in the region has no cycle
  that the other lacks;
* `direct_ofDeclarations_of_distinct`: where no name is declared twice, the supertypes of a type are
  those of its declaration. So hierarchies agree where the declarations do.
-/

import InfoModel.Proofs.Hierarchy.Derivation

namespace InfoModel.Hierarchy

open Relation

/-! ### Fuel -/

/-- **More fuel does not change a walk that has enough.** The measure is that of `climb_spec`: there
is fuel for every type that was not passed yet. -/
theorem climb_add {hierarchy : Hierarchy} (closed : hierarchy.Closed) {start : String} (fuel : Nat)
    {passed queue seen : List String} (climbing : hierarchy.Climbing start passed queue seen)
    (enough : hierarchy.names.length + 1 ≤ fuel + passed.length) (extra : Nat) :
    hierarchy.climb (fuel + extra) queue seen = hierarchy.climb fuel queue seen := by
  induction fuel generalizing passed queue seen with
  | zero =>
      obtain rfl := climbing.queue_eq_nil closed (by omega)
      cases extra <;> simp [climb]
  | succ fuel ih =>
      rw [Nat.succ_add]
      cases queue with
      | nil => rfl
      | cons name queue =>
          have room : hierarchy.names.length + 1 ≤ fuel + (passed ++ [name]).length := by
            rw [List.length_append, List.length_singleton]
            omega
          rw [climb, climb, ih climbing.step room]

/-- The ancestors are found with any fuel for all types. -/
theorem ancestors_eq_tail_climb {hierarchy : Hierarchy} (closed : hierarchy.Closed) (name : String)
    (extra : Nat) : hierarchy.ancestors name
      = (hierarchy.climb (hierarchy.names.length + 1 + extra) [name] [name]).tail := by
  unfold ancestors
  rw [climb_add closed _ (Climbing.init hierarchy name) (by simp) extra]

/-! ### Regions -/

/-- **Hierarchies that agree on a region**: its types have the same supertypes in both, and these
are in the region too. -/
structure AgreeOn (region : String → Prop) (hierarchy other : Hierarchy) : Prop where
  direct : ∀ name, region name → hierarchy.direct name = other.direct name
  inside : ∀ name, region name → ∀ supertype ∈ hierarchy.direct name, region supertype

namespace AgreeOn

variable {region : String → Prop} {hierarchy other : Hierarchy}
  (agree : AgreeOn region hierarchy other)

include agree

/-- Walks that start in the region are the same. -/
theorem climb (fuel : Nat) {queue : List String} (seen : List String)
    (inside : ∀ name ∈ queue, region name) :
    hierarchy.climb fuel queue seen = other.climb fuel queue seen := by
  induction fuel generalizing queue seen with
  | zero => rfl
  | succ fuel ih =>
      cases queue with
      | nil => rfl
      | cons name queue =>
          have here : region name := inside name List.mem_cons_self
          rw [Hierarchy.climb, Hierarchy.climb, ← agree.direct name here]
          refine ih _ fun later member => ?_
          rcases List.mem_append.mp member with queued | fresh
          · exact inside later (List.mem_cons_of_mem _ queued)
          · exact agree.inside name here later (mem_unseen.mp fresh).1

/-- What a type of the region derives from is in the region. -/
theorem inside_of_derives {name ancestor : String} (here : region name)
    (derives : hierarchy.Derives name ancestor) : region ancestor := by
  induction derives with
  | single edge => exact agree.inside name here _ edge
  | tail _ edge ih => exact agree.inside _ ih _ edge

/-- Without a cycle in the one hierarchy there is none in the other, if all of its edges start in
the region. -/
theorem acyclic (starts : ∀ subtype supertype, hierarchy.Extends subtype supertype → region subtype)
    (otherAcyclic : other.Acyclic) : hierarchy.Acyclic := by
  have edges : ∀ subtype supertype, hierarchy.Extends subtype supertype →
      other.Extends subtype supertype := by
    intro subtype supertype edge
    have same := agree.direct subtype (starts subtype supertype edge)
    unfold Extends at edge ⊢
    rw [← same]
    exact edge
  intro name cycle
  exact otherAcyclic name (TransGen.mono edges name name cycle)

variable (closed : hierarchy.Closed) (otherClosed : other.Closed)

include closed otherClosed

/-- **The types of the region have the same ancestors.** -/
theorem ancestors {name : String} (here : region name) :
    hierarchy.ancestors name = other.ancestors name := by
  have same : ∀ fuel, hierarchy.climb fuel [name] [name] = other.climb fuel [name] [name] :=
    fun fuel => agree.climb fuel [name] fun only member => by
      rw [List.mem_singleton.mp member]
      exact here
  rw [ancestors_eq_tail_climb closed name other.names.length,
    ancestors_eq_tail_climb otherClosed name hierarchy.names.length, same]
  congr 2
  omega

theorem isSubtype {name : String} (here : region name) (ancestor : String) :
    hierarchy.isSubtype name ancestor = other.isSubtype name ancestor := by
  unfold Hierarchy.isSubtype
  rw [agree.ancestors closed otherClosed here]

theorem root {name : String} (here : region name) : hierarchy.root name = other.root name := by
  have topmost : (hierarchy.ancestors name).filter (fun above => !hierarchy.hasSupertypes above)
      = (hierarchy.ancestors name).filter fun above => !other.hasSupertypes above := by
    refine List.filter_congr fun above member => ?_
    have inside := agree.inside_of_derives here ((mem_ancestors_iff closed).mp member).2
    unfold hasSupertypes
    rw [agree.direct above inside]
  unfold Hierarchy.root
  rw [← agree.ancestors closed otherClosed here, ← List.head?_filter, topmost, List.head?_filter]

end AgreeOn

/-! ### Declarations -/

/-- Of items with distinct names at most one has a name. -/
theorem filter_name_eq_toList_find? {α : Type} {nameOf : α → String} {items : List α}
    (distinct : (items.map nameOf).Nodup) (name : String) :
    items.filter (fun item => nameOf item == name)
      = (items.find? fun item => nameOf item == name).toList := by
  induction items with
  | nil => rfl
  | cons item rest ih =>
      rw [List.map_cons, List.nodup_cons] at distinct
      by_cases same : nameOf item = name
      · rw [List.filter_cons_of_pos (by simpa using same),
          List.find?_cons_of_pos (by simpa using same)]
        have none : rest.filter (fun other => nameOf other == name) = [] := by
          refine List.filter_eq_nil_iff.mpr fun other member named => distinct.1 ?_
          have equal : nameOf other = name := by simpa using named
          rw [same, ← equal]
          exact List.mem_map_of_mem member
        rw [none]
        rfl
      · rw [List.filter_cons_of_neg (by simpa using same),
          List.find?_cons_of_neg (by simpa using same), ih distinct.2]

/-- **The supertypes of a type are those of its only declaration.** -/
theorem direct_ofDeclarations_of_distinct {α : Type} {nameOf : α → String}
    (supertypesOf : α → List String) {items : List α} (distinct : (items.map nameOf).Nodup)
    (name : String) :
    (ofDeclarations (items.map fun item => (nameOf item, supertypesOf item))).direct name
      = (items.find? fun item => nameOf item == name).toList.flatMap supertypesOf := by
  rw [direct_ofDeclarations, List.filter_map, List.flatMap_map,
    ← filter_name_eq_toList_find? distinct]
  rfl

end InfoModel.Hierarchy
