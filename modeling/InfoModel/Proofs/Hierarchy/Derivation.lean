/-
**Derivation in a hierarchy.**

A type derives from another if a chain of direct supertypes leads from the one to the other. The
breadth-first walk of a hierarchy finds just these types.

* `Hierarchy.Derives` is the transitive closure of the direct supertypes, `Hierarchy.Acyclic` says
  that no type derives from itself;
* `climb_spec`: the walk ends with a list that holds the supertypes of everything in it. The types
  seen are at any time the types passed and behind them the queue, and there are never more of them
  than the fuel of the walk;
* `mem_ancestors_iff`: the ancestors of a type are the other types that it derives from, each once;
* `Alike.ancestors`: the walk depends on the supertypes alone, not on how types are numbered;
* `alike_of_perm`: the supertypes do not depend on the order of the declarations.
-/

import InfoModel.Hierarchy.Basic
import Mathlib.Data.List.Nodup
import Mathlib.Data.List.Perm.Subperm
import Mathlib.Logic.Relation

namespace InfoModel.Hierarchy

open Relation

/-! ### Names of a list without the names seen -/

theorem mem_unseen {seen names : List String} {name : String} :
    name ∈ unseen seen names ↔ name ∈ names ∧ name ∉ seen := by
  induction names generalizing seen with
  | nil => simp [unseen]
  | cons head rest ih =>
      unfold unseen
      by_cases known : head ∈ seen
      · rw [if_pos known, ih]
        constructor
        · rintro ⟨later, fresh⟩
          exact ⟨List.mem_cons_of_mem _ later, fresh⟩
        · rintro ⟨member, fresh⟩
          rcases List.mem_cons.mp member with rfl | later
          · exact absurd known fresh
          · exact ⟨later, fresh⟩
      · rw [if_neg known, List.mem_cons, ih]
        by_cases same : name = head
        · subst same
          simp [known]
        · simp [same]

theorem nodup_unseen (seen names : List String) : (unseen seen names).Nodup := by
  induction names generalizing seen with
  | nil => exact List.nodup_nil
  | cons head rest ih =>
      unfold unseen
      by_cases known : head ∈ seen
      · rw [if_pos known]
        exact ih seen
      · rw [if_neg known]
        refine List.nodup_cons.mpr ⟨fun member => ?_, ih _⟩
        exact (mem_unseen.mp member).2 List.mem_cons_self

/-! ### The relation -/

/-- The first type names the second among its supertypes. -/
def Extends (hierarchy : Hierarchy) (subtype supertype : String) : Prop :=
  supertype ∈ hierarchy.direct subtype

/-- **A type derives from another**: direct supertypes lead from the one to the other. -/
def Derives (hierarchy : Hierarchy) (subtype supertype : String) : Prop :=
  TransGen hierarchy.Extends subtype supertype

/-- No type derives from itself. -/
def Acyclic (hierarchy : Hierarchy) : Prop :=
  ∀ name, ¬ hierarchy.Derives name name

/-- The direct supertypes lead from types of the hierarchy to types of the hierarchy. -/
def Closed (hierarchy : Hierarchy) : Prop :=
  ∀ subtype supertype, hierarchy.Extends subtype supertype →
    subtype ∈ hierarchy.names ∧ supertype ∈ hierarchy.names

theorem extends_iff {hierarchy : Hierarchy} {subtype supertype : String} :
    hierarchy.Extends subtype supertype ↔ (subtype, supertype) ∈ hierarchy.edges := by
  simp [Extends, direct]

theorem mem_subtypes {hierarchy : Hierarchy} {subtype supertype : String} :
    subtype ∈ hierarchy.subtypes supertype ↔ hierarchy.Extends subtype supertype := by
  rw [extends_iff]
  simp [subtypes]

theorem extends_ofDeclarations {declarations : List (String × List String)}
    {subtype supertype : String} :
    (ofDeclarations declarations).Extends subtype supertype ↔
      ∃ supertypes, (subtype, supertypes) ∈ declarations ∧ supertype ∈ supertypes := by
  rw [extends_iff]
  simp [ofDeclarations, edgesOf]

theorem closed_ofDeclarations (declarations : List (String × List String)) :
    (ofDeclarations declarations).Closed := by
  intro subtype supertype edge
  obtain ⟨supertypes, declared, named⟩ := extends_ofDeclarations.mp edge
  constructor <;> refine mem_unseen.mpr ⟨List.mem_flatMap.mpr ⟨_, declared, ?_⟩, List.not_mem_nil⟩
  · exact List.mem_cons_self
  · exact List.mem_cons_of_mem _ named

/-- Derivation in an acyclic hierarchy never goes both ways. -/
theorem Acyclic.asymm {hierarchy : Hierarchy} (acyclic : hierarchy.Acyclic) {first second : String}
    (up : hierarchy.Derives first second) : ¬ hierarchy.Derives second first :=
  fun down => acyclic first (up.trans down)

/-! ### The breadth-first walk -/

/-- What holds between two steps of a walk from `start`: the types in `seen` are the types passed
and behind them the queue, and everything above a type passed has been seen. -/
structure Climbing (hierarchy : Hierarchy) (start : String) (passed queue seen : List String) :
    Prop where
  split : seen = passed ++ queue
  nodup : seen.Nodup
  reached : ∀ name ∈ seen, name = start ∨ hierarchy.Derives start name
  above : ∀ name ∈ passed, ∀ supertype ∈ hierarchy.direct name, supertype ∈ seen

/-- The start of a walk. -/
theorem Climbing.init (hierarchy : Hierarchy) (start : String) :
    hierarchy.Climbing start [] [start] [start] where
  split := rfl
  nodup := List.nodup_singleton start
  reached _ member := Or.inl (List.mem_singleton.mp member)
  above _ member := absurd member List.not_mem_nil

/-- One step: the first type of the queue is passed, its new supertypes go to the end. -/
theorem Climbing.step {hierarchy : Hierarchy} {start name : String}
    {passed queue seen : List String}
    (climbing : hierarchy.Climbing start passed (name :: queue) seen) :
    hierarchy.Climbing start (passed ++ [name])
      (queue ++ unseen seen (hierarchy.direct name))
      (seen ++ unseen seen (hierarchy.direct name)) where
  split := by simp [climbing.split]
  nodup := by
    refine List.nodup_append.mpr ⟨climbing.nodup, nodup_unseen _ _, ?_⟩
    intro old oldMember fresh freshMember same
    exact (mem_unseen.mp freshMember).2 (same ▸ oldMember)
  reached := by
    intro other member
    have nameSeen : name ∈ seen := by simp [climbing.split]
    rcases List.mem_append.mp member with old | fresh
    · exact climbing.reached other old
    · have edge : hierarchy.Extends name other := (mem_unseen.mp fresh).1
      rcases climbing.reached name nameSeen with rfl | derived
      · exact Or.inr (TransGen.single edge)
      · exact Or.inr (TransGen.tail derived edge)
  above := by
    intro other member supertype direct
    rcases List.mem_append.mp member with old | now
    · exact List.mem_append_left _ (climbing.above other old supertype direct)
    · rw [List.mem_singleton.mp now] at direct
      by_cases known : supertype ∈ seen
      · exact List.mem_append_left _ known
      · exact List.mem_append_right _ (mem_unseen.mpr ⟨direct, known⟩)

/-- There are no more types to see than the start and the types of the hierarchy. -/
theorem Climbing.length_le {hierarchy : Hierarchy} (closed : hierarchy.Closed) {start : String}
    {passed queue seen : List String} (climbing : hierarchy.Climbing start passed queue seen) :
    seen.length ≤ hierarchy.names.length + 1 := by
  have inside : seen ⊆ start :: hierarchy.names := by
    intro name member
    rcases climbing.reached name member with rfl | derived
    · exact List.mem_cons_self
    · obtain ⟨before, _, edge⟩ := TransGen.tail'_iff.mp derived
      exact List.mem_cons_of_mem _ (closed _ _ edge).2
  have bound := (List.subperm_of_subset climbing.nodup inside).length_le
  simpa using bound

/-- Once as many types are passed as can be seen, none is left in the queue. -/
theorem Climbing.queue_eq_nil {hierarchy : Hierarchy} (closed : hierarchy.Closed) {start : String}
    {passed queue seen : List String} (climbing : hierarchy.Climbing start passed queue seen)
    (all : hierarchy.names.length + 1 ≤ passed.length) : queue = [] := by
  have bound := climbing.length_le closed
  rw [climbing.split, List.length_append] at bound
  exact List.eq_nil_of_length_eq_zero (by omega)

/-- **The walk ends with everything above its types.** Each step passes one type, so fuel for all
types that can be seen is enough to empty the queue. -/
theorem climb_spec {hierarchy : Hierarchy} (closed : hierarchy.Closed) {start : String} (fuel : Nat)
    {passed queue seen : List String} (climbing : hierarchy.Climbing start passed queue seen)
    (enough : hierarchy.names.length + 1 ≤ fuel + passed.length) :
    ∃ later, hierarchy.climb fuel queue seen = seen ++ later ∧
      hierarchy.Climbing start (seen ++ later) [] (seen ++ later) := by
  induction fuel generalizing passed queue seen with
  | zero =>
      obtain rfl := climbing.queue_eq_nil closed (by omega)
      have same : seen = passed := by simpa using climbing.split
      subst same
      exact ⟨[], by simp [climb], by simpa using climbing⟩
  | succ fuel ih =>
      cases queue with
      | nil =>
          have same : seen = passed := by simpa using climbing.split
          subst same
          exact ⟨[], by simp [climb], by simpa using climbing⟩
      | cons name queue =>
          have room : hierarchy.names.length + 1 ≤ fuel + (passed ++ [name]).length := by
            rw [List.length_append, List.length_singleton]
            omega
          obtain ⟨later, result, final⟩ := ih climbing.step room
          refine ⟨unseen seen (hierarchy.direct name) ++ later, ?_, ?_⟩
          · rw [climb, result, List.append_assoc]
          · rw [← List.append_assoc]
            exact final

/-! ### Ancestors -/

/-- A type and its ancestors are a walk that has come to its end. -/
theorem climbing_ancestors {hierarchy : Hierarchy} (closed : hierarchy.Closed) (name : String) :
    hierarchy.Climbing name (name :: hierarchy.ancestors name) []
      (name :: hierarchy.ancestors name) := by
  obtain ⟨later, result, final⟩ := climb_spec closed (hierarchy.names.length + 1)
    (Climbing.init hierarchy name) (by simp)
  have tail : hierarchy.ancestors name = later := by
    unfold ancestors
    rw [result]
    rfl
  rw [tail]
  exact final

theorem nodup_cons_ancestors {hierarchy : Hierarchy} (closed : hierarchy.Closed) (name : String) :
    (name :: hierarchy.ancestors name).Nodup :=
  (climbing_ancestors closed name).nodup

/-- **The ancestors of a type are the other types that it derives from.** -/
theorem mem_ancestors_iff {hierarchy : Hierarchy} (closed : hierarchy.Closed)
    {name ancestor : String} :
    ancestor ∈ hierarchy.ancestors name ↔ ancestor ≠ name ∧ hierarchy.Derives name ancestor := by
  have climbing := climbing_ancestors closed name
  constructor
  · intro member
    have different : ancestor ≠ name := by
      rintro rfl
      exact (List.nodup_cons.mp climbing.nodup).1 member
    exact ⟨different, (climbing.reached _ (List.mem_cons_of_mem _ member)).resolve_left different⟩
  · rintro ⟨different, derived⟩
    have inside : ancestor ∈ name :: hierarchy.ancestors name := by
      clear different
      induction derived with
      | single edge => exact climbing.above _ List.mem_cons_self _ edge
      | tail _ edge ih => exact climbing.above _ ih _ edge
    exact (List.mem_cons.mp inside).resolve_left different

/-- The test for subtypes decides derivation between different types. -/
theorem isSubtype_iff {hierarchy : Hierarchy} (closed : hierarchy.Closed)
    {name ancestor : String} :
    hierarchy.isSubtype name ancestor = true ↔
      ancestor ≠ name ∧ hierarchy.Derives name ancestor := by
  unfold isSubtype
  rw [List.contains_iff_mem, mem_ancestors_iff closed]

/-! ### Hierarchies with the same supertypes -/

/-- **Hierarchies with the same supertypes**, however their types are numbered. -/
structure Alike (hierarchy other : Hierarchy) : Prop where
  direct : ∀ name, hierarchy.direct name = other.direct name
  size : hierarchy.names.length = other.names.length

namespace Alike

variable {hierarchy other : Hierarchy} (alike : hierarchy.Alike other)

include alike

theorem climb (fuel : Nat) (queue seen : List String) :
    hierarchy.climb fuel queue seen = other.climb fuel queue seen := by
  induction fuel generalizing queue seen with
  | zero => rfl
  | succ fuel ih =>
      cases queue with
      | nil => rfl
      | cons name queue => rw [Hierarchy.climb, Hierarchy.climb, alike.direct name, ih]

/-- **The walk depends on the supertypes alone.** -/
theorem ancestors (name : String) : hierarchy.ancestors name = other.ancestors name := by
  unfold Hierarchy.ancestors
  rw [alike.size, alike.climb]

theorem root (name : String) : hierarchy.root name = other.root name := by
  unfold Hierarchy.root hasSupertypes
  rw [alike.ancestors]
  simp only [alike.direct]

theorem isSubtype (name ancestor : String) :
    hierarchy.isSubtype name ancestor = other.isSubtype name ancestor := by
  unfold Hierarchy.isSubtype
  rw [alike.ancestors]

theorem acyclic_iff : hierarchy.Acyclic ↔ other.Acyclic := by
  have edges : hierarchy.Extends = other.Extends := by
    funext first second
    unfold Extends
    rw [alike.direct first]
  unfold Acyclic Derives
  rw [edges]

end Alike

/-! ### Declarations in another order -/

theorem direct_ofDeclarations (declarations : List (String × List String)) (name : String) :
    (ofDeclarations declarations).direct name
      = (declarations.filter fun declared => declared.1 == name).flatMap Prod.snd := by
  show ((edgesOf declarations).filter fun edge => edge.1 == name).map Prod.snd = _
  induction declarations with
  | nil => rfl
  | cons declared rest ih =>
      have edges : edgesOf (declared :: rest)
          = declared.2.map (fun supertype => (declared.1, supertype)) ++ edgesOf rest := rfl
      rw [edges, List.filter_append, List.map_append, ih]
      by_cases same : declared.1 = name
      · rw [List.filter_cons_of_pos (by simpa using same), List.flatMap_cons]
        simp [same, List.filter_map, Function.comp_def]
      · rw [List.filter_cons_of_neg (by simpa using same)]
        simp [same]

/-- Where a name is declared once at most, its declaration does not depend on the order. -/
theorem filter_eq_of_perm {declarations others : List (String × List String)}
    (perm : declarations.Perm others) (distinct : (declarations.map Prod.fst).Nodup)
    (name : String) :
    (declarations.filter fun declared => declared.1 == name)
      = others.filter fun declared => declared.1 == name := by
  have filtered := perm.filter fun declared => declared.1 == name
  have nodup : ((declarations.filter fun declared => declared.1 == name).map Prod.fst).Nodup :=
    distinct.sublist (List.filter_sublist.map Prod.fst)
  have named : ∀ declared ∈ declarations.filter fun declared => declared.1 == name,
      declared.1 = name := fun declared member => by simpa using (List.mem_filter.mp member).2
  generalize declarations.filter (fun declared => declared.1 == name) = found at *
  rcases found with _ | ⟨only, _ | ⟨second, rest⟩⟩
  · exact filtered.nil_eq
  · exact List.singleton_perm.mp filtered
  · have same : only.1 = second.1 := (named only (by simp)).trans (named second (by simp)).symm
    simp [same] at nodup

/-- **Declarations in another order make a hierarchy with the same supertypes**, if no type is
declared twice. -/
theorem alike_of_perm {declarations others : List (String × List String)}
    (perm : declarations.Perm others) (distinct : (declarations.map Prod.fst).Nodup) :
    (ofDeclarations declarations).Alike (ofDeclarations others) where
  direct name := by
    rw [direct_ofDeclarations, direct_ofDeclarations, filter_eq_of_perm perm distinct]
  size := by
    refine List.Perm.length_eq ((List.perm_ext_iff_of_nodup (nodup_unseen _ _)
      (nodup_unseen _ _)).mpr fun name => ?_)
    rw [mem_unseen, mem_unseen, (perm.flatMap_right _).mem_iff]

end InfoModel.Hierarchy
