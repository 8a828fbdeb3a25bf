/-
**Topmost types.**

Without cycles every type has topmost types above it, unless it is topmost itself. The root of a
type is the nearest of them.

* `length_ancestors_lt`: a supertype has fewer ancestors than its subtypes, so chains of supertypes
  end (`exists_topmost`);
* `cons_ancestors_eq_append_root`: the root is the first type of the walk that has no supertypes;
* `NearestTopmost` describes the topmost type that is nearest, and of several the one listed first.
  There is one at most (`NearestTopmost.unique`), and the root is it (`root_nearestTopmost`);
* `root_exact` says what the root is in the hierarchy of a list of declarations.
-/

import InfoModel.Proofs.Hierarchy.BreadthFirst

open Relation

namespace InfoModel.Hierarchy

variable {hierarchy : Hierarchy}

theorem hasSupertypes_iff {name : String} :
    hierarchy.hasSupertypes name = true ↔ ∃ supertype, hierarchy.Extends name supertype := by
  unfold hasSupertypes Extends
  rw [Bool.not_eq_true', List.isEmpty_eq_false_iff_exists_mem]

theorem hasSupertypes_eq_false_iff {name : String} :
    hierarchy.hasSupertypes name = false ↔ ∀ supertype, ¬ hierarchy.Extends name supertype := by
  rw [← Bool.not_eq_true, hasSupertypes_iff, not_exists]

/-! ### Chains of supertypes end -/

section Chains

variable (closed : hierarchy.Closed) (acyclic : hierarchy.Acyclic)

include closed acyclic

/-- **A supertype has fewer ancestors.** All that is above it is above the subtype too, which has
the supertype itself besides. -/
theorem length_ancestors_lt {name supertype : String} (edge : hierarchy.Extends name supertype) :
    (hierarchy.ancestors supertype).length < (hierarchy.ancestors name).length := by
  have derived : ∀ ancestor, hierarchy.Derives name ancestor →
      ancestor ∈ hierarchy.ancestors name := by
    intro ancestor derives
    refine (mem_ancestors_iff closed).mpr ⟨fun same => ?_, derives⟩
    exact acyclic name (same ▸ derives)
  have inside : supertype :: hierarchy.ancestors supertype ⊆ hierarchy.ancestors name := by
    refine List.cons_subset.mpr ⟨derived supertype (.single edge), fun ancestor above => ?_⟩
    exact derived ancestor (.head edge ((mem_ancestors_iff closed).mp above).2)
  exact (List.subperm_of_subset (nodup_cons_ancestors closed supertype) inside).length_le

/-- **Every chain of supertypes ends**: a topmost type is above the type, or is the type itself. -/
theorem exists_topmost (name : String) : ∃ base, ReflTransGen hierarchy.Extends name base ∧
    ∀ supertype, ¬ hierarchy.Extends base supertype := by
  induction measure : (hierarchy.ancestors name).length using Nat.strong_induction_on
    generalizing name with
  | _ count ih =>
      by_cases topmost : ∀ supertype, ¬ hierarchy.Extends name supertype
      · exact ⟨name, .refl, topmost⟩
      · push Not at topmost
        obtain ⟨supertype, edge⟩ := topmost
        have fewer := length_ancestors_lt closed acyclic edge
        obtain ⟨base, above, topmost⟩ := ih _ (measure ▸ fewer) supertype rfl
        exact ⟨base, above.head edge, topmost⟩

end Chains

/-! ### The nearest topmost type -/

/-- **The nearest topmost type** above a type, or the type itself if it is topmost. Of those at the
same distance it is the one listed first. -/
structure NearestTopmost (step : String → String → Prop) (listed : List String)
    (name base : String) : Prop where
  above : ReflTransGen step name base
  topmost : ∀ next, ¬ step base next
  nearest : ∀ other, ReflTransGen step name other → (∀ next, ¬ step other next) →
    distance step name base ≤ distance step name other
  first : ∀ other, ReflTransGen step name other → (∀ next, ¬ step other next) →
    distance step name base = distance step name other → listed.idxOf base ≤ listed.idxOf other

/-- Types that are listed are told apart by their positions. -/
theorem NearestTopmost.unique {step : String → String → Prop} {listed : List String}
    {name base other : String} (isListed : ∀ above, ReflTransGen step name above → above ∈ listed)
    (isBase : NearestTopmost step listed name base)
    (isOther : NearestTopmost step listed name other) : base = other := by
  have same : distance step name base = distance step name other :=
    Nat.le_antisymm (isBase.nearest other isOther.above isOther.topmost)
      (isOther.nearest base isBase.above isBase.topmost)
  refine (List.idxOf_inj (isListed base isBase.above)).mp (Nat.le_antisymm ?_ ?_)
  · exact isBase.first other isOther.above isOther.topmost same
  · exact isOther.first base isBase.above isBase.topmost same.symm

/-- A type without supertypes has no ancestors. -/
theorem ancestors_eq_nil (closed : hierarchy.Closed) {name : String}
    (topmost : ∀ supertype, ¬ hierarchy.Extends name supertype) :
    hierarchy.ancestors name = [] := by
  refine List.eq_nil_iff_forall_not_mem.mpr fun ancestor member => ?_
  obtain ⟨supertype, edge, -⟩ :=
    TransGen.head'_iff.mp ((mem_ancestors_iff closed).mp member).2
  exact topmost supertype edge

theorem root_eq_self (closed : hierarchy.Closed) {name : String}
    (topmost : ∀ supertype, ¬ hierarchy.Extends name supertype) : hierarchy.root name = name := by
  unfold root
  rw [ancestors_eq_nil closed topmost]
  rfl

section Root

variable (closed : hierarchy.Closed) (acyclic : hierarchy.Acyclic)

include closed acyclic

/-- **The root is the first of a type and its ancestors that has no supertypes.** The search does
not fail, because chains of supertypes end. -/
theorem cons_ancestors_eq_append_root (name : String) : ∃ before after,
    name :: hierarchy.ancestors name = before ++ hierarchy.root name :: after ∧
    (∀ supertype, ¬ hierarchy.Extends (hierarchy.root name) supertype) ∧
    ∀ lower ∈ before, ∃ supertype, hierarchy.Extends lower supertype := by
  by_cases topmost : ∀ supertype, ¬ hierarchy.Extends name supertype
  · rw [root_eq_self closed topmost]
    exact ⟨[], hierarchy.ancestors name, rfl, topmost, nofun⟩
  push Not at topmost
  obtain ⟨base, above, isTopmost⟩ := exists_topmost closed acyclic name
  have isAncestor : base ∈ hierarchy.ancestors name := by
    refine (List.mem_cons.mp ((mem_cons_ancestors_iff closed).mpr above)).resolve_left ?_
    intro same
    obtain ⟨supertype, edge⟩ := topmost
    exact isTopmost supertype (same ▸ edge)
  cases found : (hierarchy.ancestors name).find? fun other => !hierarchy.hasSupertypes other with
  | none =>
      have missed := List.find?_eq_none.mp found base isAncestor
      simp [hasSupertypes_eq_false_iff.mpr isTopmost] at missed
  | some root =>
      have same : hierarchy.root name = root := by
        unfold Hierarchy.root
        rw [found]
        rfl
      obtain ⟨rootTopmost, before, after, split, lower⟩ := List.find?_eq_some_iff_append.mp found
      rw [same, split]
      refine ⟨name :: before, after, rfl, ?_, List.forall_mem_cons.mpr ⟨topmost, ?_⟩⟩
      · exact hasSupertypes_eq_false_iff.mp (by simpa using rootTopmost)
      · intro other earlier
        exact hasSupertypes_iff.mp (by simpa using lower other earlier)

/-- **The root is the nearest topmost type.** -/
theorem root_nearestTopmost (name : String) : NearestTopmost hierarchy.Extends
    (name :: hierarchy.ancestors name) name (hierarchy.root name) := by
  obtain ⟨before, after, split, topmost, lower⟩ :=
    cons_ancestors_eq_append_root closed acyclic name
  have isListed : hierarchy.root name ∈ name :: hierarchy.ancestors name := by
    rw [split]
    exact List.mem_append_right _ List.mem_cons_self
  have notBefore : ∀ other, (∀ next, ¬ hierarchy.Extends other next) → other ∉ before := by
    intro other isTopmost member
    obtain ⟨supertype, edge⟩ := lower other member
    exact isTopmost supertype edge
  have behind : ∀ other, (∀ next, ¬ hierarchy.Extends other next) →
      (name :: hierarchy.ancestors name).idxOf (hierarchy.root name)
        ≤ (name :: hierarchy.ancestors name).idxOf other := by
    intro other isTopmost
    rw [split, List.idxOf_append_of_notMem (notBefore _ topmost),
      List.idxOf_append_of_notMem (notBefore other isTopmost), List.idxOf_cons_self]
    omega
  refine ⟨(mem_cons_ancestors_iff closed).mp isListed, topmost, fun other above isTopmost => ?_,
    fun other _ isTopmost _ => behind other isTopmost⟩
  exact distance_le_of_idxOf_le closed isListed ((mem_cons_ancestors_iff closed).mpr above)
    (behind other isTopmost)

end Root

/-! ### The hierarchy of a list of declarations -/

/-- **The root of a type is its nearest topmost ancestor**, or the type itself if it has no
supertypes. -/
theorem root_exact {declarations : List (String × List String)} {hierarchy : Hierarchy}
    (made : Catalogue.hierarchyOf declarations = .ok hierarchy) :
    (∀ name, hierarchy.hasSupertypes name = true ↔
      ∃ supertype, Declares declarations name supertype) ∧
    ∀ name, hierarchy.hasSupertypes (hierarchy.root name) = false ∧
      hierarchy.root (hierarchy.root name) = hierarchy.root name ∧
      (hierarchy.root name = name ↔ hierarchy.hasSupertypes name = false) ∧
      (hierarchy.hasSupertypes name = true →
        TransGen (Declares declarations) name (hierarchy.root name) ∧
        ∀ other, TransGen (Declares declarations) name other →
          hierarchy.hasSupertypes other = false →
            distance (Declares declarations) name (hierarchy.root name)
              ≤ distance (Declares declarations) name other) := by
  obtain ⟨acyclic, rfl⟩ := Catalogue.hierarchyOf_eq_ok_iff.mp made
  have closed := closed_ofDeclarations declarations
  rw [← extends_ofDeclarations_eq]
  refine ⟨fun name => hasSupertypes_iff, fun name => ?_⟩
  have base := root_nearestTopmost closed acyclic name
  have topmost := hasSupertypes_eq_false_iff.mpr base.topmost
  refine ⟨topmost, root_eq_self closed base.topmost, ⟨fun same => same ▸ topmost, fun none => ?_⟩,
    fun some => ⟨?_, fun other above otherTopmost => ?_⟩⟩
  · exact root_eq_self closed (hasSupertypes_eq_false_iff.mp none)
  · refine (reflTransGen_iff_eq_or_transGen.mp base.above).resolve_left fun same => ?_
    rw [same, some] at topmost
    cases topmost
  · exact base.nearest other above.to_reflTransGen
      (hasSupertypes_eq_false_iff.mp otherTopmost)

/-- Amounts are numbers and have a unit. -/
def amounts : List (String × List String) :=
  [("Amount", ["Number", "Quantity"]), ("Number", ["Decimal"]), ("Quantity", ["Unit"]),
    ("Decimal", ["Literal"])]

/-- Literals are topmost above amounts as units are, but further away. -/
theorem root_exact_amounts : ∃ hierarchy : Hierarchy,
    Catalogue.hierarchyOf amounts = .ok hierarchy ∧ hierarchy.root "Amount" = "Unit" ∧
    hierarchy.hasSupertypes "Unit" = false ∧ hierarchy.hasSupertypes "Literal" = false ∧
    TransGen (Declares amounts) "Amount" "Unit" ∧ TransGen (Declares amounts) "Amount" "Literal" ∧
    distance (Declares amounts) "Amount" "Unit" ≤ distance (Declares amounts) "Amount" "Literal" ∧
    hierarchy.root "Undeclared" = "Undeclared" := by
  have made : Catalogue.hierarchyOf amounts = .ok (.ofDeclarations amounts) := rfl
  obtain ⟨-, isRoot⟩ := root_exact made
  obtain ⟨topmost, -, -, ancestor⟩ := isRoot "Amount"
  obtain ⟨above, nearest⟩ := ancestor rfl
  obtain ⟨-, -, self, -⟩ := isRoot "Undeclared"
  have number : Declares amounts "Amount" "Number" := ⟨["Number", "Quantity"], by decide, by decide⟩
  have decimal : Declares amounts "Number" "Decimal" := ⟨["Decimal"], by decide, by decide⟩
  have literal : Declares amounts "Decimal" "Literal" := ⟨["Literal"], by decide, by decide⟩
  have further : TransGen (Declares amounts) "Amount" "Literal" :=
    ((TransGen.single number).tail decimal).tail literal
  exact ⟨_, made, rfl, topmost, rfl, above, further, nearest "Literal" further rfl, self.mpr rfl⟩

end InfoModel.Hierarchy
