/-
**The order of the walk up a hierarchy.**

The published form of the walk keeps a queue, the set of the types visited and the list of the types
found. It is shown to end, and its list is described without it.

* `Hierarchy.outgoing` lists the supertypes of a type as an adjacency list holds them, the one added
  last first. `Climb.meet` is what the walk does with one supertype, `Ascends` the whole walk;
* `ascends_iff`: the walk ends in one way, with the ancestors. So the fuel of `Hierarchy.climb` is
  no part of the result;
* `ancestors_eq_unseen`: a type and its ancestors, taken in order, have just the ancestors as
  supertypes, in the order of their first appearance;
* `Precedes`: so of two ancestors that one comes first whose earliest-listed parent does, or which
  the same parent lists first (`pairwise_precedes`);
* `exists_path_le_of_idxOf_le`: the types listed ahead of an ancestor are reached by paths that are
  no longer, so nearer ancestors come first (`distance_le_of_idxOf_le`);
* `supertypes_breadth_first` puts these together for the hierarchy of a list of declarations.
-/

import InfoModel.Proofs.Hierarchy.StackSearch
import Mathlib.Data.List.Nodup
import Mathlib.Order.Lattice.Nat

open Relation

namespace InfoModel.Hierarchy

/-! ### Paths -/

section Paths

variable {step : String → String → Prop} {start name : String} {length : Nat}

/-- **A path** of so many steps from one type to another. -/
inductive Path (step : String → String → Prop) (start : String) : Nat → String → Prop where
  | here : Path step start 0 start
  | onward {length : Nat} {name next : String} (path : Path step start length name)
      (leads : step name next) : Path step start (length + 1) next

/-- The length of the shortest paths from one type to another, if there are any. -/
noncomputable def distance (step : String → String → Prop) (start name : String) : Nat :=
  sInf {length | Path step start length name}

theorem exists_path_iff :
    (∃ length, Path step start length name) ↔ ReflTransGen step start name := by
  constructor
  · rintro ⟨length, path⟩
    induction path with
    | here => exact .refl
    | onward _ leads ih => exact ih.tail leads
  · intro above
    induction above with
    | refl => exact ⟨0, .here⟩
    | tail _ leads ih =>
        obtain ⟨length, path⟩ := ih
        exact ⟨length + 1, path.onward leads⟩

theorem distance_le (path : Path step start length name) : distance step start name ≤ length :=
  Nat.sInf_le path

/-- Some path is as short as the distance says. -/
theorem path_distance (above : ReflTransGen step start name) :
    Path step start (distance step start name) name :=
  Nat.sInf_mem (exists_path_iff.mpr above)

end Paths

/-! ### The walk with a queue -/

/-- The supertypes of a type as an adjacency list holds them: each is put in front of those added
before. -/
def outgoing (hierarchy : Hierarchy) (name : String) : List String :=
  hierarchy.edges.foldl (fun added edge => if edge.1 = name then edge.2 :: added else added) []

/-- A walk up a hierarchy. -/
structure Climb where
  /-- The types visited. -/
  visited : List String
  /-- The types whose supertypes are still to be looked at. -/
  queue : List String
  /-- The types found above the first one. -/
  found : List String

/-- The start of the walk from a type. -/
def Climb.start (name : String) : Climb := ⟨[name], [name], []⟩

/-- Meets a supertype, which is new or has been visited before. -/
def Climb.meet (climb : Climb) (supertype : String) : Climb :=
  if supertype ∈ climb.visited then climb
  else ⟨supertype :: climb.visited, climb.queue ++ [supertype], climb.found ++ [supertype]⟩

/-- **The walk with a queue**: it meets the supertypes of one type after the other, until the queue
is empty. -/
inductive Ascends (hierarchy : Hierarchy) : Climb → List String → Prop where
  | done {visited found : List String} : Ascends hierarchy ⟨visited, [], found⟩ found
  | pass {visited queue found result : List String} {name : String}
      (further : Ascends hierarchy
        ((hierarchy.outgoing name).reverse.foldl Climb.meet ⟨visited, queue, found⟩) result) :
      Ascends hierarchy ⟨visited, name :: queue, found⟩ result

variable {hierarchy : Hierarchy}

/-- **The adjacency list, read backwards, is in the order of declaration.** -/
theorem reverse_outgoing (name : String) :
    (hierarchy.outgoing name).reverse = hierarchy.direct name := by
  have general : ∀ (edges : List (String × String)) (added : List String),
      (edges.foldl (fun added edge => if edge.1 = name then edge.2 :: added else added)
        added).reverse
        = added.reverse ++ (edges.filter fun edge => edge.1 == name).map Prod.snd := by
    intro edges
    induction edges with
    | nil => simp
    | cons edge rest ih =>
        intro added
        rw [List.foldl_cons, ih]
        by_cases same : edge.1 = name
        · simp [same]
        · simp [same]
  exact general hierarchy.edges []

theorem unseen_congr {seen other : List String} (same : ∀ name, name ∈ seen ↔ name ∈ other)
    (names : List String) : unseen seen names = unseen other names := by
  induction names generalizing seen other with
  | nil => rfl
  | cons head rest ih =>
      unfold unseen
      by_cases known : head ∈ seen
      · rw [if_pos known, if_pos ((same head).mp known)]
        exact ih same
      · rw [if_neg known, if_neg (mt (same head).mpr known)]
        refine congrArg (head :: ·) (ih fun name => ?_)
        rw [List.mem_cons, List.mem_cons, same]

/-- The names of two lists in a row: those of the second have to be new after the first. -/
theorem unseen_append (seen first second : List String) :
    unseen seen (first ++ second)
      = unseen seen first ++ unseen (seen ++ unseen seen first) second := by
  induction first generalizing seen with
  | nil => simp [unseen]
  | cons head rest ih =>
      rw [List.cons_append, unseen, unseen]
      by_cases known : head ∈ seen
      · rw [if_pos known, if_pos known]
        exact ih seen
      · rw [if_neg known, if_neg known, ih, List.cons_append]
        refine congrArg (head :: unseen (head :: seen) rest ++ ·) (unseen_congr (fun name => ?_) _)
        simp only [List.mem_cons, List.mem_append]
        exact or_left_comm

/-- Meeting supertypes one by one finds those that are new, each once. -/
theorem foldl_meet (supertypes visited queue found : List String) :
    supertypes.foldl Climb.meet ⟨visited, queue, found⟩
      = ⟨(unseen visited supertypes).reverse ++ visited, queue ++ unseen visited supertypes,
          found ++ unseen visited supertypes⟩ := by
  induction supertypes generalizing visited queue found with
  | nil => simp [unseen]
  | cons head rest ih =>
      rw [List.foldl_cons, unseen]
      by_cases known : head ∈ visited
      · have met : Climb.meet ⟨visited, queue, found⟩ head = ⟨visited, queue, found⟩ := if_pos known
        rw [met, ih, if_pos known]
      · have met : Climb.meet ⟨visited, queue, found⟩ head
            = ⟨head :: visited, queue ++ [head], found ++ [head]⟩ := if_neg known
        rw [met, ih, if_neg known]
        simp

/-- One step of the walk: the first type of the queue makes way for its new supertypes. -/
theorem ascends_cons_iff {visited queue found result : List String} {name : String} :
    hierarchy.Ascends ⟨visited, name :: queue, found⟩ result ↔
      hierarchy.Ascends ⟨(unseen visited (hierarchy.direct name)).reverse ++ visited,
        queue ++ unseen visited (hierarchy.direct name),
        found ++ unseen visited (hierarchy.direct name)⟩ result := by
  rw [← foldl_meet, ← reverse_outgoing]
  constructor
  · intro ascends
    cases ascends with
    | pass further => exact further
  · exact .pass

theorem Ascends.unique {climb : Climb} {first second : List String}
    (ascends : hierarchy.Ascends climb first) (again : hierarchy.Ascends climb second) :
    first = second := by
  induction ascends with
  | done =>
      cases again with
      | done => rfl
  | pass _ ih =>
      cases again with
      | pass further => exact ih further

/-- **The walk with a queue comes to the end that fuel leads to**, if there is enough for all types.
The measure is that of `climb_spec`. -/
theorem ascends_climb (closed : hierarchy.Closed) {start : String} (fuel : Nat)
    {passed queue seen : List String} (climbing : hierarchy.Climbing start passed queue seen)
    (enough : hierarchy.names.length + 1 ≤ fuel + passed.length) {visited : List String}
    (same : ∀ name, name ∈ visited ↔ name ∈ seen) (found : List String) :
    ∃ later, hierarchy.climb fuel queue seen = seen ++ later ∧
      hierarchy.Ascends ⟨visited, queue, found⟩ (found ++ later) := by
  induction fuel generalizing passed queue seen visited found with
  | zero =>
      obtain rfl := climbing.queue_eq_nil closed (by omega)
      refine ⟨[], by simp [climb], ?_⟩
      rw [List.append_nil]
      exact .done
  | succ fuel ih =>
      cases queue with
      | nil =>
          refine ⟨[], by simp [climb], ?_⟩
          rw [List.append_nil]
          exact .done
      | cons name queue =>
          have room : hierarchy.names.length + 1 ≤ fuel + (passed ++ [name]).length := by
            rw [List.length_append, List.length_singleton]
            omega
          have visits : ∀ other,
              other ∈ (unseen visited (hierarchy.direct name)).reverse ++ visited ↔
                other ∈ seen ++ unseen seen (hierarchy.direct name) := by
            intro other
            rw [unseen_congr same, List.mem_append, List.mem_append, List.mem_reverse, same]
            exact or_comm
          obtain ⟨later, result, ascends⟩ := ih climbing.step room visits
            (found ++ unseen visited (hierarchy.direct name))
          refine ⟨unseen seen (hierarchy.direct name) ++ later, ?_, ?_⟩
          · rw [climb, result, List.append_assoc]
          · rw [ascends_cons_iff, unseen_congr same, ← List.append_assoc]
            rw [unseen_congr same] at ascends
            exact ascends

theorem ascends_ancestors (closed : hierarchy.Closed) (name : String) :
    hierarchy.Ascends (.start name) (hierarchy.ancestors name) := by
  obtain ⟨later, result, ascends⟩ := ascends_climb closed (hierarchy.names.length + 1)
    (Climbing.init hierarchy name) (by simp) (fun _ => Iff.rfl) []
  unfold ancestors
  rw [result]
  exact ascends

/-- **The walk ends, and it ends with the ancestors.** -/
theorem ascends_iff (closed : hierarchy.Closed) {name : String} {found : List String} :
    hierarchy.Ascends (.start name) found ↔ found = hierarchy.ancestors name := by
  constructor
  · exact fun ascends => ascends.unique (ascends_ancestors closed name)
  · rintro rfl
    exact ascends_ancestors closed name

/-! ### What the walk finds -/

/-- **The types found are what the types passed have as supertypes.** The types passed and behind
them the queue are the types found, behind the first one; this is kept by every step. -/
theorem Ascends.eq_unseen {start : String} {climb : Climb} {result : List String}
    (ascends : hierarchy.Ascends climb result) {passed : List String}
    (visits : ∀ name, name ∈ climb.visited ↔ name ∈ start :: climb.found)
    (split : start :: climb.found = passed ++ climb.queue)
    (gathered : climb.found = unseen [start] (passed.flatMap hierarchy.direct)) :
    result = unseen [start] ((start :: result).flatMap hierarchy.direct) := by
  induction ascends generalizing passed with
  | @done visited found =>
      have all : start :: found = passed := by simpa using split
      rw [all]
      exact gathered
  | @pass visited queue found result name _ ih =>
      rw [reverse_outgoing, foldl_meet, unseen_congr visits] at ih
      refine @ih (passed ++ [name]) (fun other => ?_) ?_ ?_
      · rw [List.mem_append, List.mem_reverse, ← List.cons_append, List.mem_append, visits]
        exact or_comm
      · rw [← List.cons_append, split]
        simp
      · rw [List.flatMap_append, List.flatMap_singleton, unseen_append, ← gathered]
        rfl

/-- **A type and its ancestors have just the ancestors as supertypes**, in the order of their first
appearance. -/
theorem ancestors_eq_unseen (closed : hierarchy.Closed) (name : String) :
    hierarchy.ancestors name
      = unseen [name] ((name :: hierarchy.ancestors name).flatMap hierarchy.direct) :=
  (ascends_ancestors closed name).eq_unseen (fun _ => Iff.rfl) (List.nil_append _).symm rfl

/-! ### The order of the ancestors -/

/-- **The earliest-listed parent** of a type, of those that name it as a supertype. -/
structure EarliestParent (supertypesOf : String → List String) (listed : List String)
    (name parent : String) : Prop where
  isListed : parent ∈ listed
  names : name ∈ supertypesOf parent
  earliest : ∀ other ∈ listed, name ∈ supertypesOf other →
    listed.idxOf parent ≤ listed.idxOf other

/-- **One type comes before another** if its earliest-listed parent does, or if they share this
parent, which declares it before the other. -/
def Precedes (supertypesOf : String → List String) (listed : List String)
    (first second : String) : Prop :=
  ∃ parent other, EarliestParent supertypesOf listed first parent ∧
    EarliestParent supertypesOf listed second other ∧
      (listed.idxOf parent < listed.idxOf other ∨
        parent = other ∧ (supertypesOf parent).idxOf first < (supertypesOf parent).idxOf second)

/-- New names come in the order of their first appearance. -/
theorem pairwise_idxOf_unseen (seen names : List String) :
    (unseen seen names).Pairwise fun first second =>
      names.idxOf first < names.idxOf second := by
  induction names generalizing seen with
  | nil => exact .nil
  | cons head rest ih =>
      have shift : ∀ {known : List String}, head ∈ known → ∀ name ∈ unseen known rest,
          (head :: rest).idxOf name = rest.idxOf name + 1 := by
        intro known isKnown name member
        refine List.idxOf_cons_ne _ fun same => ?_
        exact (mem_unseen.mp member).2 (same ▸ isKnown)
      have later : ∀ {known : List String}, head ∈ known → (unseen known rest).Pairwise
          fun first second => (head :: rest).idxOf first < (head :: rest).idxOf second := by
        intro known isKnown
        refine (ih known).imp_of_mem fun {first second} firstNew secondNew before => ?_
        rw [shift isKnown first firstNew, shift isKnown second secondNew]
        omega
      unfold unseen
      by_cases known : head ∈ seen
      · rw [if_pos known]
        exact later known
      · rw [if_neg known, List.pairwise_cons]
        refine ⟨fun name member => ?_, later List.mem_cons_self⟩
        rw [shift List.mem_cons_self name member, List.idxOf_cons_self]
        omega

/-- The items of a list without repeats stand in the order of their positions. -/
theorem pairwise_idxOf {names : List String} (distinct : names.Nodup) :
    names.Pairwise fun first second => names.idxOf first < names.idxOf second := by
  rw [List.pairwise_iff_getElem]
  intro first second firstInside secondInside before
  rw [distinct.idxOf_getElem, distinct.idxOf_getElem]
  exact before

/-- Nothing else stands as far ahead as the first item of a list. -/
theorem eq_head_of_idxOf_le {head other : String} {rest : List String}
    (before : (head :: rest).idxOf other ≤ (head :: rest).idxOf head) : other = head := by
  by_contra different
  rw [List.idxOf_cons_self, List.idxOf_cons_ne _ (Ne.symm different)] at before
  exact absurd before (Nat.not_succ_le_zero _)

/-- What holds of all items of a list in their order holds of two that stand in this order. -/
theorem rel_of_idxOf_lt {relation : String → String → Prop} {names : List String}
    (ordered : names.Pairwise relation) {first second : String} (firstMember : first ∈ names)
    (secondMember : second ∈ names) (before : names.idxOf first < names.idxOf second) :
    relation first second := by
  have related := List.pairwise_iff_getElem.mp ordered _ _
    (List.idxOf_lt_length_of_mem firstMember) (List.idxOf_lt_length_of_mem secondMember) before
  rwa [List.getElem_idxOf, List.getElem_idxOf] at related

section Parents

variable {supertypesOf : String → List String} {listed : List String} {head name parent : String}

/-- A type in front that does not name the supertype is no parent of it. -/
theorem EarliestParent.cons (earliest : EarliestParent supertypesOf listed name parent)
    (other : name ∉ supertypesOf head) :
    EarliestParent supertypesOf (head :: listed) name parent ∧
      (head :: listed).idxOf parent = listed.idxOf parent + 1 := by
  have behind : ∀ candidate, name ∈ supertypesOf candidate →
      (head :: listed).idxOf candidate = listed.idxOf candidate + 1 :=
    fun candidate names => List.idxOf_cons_ne _ fun same => other (same ▸ names)
  refine ⟨⟨List.mem_cons_of_mem _ earliest.isListed, earliest.names, ?_⟩,
    behind parent earliest.names⟩
  intro candidate member names
  have isListed : candidate ∈ listed :=
    (List.mem_cons.mp member).resolve_left fun same => other (same ▸ names)
  have before := earliest.earliest candidate isListed names
  rw [behind parent earliest.names, behind candidate names]
  omega

theorem earliestParent_head (names : name ∈ supertypesOf head) :
    EarliestParent supertypesOf (head :: listed) name head where
  isListed := List.mem_cons_self
  names := names
  earliest other _ _ := by
    rw [List.idxOf_cons_self]
    exact Nat.zero_le _

theorem exists_earliestParent (named : name ∈ listed.flatMap supertypesOf) :
    ∃ parent, EarliestParent supertypesOf listed name parent := by
  induction listed with
  | nil => cases named
  | cons head rest ih =>
      by_cases here : name ∈ supertypesOf head
      · exact ⟨head, earliestParent_head here⟩
      · rw [List.flatMap_cons, List.mem_append] at named
        obtain ⟨parent, earliest⟩ := ih (named.resolve_left here)
        exact ⟨parent, (earliest.cons here).1⟩

/-- **A supertype that appears first comes first.** The supertypes of one type stand together, so
the first appearance of a name is at its earliest-listed parent. -/
theorem precedes_of_idxOf_lt {first second : String}
    (firstNamed : first ∈ listed.flatMap supertypesOf)
    (secondNamed : second ∈ listed.flatMap supertypesOf)
    (before : (listed.flatMap supertypesOf).idxOf first
      < (listed.flatMap supertypesOf).idxOf second) :
    Precedes supertypesOf listed first second := by
  induction listed with
  | nil => cases firstNamed
  | cons head rest ih =>
      rw [List.flatMap_cons, List.mem_append] at firstNamed secondNamed
      rw [List.flatMap_cons] at before
      by_cases firstHere : first ∈ supertypesOf head
      · by_cases secondHere : second ∈ supertypesOf head
        · rw [List.idxOf_append_of_mem firstHere, List.idxOf_append_of_mem secondHere] at before
          exact ⟨head, head, earliestParent_head firstHere, earliestParent_head secondHere,
            Or.inr ⟨rfl, before⟩⟩
        · obtain ⟨other, earliest⟩ := exists_earliestParent (secondNamed.resolve_left secondHere)
          obtain ⟨earliest, position⟩ := earliest.cons secondHere
          refine ⟨head, other, earliestParent_head firstHere, earliest, Or.inl ?_⟩
          rw [position, List.idxOf_cons_self]
          omega
      · by_cases secondHere : second ∈ supertypesOf head
        · -- the second name would have appeared in front of the first
          rw [List.idxOf_append_of_notMem firstHere, List.idxOf_append_of_mem secondHere] at before
          have inside := List.idxOf_lt_length_of_mem secondHere
          omega
        · rw [List.idxOf_append_of_notMem firstHere, List.idxOf_append_of_notMem secondHere]
            at before
          obtain ⟨parent, other, firstParent, secondParent, order⟩ :=
            ih (firstNamed.resolve_left firstHere) (secondNamed.resolve_left secondHere) (by omega)
          obtain ⟨firstParent, firstPosition⟩ := firstParent.cons firstHere
          obtain ⟨secondParent, secondPosition⟩ := secondParent.cons secondHere
          refine ⟨parent, other, firstParent, secondParent, order.imp_left fun ahead => ?_⟩
          omega

end Parents

section Ancestors

variable (closed : hierarchy.Closed)

include closed

/-- An ancestor is a supertype of the type or of another ancestor. -/
theorem mem_flatMap_of_mem_ancestors {name ancestor : String}
    (member : ancestor ∈ hierarchy.ancestors name) :
    ancestor ∈ (name :: hierarchy.ancestors name).flatMap hierarchy.direct := by
  rw [ancestors_eq_unseen closed] at member
  exact (mem_unseen.mp member).1

/-- **Ancestors come in the order of their earliest-listed parents.** -/
theorem pairwise_precedes (name : String) :
    (hierarchy.ancestors name).Pairwise
      (Precedes hierarchy.direct (name :: hierarchy.ancestors name)) := by
  have ordered := pairwise_idxOf_unseen [name]
    ((name :: hierarchy.ancestors name).flatMap hierarchy.direct)
  rw [← ancestors_eq_unseen closed] at ordered
  exact ordered.imp_of_mem fun firstMember secondMember before =>
    precedes_of_idxOf_lt (mem_flatMap_of_mem_ancestors closed firstMember)
      (mem_flatMap_of_mem_ancestors closed secondMember) before

theorem mem_cons_ancestors_iff {name other : String} :
    other ∈ name :: hierarchy.ancestors name ↔ ReflTransGen hierarchy.Extends name other := by
  rw [List.mem_cons, mem_ancestors_iff closed, reflTransGen_iff_eq_or_transGen]
  by_cases same : other = name
  · simp [same]
  · simp [same, Derives]

/-- **The earliest-listed parents of ancestors are listed in the order of these.** -/
theorem parents_idxOf_le {name first second : String}
    (firstAbove : first ∈ hierarchy.ancestors name)
    (secondAbove : second ∈ hierarchy.ancestors name)
    (before : (name :: hierarchy.ancestors name).idxOf first
      ≤ (name :: hierarchy.ancestors name).idxOf second) :
    ∃ parent other,
      EarliestParent hierarchy.direct (name :: hierarchy.ancestors name) first parent ∧
      EarliestParent hierarchy.direct (name :: hierarchy.ancestors name) second other ∧
      (name :: hierarchy.ancestors name).idxOf parent
        ≤ (name :: hierarchy.ancestors name).idxOf other := by
  by_cases same : first = second
  · subst same
    obtain ⟨parent, earliest⟩ :=
      exists_earliestParent (mem_flatMap_of_mem_ancestors closed firstAbove)
    exact ⟨parent, parent, earliest, earliest, Nat.le_refl _⟩
  · have ahead : (name :: hierarchy.ancestors name).idxOf first
        < (name :: hierarchy.ancestors name).idxOf second := by
      refine Nat.lt_of_le_of_ne before fun equal => same ?_
      exact (List.idxOf_inj (List.mem_cons_of_mem _ firstAbove)).mp equal
    have notStart : ∀ other ∈ hierarchy.ancestors name, name ≠ other := by
      intro other member equal
      exact (List.nodup_cons.mp (nodup_cons_ancestors closed name)).1 (equal ▸ member)
    rw [List.idxOf_cons_ne _ (notStart first firstAbove),
      List.idxOf_cons_ne _ (notStart second secondAbove)] at ahead
    obtain ⟨parent, other, firstParent, secondParent, order⟩ := rel_of_idxOf_lt
      (pairwise_precedes closed name) firstAbove secondAbove (Nat.lt_of_succ_lt_succ ahead)
    refine ⟨parent, other, firstParent, secondParent, ?_⟩
    rcases order with earlier | ⟨rfl, -⟩
    · exact Nat.le_of_lt earlier
    · exact Nat.le_refl _

/-- **What is listed further ahead is reached by a path that is no longer**, by induction on the
path: its last type but one is listed no earlier than the earliest-listed parent. -/
theorem exists_path_le_of_idxOf_le {name second : String} {length : Nat}
    (path : Path hierarchy.Extends name length second) {first : String}
    (isListed : first ∈ name :: hierarchy.ancestors name)
    (before : (name :: hierarchy.ancestors name).idxOf first
      ≤ (name :: hierarchy.ancestors name).idxOf second) :
    ∃ shorter ≤ length, Path hierarchy.Extends name shorter first := by
  induction path generalizing first with
  | here =>
      rw [eq_head_of_idxOf_le before]
      exact ⟨0, Nat.le_refl _, .here⟩
  | @onward length last second path leads ih =>
      by_cases start : first = name
      · rw [start]
        exact ⟨0, Nat.zero_le _, .here⟩
      have firstAbove : first ∈ hierarchy.ancestors name :=
        (List.mem_cons.mp isListed).resolve_left start
      have secondAbove : second ∈ hierarchy.ancestors name := by
        have reached := exists_path_iff.mp ⟨_, path.onward leads⟩
        refine (List.mem_cons.mp ((mem_cons_ancestors_iff closed).mpr reached)).resolve_left ?_
        intro same
        rw [same] at before
        exact start (eq_head_of_idxOf_le before)
      obtain ⟨parent, other, firstParent, secondParent, order⟩ :=
        parents_idxOf_le closed firstAbove secondAbove before
      have lastListed := (mem_cons_ancestors_iff closed).mpr (exists_path_iff.mp ⟨length, path⟩)
      have ahead := order.trans (secondParent.earliest last lastListed leads)
      obtain ⟨shorter, noLonger, reaches⟩ := ih firstParent.isListed ahead
      exact ⟨shorter + 1, Nat.succ_le_succ noLonger, reaches.onward firstParent.names⟩

/-- **What is listed further ahead is no further away.** -/
theorem distance_le_of_idxOf_le {name first second : String}
    (firstListed : first ∈ name :: hierarchy.ancestors name)
    (secondListed : second ∈ name :: hierarchy.ancestors name)
    (before : (name :: hierarchy.ancestors name).idxOf first
      ≤ (name :: hierarchy.ancestors name).idxOf second) :
    distance hierarchy.Extends name first ≤ distance hierarchy.Extends name second := by
  have reached := path_distance ((mem_cons_ancestors_iff closed).mp secondListed)
  obtain ⟨length, noLonger, path⟩ := exists_path_le_of_idxOf_le closed reached firstListed before
  exact (distance_le path).trans noLonger

theorem pairwise_distance (name : String) :
    (hierarchy.ancestors name).Pairwise fun first second =>
      distance hierarchy.Extends name first ≤ distance hierarchy.Extends name second := by
  have ordered := (pairwise_idxOf (nodup_cons_ancestors closed name)).of_cons
  refine ordered.imp_of_mem fun firstAbove secondAbove before => ?_
  exact distance_le_of_idxOf_le closed (List.mem_cons_of_mem _ firstAbove)
    (List.mem_cons_of_mem _ secondAbove) (Nat.le_of_lt before)

end Ancestors

/-! ### The hierarchy of a list of declarations -/

/-- The supertypes that are declared for a type, in order and with repeats: those of all its
declarations. -/
def declaredSupertypes (declarations : List (String × List String)) (name : String) : List String :=
  (declarations.filter fun declared => declared.1 == name).flatMap Prod.snd

/-- **The supertypes of a type are found breadth first.** The direct ones are the declared ones, as
the adjacency list has them backwards. The walk with a queue ends, in one way, with the types that
the type derives from; of these the nearer come first, then those whose earliest-listed parent does,
and then those that this one declares first. -/
theorem supertypes_breadth_first {declarations : List (String × List String)}
    {hierarchy : Hierarchy} (made : Catalogue.hierarchyOf declarations = .ok hierarchy)
    (name : String) :
    hierarchy.supertypes name false = declaredSupertypes declarations name ∧
    (hierarchy.outgoing name).reverse = declaredSupertypes declarations name ∧
    (∀ found, hierarchy.Ascends (.start name) found ↔ found = hierarchy.supertypes name true) ∧
    (∀ ancestor, ancestor ∈ hierarchy.supertypes name true ↔
      TransGen (Declares declarations) name ancestor) ∧
    (hierarchy.supertypes name true).Nodup ∧ name ∉ hierarchy.supertypes name true ∧
    (hierarchy.supertypes name true).Pairwise fun first second =>
      distance (Declares declarations) name first ≤ distance (Declares declarations) name second ∧
      Precedes (declaredSupertypes declarations) (name :: hierarchy.supertypes name true)
        first second := by
  obtain ⟨acyclic, rfl⟩ := Catalogue.hierarchyOf_eq_ok_iff.mp made
  have closed := closed_ofDeclarations declarations
  have direct : (ofDeclarations declarations).direct = declaredSupertypes declarations :=
    funext fun _ => direct_ofDeclarations declarations _
  have distinct := List.nodup_cons.mp (nodup_cons_ancestors closed name)
  refine ⟨congrFun direct name, (reverse_outgoing name).trans (congrFun direct name),
    fun found => ascends_iff closed, fun ancestor => ?_, distinct.2, distinct.1, ?_⟩
  · rw [← extends_ofDeclarations_eq]
    refine (mem_ancestors_iff closed).trans (and_iff_right_of_imp ?_)
    rintro derives rfl
    exact acyclic _ derives
  · rw [← extends_ofDeclarations_eq, ← direct]
    exact (pairwise_distance closed name).and (pairwise_precedes closed name)

/-- A bicycle is a vehicle and a product, and is declared to be a vehicle twice. -/
def bicycles : List (String × List String) :=
  [("Bicycle", ["Product", "Vehicle"]), ("Vehicle", ["Thing"]), ("Product", ["Article", "Thing"]),
    ("Bicycle", ["Vehicle", "Toy"])]

theorem supertypes_breadth_first_bicycles : ∃ hierarchy : Hierarchy,
    Catalogue.hierarchyOf bicycles = .ok hierarchy ∧
    hierarchy.supertypes "Bicycle" false = ["Product", "Vehicle", "Vehicle", "Toy"] ∧
    hierarchy.supertypes "Bicycle" true = ["Product", "Vehicle", "Toy", "Article", "Thing"] ∧
    hierarchy.Ascends (.start "Bicycle") ["Product", "Vehicle", "Toy", "Article", "Thing"] ∧
    distance (Declares bicycles) "Bicycle" "Toy"
      ≤ distance (Declares bicycles) "Bicycle" "Article" := by
  have made : Catalogue.hierarchyOf bicycles = .ok (.ofDeclarations bicycles) := rfl
  obtain ⟨direct, -, walk, -, -, -, ordered⟩ := supertypes_breadth_first made "Bicycle"
  have found : (ofDeclarations bicycles).supertypes "Bicycle" true
      = ["Product", "Vehicle", "Toy", "Article", "Thing"] := rfl
  rw [found] at ordered
  have nearer : distance (Declares bicycles) "Bicycle" "Toy"
      ≤ distance (Declares bicycles) "Bicycle" "Article" :=
    (rel_of_idxOf_lt ordered (by decide) (by decide) (by decide)).1
  exact ⟨_, made, direct, found, (walk _).mpr found.symm, nearer⟩

end InfoModel.Hierarchy
