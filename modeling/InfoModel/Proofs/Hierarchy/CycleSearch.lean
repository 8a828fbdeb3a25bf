/-
**The search for cycles finds them all.**

A hierarchy has a culprit just if it has a cycle, and the culprit lies on one.

* `Walk.Sound` is what holds between two steps of the depth-first walk. Of a type that was left,
  each supertype was left before, or it was still being walked, and then it derives from that type:
  `Hierarchy.Settled`;
* `enter_spec`: the walk of a type keeps this, leaves every type that it enters, and has fuel
  enough, since every nested walk enters a type more;
* `derives_of_culprit?` and `acyclic_of_culprit?_eq_none`: the list of the types left, last one
  first, lists every type once. A type that stands behind one of its supertypes there derives from
  itself; if no type does, the places in the list increase along every derivation;
* `culprit?_eq_none_iff` puts the two together.
-/

import InfoModel.Hierarchy.Cycle
import InfoModel.Proofs.Hierarchy.Derivation

namespace InfoModel.Hierarchy

open Relation

/-- Of a list of types, last one left first: each supertype of a type stands behind it, or derives
from it. -/
def Settled (hierarchy : Hierarchy) : List String → Prop
  | [] => True
  | name :: rest =>
    (∀ supertype ∈ hierarchy.direct name, supertype ∈ rest ∨ hierarchy.Derives supertype name) ∧
      Settled hierarchy rest

theorem Settled.of_append {hierarchy : Hierarchy} (front : List String) {back : List String}
    (settled : hierarchy.Settled (front ++ back)) : hierarchy.Settled back := by
  induction front with
  | nil => exact settled
  | cons _ _ ih => exact ih settled.2

/-! ### What the walk keeps -/

/-- What holds of a walk between two steps. -/
structure Walk.Sound (hierarchy : Hierarchy) (walk : Walk) : Prop where
  noLoop : ∀ name ∈ walk.entered, name ∉ hierarchy.direct name
  left : ∀ name ∈ walk.finished, name ∈ walk.entered
  nodup : walk.finished.Nodup
  settled : hierarchy.Settled walk.finished

/-- A walk goes on to another one that leaves every type it enters. -/
def Walk.Grows (walk further : Walk) : Prop :=
  ∃ fresh, further.finished = fresh ++ walk.finished ∧ (∀ name ∈ fresh, name ∉ walk.entered) ∧
    ∀ name, name ∈ further.entered ↔ name ∈ fresh ∨ name ∈ walk.entered

/-- The type is being walked: it has been entered and not left. -/
def Walk.Open (walk : Walk) (name : String) : Prop :=
  name ∈ walk.entered ∧ name ∉ walk.finished

/-- The number of types that have not been entered. -/
def Walk.remaining (hierarchy : Hierarchy) (walk : Walk) : Nat :=
  (hierarchy.names.filter (· ∉ walk.entered)).length

namespace Walk

theorem Grows.refl (walk : Walk) : walk.Grows walk :=
  ⟨[], by simp, by simp, by simp⟩

theorem Grows.trans {first second third : Walk} (start : first.Grows second)
    (rest : second.Grows third) : first.Grows third := by
  obtain ⟨early, earlyFinished, earlyFresh, earlyEntered⟩ := start
  obtain ⟨late, lateFinished, lateFresh, lateEntered⟩ := rest
  refine ⟨late ++ early, ?_, ?_, ?_⟩
  · rw [lateFinished, earlyFinished, List.append_assoc]
  · intro name member known
    rcases List.mem_append.mp member with inLate | inEarly
    · exact lateFresh name inLate ((earlyEntered name).mpr (Or.inr known))
    · exact earlyFresh name inEarly known
  · intro name
    rw [lateEntered, earlyEntered, List.mem_append, or_assoc]

theorem Grows.entered {walk further : Walk} (grows : walk.Grows further) {name : String}
    (member : name ∈ walk.entered) : name ∈ further.entered := by
  obtain ⟨_, _, _, entered⟩ := grows
  exact (entered name).mpr (Or.inr member)

/-- A walk that leaves what it enters has the same types open at its end. -/
theorem Grows.open_iff {walk further : Walk} (grows : walk.Grows further)
    {name : String} : further.Open name ↔ walk.Open name := by
  obtain ⟨fresh, finished, unknown, entered⟩ := grows
  unfold Open
  rw [finished, entered, List.mem_append]
  constructor
  · rintro ⟨inFresh | known, notLeft⟩
    · exact absurd (Or.inl inFresh) notLeft
    · exact ⟨known, fun member => notLeft (Or.inr member)⟩
  · rintro ⟨known, notLeft⟩
    refine ⟨Or.inr known, ?_⟩
    rintro (inFresh | before)
    · exact unknown name inFresh known
    · exact notLeft before

theorem Grows.remaining_le {walk further : Walk} (hierarchy : Hierarchy)
    (grows : walk.Grows further) : further.remaining hierarchy ≤ walk.remaining hierarchy := by
  refine (List.monotone_filter_right hierarchy.names fun name out => ?_).length_le
  have notEntered : name ∉ further.entered := by simpa using out
  simpa using fun member => notEntered (grows.entered member)

/-- Entering a new type leaves one type less. -/
theorem remaining_enter_lt {hierarchy : Hierarchy} {walk : Walk} {name : String}
    (member : name ∈ hierarchy.names) (fresh : name ∉ walk.entered) :
    remaining hierarchy { walk with entered := name :: walk.entered }
      < walk.remaining hierarchy := by
  have split : hierarchy.names.filter (· ∉ name :: walk.entered)
      = (hierarchy.names.filter (· ∉ walk.entered)).filter (· ≠ name) := by
    rw [List.filter_filter]
    refine List.filter_congr fun other _ => ?_
    simp [not_or]
  unfold remaining
  rw [split, List.length_filter_lt_length_iff_exists]
  exact ⟨name, List.mem_filter.mpr ⟨member, by simpa using fresh⟩, by simp⟩

end Walk

/-! ### One walk -/

/-- A failed fold has a failed step. -/
theorem exists_of_foldlM_eq_error {visit : Walk → String → Except String Walk}
    {names : List String} {walk : Walk} {culprit : String}
    (failed : names.foldlM visit walk = .error culprit) :
    ∃ walk name, visit walk name = .error culprit := by
  induction names generalizing walk with
  | nil => cases failed
  | cons head rest ih =>
      rw [List.foldlM_cons] at failed
      cases first : visit walk head with
      | error other =>
          rw [first] at failed
          cases failed
          exact ⟨walk, head, first⟩
      | ok further =>
          rw [first] at failed
          exact ih failed

/-- A failed walk names a type that is its own direct supertype. -/
theorem extends_of_enter_eq_error {hierarchy : Hierarchy} (fuel : Nat) {walk : Walk}
    {name culprit : String} (failed : hierarchy.enter fuel walk name = .error culprit) :
    hierarchy.Extends culprit culprit := by
  induction fuel generalizing walk name with
  | zero => cases failed
  | succ fuel ih =>
      unfold enter at failed
      by_cases known : name ∈ walk.entered
      · rw [if_pos known] at failed
        cases failed
      rw [if_neg known] at failed
      by_cases loop : name ∈ hierarchy.direct name
      · simp only [if_pos loop] at failed
        cases failed
        exact loop
      simp only [if_neg loop] at failed
      split at failed
      · cases failed
      · rename_i nested
        cases failed
        obtain ⟨_, _, step⟩ := exists_of_foldlM_eq_error nested
        exact ih step

/-- **What walks with this fuel guarantee**, from a sound walk whose open types all derive from the
type to enter: they stay sound, leave what they enter, and enter the type. -/
def Guarantees (hierarchy : Hierarchy) (fuel : Nat) : Prop :=
  ∀ {walk further : Walk} {name : String}, hierarchy.enter fuel walk name = .ok further →
    name ∈ hierarchy.names → walk.Sound hierarchy →
    (∀ other, walk.Open other → hierarchy.Derives other name) →
    walk.remaining hierarchy < fuel →
    further.Sound hierarchy ∧ walk.Grows further ∧ name ∈ further.entered

/-- The guarantee for one type extends to a list of types walked in turn: the types open are the
same before each of them. -/
theorem Guarantees.fold {hierarchy : Hierarchy} {fuel : Nat}
    (guarantees : hierarchy.Guarantees fuel) (names : List String) {walk further : Walk}
    (walked : names.foldlM (hierarchy.enter fuel) walk = .ok further)
    (inside : ∀ name ∈ names, name ∈ hierarchy.names) (sound : walk.Sound hierarchy)
    (under : ∀ name ∈ names, ∀ other, walk.Open other → hierarchy.Derives other name)
    (enough : walk.remaining hierarchy < fuel) :
    further.Sound hierarchy ∧ walk.Grows further ∧ ∀ name ∈ names, name ∈ further.entered := by
  induction names generalizing walk with
  | nil =>
      cases walked
      exact ⟨sound, Walk.Grows.refl _, by simp⟩
  | cons head rest ih =>
      rw [List.foldlM_cons] at walked
      cases first : hierarchy.enter fuel walk head with
      | error culprit =>
          rw [first] at walked
          cases walked
      | ok middle =>
          rw [first] at walked
          obtain ⟨middleSound, middleGrows, headEntered⟩ :=
            guarantees first (inside head List.mem_cons_self) sound (under head List.mem_cons_self)
              enough
          obtain ⟨furtherSound, furtherGrows, restEntered⟩ := ih walked
            (fun name member => inside name (List.mem_cons_of_mem _ member)) middleSound
            (fun name member other isOpen => under name (List.mem_cons_of_mem _ member) other
              (middleGrows.open_iff.mp isOpen))
            (Nat.lt_of_le_of_lt (middleGrows.remaining_le hierarchy) enough)
          refine ⟨furtherSound, middleGrows.trans furtherGrows, ?_⟩
          intro name member
          rcases List.mem_cons.mp member with rfl | later
          · exact furtherGrows.entered headEntered
          · exact restEntered name later

theorem Walk.not_open_start (name : String) : ¬ Walk.Open {} name :=
  fun isOpen => List.not_mem_nil isOpen.1

theorem Walk.Sound.start (hierarchy : Hierarchy) : Walk.Sound hierarchy {} where
  noLoop _ member := absurd member List.not_mem_nil
  left _ member := absurd member List.not_mem_nil
  nodup := List.nodup_nil
  settled := trivial

/-- Entering a type that is not its own supertype keeps the walk sound. -/
theorem Walk.Sound.enter {hierarchy : Hierarchy} {walk : Walk} (sound : walk.Sound hierarchy)
    {name : String} (noLoop : name ∉ hierarchy.direct name) :
    Walk.Sound hierarchy { walk with entered := name :: walk.entered } where
  noLoop other member := by
    rcases List.mem_cons.mp member with rfl | before
    · exact noLoop
    · exact sound.noLoop other before
  left other member := List.mem_cons_of_mem _ (sound.left other member)
  nodup := sound.nodup
  settled := sound.settled

/-- A type that is entered is open from then on, besides those that were open before. -/
theorem Walk.Sound.open_enter_iff {hierarchy : Hierarchy} {walk : Walk}
    (sound : walk.Sound hierarchy) {name other : String} (fresh : name ∉ walk.entered) :
    Walk.Open { walk with entered := name :: walk.entered } other ↔
      other = name ∨ walk.Open other := by
  constructor
  · rintro ⟨entered, unfinished⟩
    exact (List.mem_cons.mp entered).imp id fun before => ⟨before, unfinished⟩
  · rintro (rfl | ⟨before, unfinished⟩)
    · exact ⟨List.mem_cons_self, fun finished => fresh (sound.left other finished)⟩
    · exact ⟨List.mem_cons_of_mem _ before, unfinished⟩

/-- Leaving an open type keeps the walk sound, if its supertypes have all been entered and the types
open besides it derive from it. -/
theorem Walk.Sound.leave {hierarchy : Hierarchy} {walk : Walk} (sound : walk.Sound hierarchy)
    {name : String} (isOpen : walk.Open name)
    (above : ∀ supertype ∈ hierarchy.direct name, supertype ∈ walk.entered)
    (under : ∀ other, walk.Open other → other ≠ name → hierarchy.Derives other name) :
    Walk.Sound hierarchy { walk with finished := name :: walk.finished } where
  noLoop := sound.noLoop
  left other member := by
    rcases List.mem_cons.mp member with rfl | before
    · exact isOpen.1
    · exact sound.left other before
  nodup := List.nodup_cons.mpr ⟨isOpen.2, sound.nodup⟩
  settled := by
    refine ⟨fun supertype direct => ?_, sound.settled⟩
    by_cases finished : supertype ∈ walk.finished
    · exact Or.inl finished
    · have different : supertype ≠ name := by
        rintro rfl
        exact sound.noLoop supertype isOpen.1 direct
      exact Or.inr (under supertype ⟨above supertype direct, finished⟩ different)

/-- **The walk of a type keeps its guarantee.** The fuel bounds the depth: every nested walk has
entered a type more. -/
theorem enter_spec {hierarchy : Hierarchy} (closed : hierarchy.Closed) (fuel : Nat) :
    hierarchy.Guarantees fuel := by
  induction fuel with
  | zero => exact fun _ _ _ _ enough => absurd enough (Nat.not_lt_zero _)
  | succ fuel ih =>
      intro walk further name walked member sound under enough
      unfold enter at walked
      by_cases known : name ∈ walk.entered
      · rw [if_pos known] at walked
        cases walked
        exact ⟨sound, Walk.Grows.refl walk, known⟩
      rw [if_neg known] at walked
      by_cases loop : name ∈ hierarchy.direct name
      · simp only [if_pos loop] at walked
        cases walked
      simp only [if_neg loop] at walked
      split at walked
      case h_2 => cases walked
      rename_i inner nested
      cases walked
      have fewer := Walk.remaining_enter_lt member known
      -- the types open during the nested walks: the type itself, and those that derive from it
      obtain ⟨innerSound, innerGrows, aboveEntered⟩ := ih.fold _ nested
        (fun supertype direct => (closed name supertype direct).2) (sound.enter loop)
        (fun supertype direct other isOpen => by
          rcases (sound.open_enter_iff known).mp isOpen with rfl | before
          · exact TransGen.single direct
          · exact TransGen.tail (under other before) direct)
        (by omega)
      have innerOpen : ∀ other, inner.Open other ↔ other = name ∨ walk.Open other :=
        fun other => innerGrows.open_iff.trans (sound.open_enter_iff known)
      have nameOpen : inner.Open name := (innerOpen name).mpr (Or.inl rfl)
      refine ⟨innerSound.leave nameOpen aboveEntered fun other isOpen different =>
        under other (((innerOpen other).mp isOpen).resolve_left different), ?_, nameOpen.1⟩
      obtain ⟨fresh, finished, unknown, entered⟩ := innerGrows
      refine ⟨name :: fresh, by rw [finished]; rfl, ?_, ?_⟩
      · intro other inFresh
        rcases List.mem_cons.mp inFresh with rfl | deeper
        · exact known
        · exact fun before => unknown other deeper (List.mem_cons_of_mem _ before)
      · intro other
        rw [entered other, List.mem_cons, List.mem_cons, or_left_comm, or_assoc]

/-! ### The list of the types left -/

/-- **The list of the types left**: it holds every type, each once and settled, and no type is its
own supertype. -/
theorem finishOrder_spec {hierarchy : Hierarchy} (closed : hierarchy.Closed) {order : List String}
    (finished : hierarchy.finishOrder = .ok order) :
    hierarchy.Settled order ∧ order.Nodup ∧
      ∀ name ∈ hierarchy.names, name ∈ order ∧ ¬ hierarchy.Extends name name := by
  unfold finishOrder at finished
  split at finished
  case h_2 => cases finished
  rename_i walk walked
  cases finished
  obtain ⟨walkSound, grows, entered⟩ := Guarantees.fold (enter_spec closed _) _ walked
    (fun _ member => member) (Walk.Sound.start hierarchy)
    (fun _ _ other isOpen => absurd isOpen (Walk.not_open_start other))
    (Nat.lt_succ_of_le (List.length_filter_le _ _))
  refine ⟨walkSound.settled, walkSound.nodup, fun name member => ⟨?_, ?_⟩⟩
  · by_contra unfinished
    exact Walk.not_open_start name (grows.open_iff.mp ⟨entered name member, unfinished⟩)
  · exact walkSound.noLoop name (entered name member)

/-- A misplaced type has a supertype in the list, and stands neither there nor in front. -/
theorem exists_of_misplaced? {hierarchy : Hierarchy} {passed order : List String}
    {culprit : String} (found : hierarchy.misplaced? passed order = some culprit) :
    ∃ front name back, order = front ++ name :: back ∧ hierarchy.Extends culprit name ∧
      culprit ≠ name ∧ culprit ∉ front ∧ culprit ∉ passed := by
  induction order generalizing passed with
  | nil => cases found
  | cons head rest ih =>
      unfold misplaced? at found
      split at found
      · rename_i subtype first
        cases found
        have outside : culprit ∉ head :: passed := by simpa using List.find?_some first
        rw [List.mem_cons, not_or] at outside
        exact ⟨[], head, rest, rfl, mem_subtypes.mp (List.mem_of_find?_eq_some first), outside.1,
          List.not_mem_nil, outside.2⟩
      · obtain ⟨front, name, back, split, edge, different, notFront, notPassed⟩ := ih found
        rw [List.mem_cons, not_or] at notPassed
        refine ⟨head :: front, name, back, by rw [split]; rfl, edge, different, ?_, notPassed.2⟩
        rw [List.mem_cons, not_or]
        exact ⟨notPassed.1, notFront⟩

/-- Without a misplaced type, all subtypes of a type of the list have been passed at it. -/
theorem passed_of_misplaced?_eq_none {hierarchy : Hierarchy} {passed order : List String}
    (sorted : hierarchy.misplaced? passed order = none) {front back : List String} {name : String}
    (split : order = front ++ name :: back) {subtype : String}
    (edge : hierarchy.Extends subtype name) :
    subtype = name ∨ subtype ∈ passed ∨ subtype ∈ front := by
  induction order generalizing passed front with
  | nil => simp at split
  | cons head rest ih =>
      unfold misplaced? at sorted
      split at sorted
      case h_1 => cases sorted
      rename_i noneHere
      cases front with
      | nil =>
          obtain ⟨rfl, -⟩ := List.cons.inj split
          have known := List.find?_eq_none.mp noneHere subtype (mem_subtypes.mpr edge)
          have member : subtype ∈ head :: passed := by
            by_contra outside
            exact known (decide_eq_true outside)
          exact (List.mem_cons.mp member).imp id Or.inl
      | cons first front =>
          obtain ⟨rfl, rest_eq⟩ := List.cons.inj split
          rcases ih sorted rest_eq with same | passedThen | inFront
          · exact Or.inl same
          · rcases List.mem_cons.mp passedThen with rfl | before
            · exact Or.inr (Or.inr List.mem_cons_self)
            · exact Or.inr (Or.inl before)
          · exact Or.inr (Or.inr (List.mem_cons_of_mem _ inFront))

/-! ### The culprit -/

/-- **The culprit lies on a cycle.** It was left before one of its supertypes, so that one was being
walked then, and derives from it. -/
theorem derives_of_culprit? {hierarchy : Hierarchy} (closed : hierarchy.Closed) {culprit : String}
    (found : hierarchy.culprit? = some culprit) : hierarchy.Derives culprit culprit := by
  unfold culprit? at found
  split at found
  · rename_i stopped
    cases found
    unfold finishOrder at stopped
    split at stopped
    · cases stopped
    · rename_i failed
      cases stopped
      obtain ⟨_, _, step⟩ := exists_of_foldlM_eq_error failed
      exact TransGen.single (extends_of_enter_eq_error _ step)
  · rename_i order finished
    obtain ⟨settled, nodup, complete⟩ := finishOrder_spec closed finished
    obtain ⟨front, name, back, split, edge, different, notFront, -⟩ := exists_of_misplaced? found
    have member : culprit ∈ back := by
      have inOrder := (complete culprit (closed _ _ edge).1).1
      rw [split] at inOrder
      rcases List.mem_append.mp inOrder with inFront | behind
      · exact absurd inFront notFront
      · exact (List.mem_cons.mp behind).resolve_left different
    obtain ⟨middle, last, rfl⟩ := List.append_of_mem member
    have above : name ∈ last ∨ hierarchy.Derives name culprit := by
      have behind : hierarchy.Settled (culprit :: last) := by
        refine Settled.of_append (front ++ name :: middle) ?_
        rw [split] at settled
        simpa using settled
      exact behind.1 name edge
    rcases above with again | derived
    · rw [split] at nodup
      have once := (List.nodup_cons.mp (List.nodup_append.mp nodup).2.1).1
      exact absurd (by simp [again]) once
    · exact TransGen.head edge derived

/-- Without a culprit the places in the list increase along every derivation. -/
theorem acyclic_of_culprit?_eq_none {hierarchy : Hierarchy} (closed : hierarchy.Closed)
    (none : hierarchy.culprit? = none) : hierarchy.Acyclic := by
  unfold culprit? at none
  split at none
  case h_1 => cases none
  rename_i order finished
  obtain ⟨-, -, complete⟩ := finishOrder_spec closed finished
  have increases : ∀ {subtype supertype}, hierarchy.Extends subtype supertype →
      order.idxOf subtype < order.idxOf supertype := by
    intro subtype supertype edge
    have places := closed _ _ edge
    obtain ⟨front, back, split, notFront⟩ :=
      List.eq_append_cons_of_mem (complete supertype places.2).1
    have inFront : subtype ∈ front := by
      rcases passed_of_misplaced?_eq_none none split edge with rfl | before | before
      · exact absurd edge (complete subtype places.1).2
      · exact absurd before List.not_mem_nil
      · exact before
    rw [split, List.idxOf_append_of_mem inFront, List.idxOf_append_of_notMem notFront]
    exact Nat.lt_of_lt_of_le (List.idxOf_lt_length_of_mem inFront) (Nat.le_add_right _ _)
  intro name derived
  have climbs : ∀ supertype, hierarchy.Derives name supertype →
      order.idxOf name < order.idxOf supertype := by
    intro supertype derivation
    induction derivation with
    | single edge => exact increases edge
    | tail _ edge ih => exact Nat.lt_trans ih (increases edge)
  exact Nat.lt_irrefl _ (climbs name derived)

/-- **A hierarchy has no culprit just if it has no cycle.** -/
theorem culprit?_eq_none_iff {hierarchy : Hierarchy} (closed : hierarchy.Closed) :
    hierarchy.culprit? = none ↔ hierarchy.Acyclic := by
  constructor
  · exact acyclic_of_culprit?_eq_none closed
  · intro acyclic
    cases found : hierarchy.culprit? with
    | none => rfl
    | some culprit => exact absurd (derives_of_culprit? closed found) (acyclic culprit)

theorem build_eq_ok_iff {declarations : List (String × List String)} {hierarchy : Hierarchy} :
    build declarations = .ok hierarchy ↔
      (ofDeclarations declarations).Acyclic ∧ hierarchy = ofDeclarations declarations := by
  rw [← culprit?_eq_none_iff (closed_ofDeclarations declarations)]
  unfold build
  cases found : (ofDeclarations declarations).culprit? with
  | some culprit => simp [found]
  | none => simp [found, eq_comm]

end InfoModel.Hierarchy
