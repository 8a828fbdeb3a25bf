/-
**The search for cycles with a stack.**

The published form of the search keeps a stack of types, on which a type can stand several times,
and passes over the graph twice.

* `Hierarchy.turn` is one turn of the first pass, which looks at the type on top of the stack.
  `Drains` works a stack off, `Searches` starts anew at every type not entered yet;
* `Hierarchy.probe` is one step of the second pass: it walks the reversed graph from one type and
  stops at a second one;
* `drains_of_enter`: the turns run the nested walks. A type that stands on the stack twice was left
  by the time its lower place is reached, so that it is passed over there;
* `topologicalSort_iff`: so the two passes come to one result, which is the culprit if there is one;
* `Catalogue.hierarchyOf_exact`: a hierarchy is refused just if it has a cycle, by a type on one.
-/

import InfoModel.Proofs.Catalogue
import InfoModel.Proofs.Hierarchy.CycleSearch

namespace InfoModel

namespace Hierarchy

open Relation

/-! ### Two passes with a stack -/

/-- Pushes the types that are not known, one after the other. -/
def push (known types stack : List String) : List String :=
  types.foldl (fun stack name => if name ∈ known then stack else name :: stack) stack

/-- **One turn of the first pass**, for the type on top of the stack. A new type is entered and
stays there; its supertypes are pushed, the one declared last first. A type entered before is popped
and left, unless it was left before. -/
def turn (hierarchy : Hierarchy) (walk : Walk) (name : String) (below : List String) :
    Except String (Walk × List String) :=
  if name ∈ walk.entered then
    if name ∈ walk.finished then .ok (walk, below)
    else .ok ({ walk with finished := name :: walk.finished }, below)
  else if name ∈ hierarchy.direct name then .error name
  else
    .ok ({ walk with entered := name :: walk.entered },
      push (name :: walk.entered) (hierarchy.direct name).reverse (name :: below))

/-- Turn after turn, until the stack is empty or a turn fails. -/
inductive Drains (hierarchy : Hierarchy) : Walk → List String → Except String Walk → Prop where
  | empty {walk : Walk} : Drains hierarchy walk [] (.ok walk)
  | stops {walk : Walk} {name culprit : String} {below : List String}
      (stopped : hierarchy.turn walk name below = .error culprit) :
      Drains hierarchy walk (name :: below) (.error culprit)
  | turns {walk further : Walk} {name : String} {below stack : List String}
      {result : Except String Walk} (turned : hierarchy.turn walk name below = .ok (further, stack))
      (drains : Drains hierarchy further stack result) :
      Drains hierarchy walk (name :: below) result

/-- **The first pass** over a list of types: it starts anew at every type not entered yet. -/
inductive Searches (hierarchy : Hierarchy) : Walk → List String → Except String Walk → Prop where
  | done {walk : Walk} : Searches hierarchy walk [] (.ok walk)
  | skips {walk : Walk} {name : String} {names : List String} {result : Except String Walk}
      (known : name ∈ walk.entered) (searches : Searches hierarchy walk names result) :
      Searches hierarchy walk (name :: names) result
  | stops {walk : Walk} {name culprit : String} {names : List String}
      (fresh : name ∉ walk.entered) (drains : hierarchy.Drains walk [name] (.error culprit)) :
      Searches hierarchy walk (name :: names) (.error culprit)
  | starts {walk further : Walk} {name : String} {names : List String}
      {result : Except String Walk} (fresh : name ∉ walk.entered)
      (drains : hierarchy.Drains walk [name] (.ok further))
      (searches : Searches hierarchy further names result) :
      Searches hierarchy walk (name :: names) result

/-- The topmost type of a stack that was not visited; with it, the types visited then and the stack
with its subtypes. -/
def next? (hierarchy : Hierarchy) (visited : List String) :
    List String → Option (String × List String × List String)
  | [] => none
  | name :: below =>
    if name ∈ visited then hierarchy.next? visited below
    else some (name, name :: visited,
      push (name :: visited) (hierarchy.subtypes name).reverse below)

/-- **One step of the second pass**: from one type, a second one that was not visited is the
culprit. -/
def probe (hierarchy : Hierarchy) (visited : List String) (name : String) :
    Except String (List String) :=
  match hierarchy.next? visited [name] with
  | none => .ok visited
  | some (_, visited, stack) =>
    match hierarchy.next? visited stack with
    | none => .ok visited
    | some (culprit, _) => .error culprit

/-- **The topological sort**: the first pass lists the types by the time they are left, the second
one goes through that list, last one first. -/
inductive TopologicalSort (hierarchy : Hierarchy) : Except String (List String) → Prop where
  | stops {culprit : String}
      (searches : hierarchy.Searches {} hierarchy.names (.error culprit)) :
      TopologicalSort hierarchy (.error culprit)
  | crosses {walk : Walk} {culprit : String}
      (searches : hierarchy.Searches {} hierarchy.names (.ok walk))
      (found : walk.finished.foldlM hierarchy.probe [] = .error culprit) :
      TopologicalSort hierarchy (.error culprit)
  | sorts {walk : Walk} {visited : List String}
      (searches : hierarchy.Searches {} hierarchy.names (.ok walk))
      (passed : walk.finished.foldlM hierarchy.probe [] = .ok visited) :
      TopologicalSort hierarchy (.ok walk.finished)

/-! ### The stack runs the nested walks -/

variable {hierarchy : Hierarchy}

/-- The types pushed last one first stand on the stack first one on top. -/
theorem push_reverse (known types stack : List String) :
    push known types.reverse stack = types.filter (· ∉ known) ++ stack := by
  unfold push
  rw [List.foldl_reverse]
  induction types with
  | nil => rfl
  | cons name rest ih =>
      rw [List.foldr_cons, ih]
      by_cases member : name ∈ known
      · rw [if_pos member, List.filter_cons_of_neg (by simpa using member)]
      · rw [if_neg member, List.filter_cons_of_pos (by simpa using member)]
        rfl

/-! One turn for each of the four cases of the type on top of the stack. -/

namespace Drains

variable {walk : Walk} {name : String} {below : List String} {result : Except String Walk}

/-- A type that was left is passed over. -/
theorem pass (entered : name ∈ walk.entered) (left : name ∈ walk.finished)
    (drains : hierarchy.Drains walk below result) :
    hierarchy.Drains walk (name :: below) result := by
  refine .turns ?_ drains
  unfold turn
  rw [if_pos entered, if_pos left]

/-- An open type is left. -/
theorem leave (isOpen : walk.Open name)
    (drains : hierarchy.Drains { walk with finished := name :: walk.finished } below result) :
    hierarchy.Drains walk (name :: below) result := by
  refine .turns ?_ drains
  unfold turn
  rw [if_pos isOpen.1, if_neg isOpen.2]

/-- A new type is entered, and its supertypes are pushed on it. -/
theorem enter (fresh : name ∉ walk.entered) (noLoop : name ∉ hierarchy.direct name)
    (drains : hierarchy.Drains { walk with entered := name :: walk.entered }
      ((hierarchy.direct name).filter (· ∉ name :: walk.entered) ++ name :: below) result) :
    hierarchy.Drains walk (name :: below) result := by
  refine .turns ?_ drains
  unfold turn
  rw [if_neg fresh, if_neg noLoop, push_reverse]

/-- A new type that is its own supertype stops the walk. -/
theorem loop (fresh : name ∉ walk.entered) (isLoop : name ∈ hierarchy.direct name) :
    hierarchy.Drains walk (name :: below) (.error name) := by
  refine .stops ?_
  unfold turn
  rw [if_neg fresh, if_pos isLoop]

end Drains

/-- A walk with this fuel can enter the type. -/
structure Walk.Ready (hierarchy : Hierarchy) (fuel : Nat) (walk : Walk) (name : String) :
    Prop where
  inside : name ∈ hierarchy.names
  sound : walk.Sound hierarchy
  under : ∀ other, walk.Open other → hierarchy.Derives other name
  enough : walk.remaining hierarchy < fuel

/-- A walk that is ready stays sound and leaves what it enters. -/
theorem Walk.Ready.guaranteed (closed : hierarchy.Closed) {fuel : Nat} {walk further : Walk}
    {name : String} (ready : walk.Ready hierarchy fuel name)
    (walked : hierarchy.enter fuel walk name = .ok further) :
    further.Sound hierarchy ∧ walk.Grows further := by
  obtain ⟨sound, grows, -⟩ :=
    enter_spec closed fuel walked ready.inside ready.sound ready.under ready.enough
  exact ⟨sound, grows⟩

theorem Walk.Ready.later {fuel : Nat} {walk further : Walk} {name : String}
    (ready : walk.Ready hierarchy fuel name) (sound : further.Sound hierarchy)
    (grows : walk.Grows further) : further.Ready hierarchy fuel name where
  inside := ready.inside
  sound := sound
  under other isOpen := ready.under other (grows.open_iff.mp isOpen)
  enough := Nat.lt_of_le_of_lt (grows.remaining_le hierarchy) ready.enough

/-- A type that was just entered is ready for its supertypes. -/
theorem Walk.Ready.nested (closed : hierarchy.Closed) {fuel : Nat} {walk : Walk}
    {name supertype : String} (ready : walk.Ready hierarchy (fuel + 1) name)
    (fresh : name ∉ walk.entered) (noLoop : name ∉ hierarchy.direct name)
    (direct : supertype ∈ hierarchy.direct name) :
    Walk.Ready hierarchy fuel { walk with entered := name :: walk.entered } supertype where
  inside := (closed name supertype direct).2
  sound := ready.sound.enter noLoop
  under other isOpen := by
    rcases (ready.sound.open_enter_iff fresh).mp isOpen with rfl | before
    · exact TransGen.single direct
    · exact TransGen.tail (ready.under other before) direct
  enough := by
    have fewer := Walk.remaining_enter_lt ready.inside fresh
    have enough := ready.enough
    omega

theorem enter_of_mem {fuel : Nat} {walk : Walk} {name : String} (known : name ∈ walk.entered) :
    hierarchy.enter fuel walk name = .ok walk := by
  cases fuel with
  | zero => rfl
  | succ fuel => exact if_pos known

/-- The stack below is worked off after a walk, unless that has failed. -/
def Continues (hierarchy : Hierarchy) (below : List String) (result : Except String Walk) :
    Except String Walk → Prop
  | .ok further => hierarchy.Drains further below result
  | .error culprit => result = .error culprit

/-- The turns for a type on top of the stack run its walk. -/
def RunsWalks (hierarchy : Hierarchy) (fuel : Nat) : Prop :=
  ∀ {walk : Walk} {name : String} {below : List String} {result : Except String Walk},
    walk.Ready hierarchy fuel name → name ∉ walk.entered →
    hierarchy.Continues below result (hierarchy.enter fuel walk name) →
    hierarchy.Drains walk (name :: below) result

/-- **The turns for the types pushed run their walks in turn.** Of the types pushed, some may have
been entered since; they have been left, too, and are passed over. -/
theorem RunsWalks.fold (closed : hierarchy.Closed) {fuel : Nat} (runs : hierarchy.RunsWalks fuel)
    (names : List String) {walk : Walk} {known below : List String}
    {result : Except String Walk} (ready : ∀ name ∈ names, walk.Ready hierarchy fuel name)
    (before : ∀ name ∈ known, name ∈ walk.entered)
    (since : ∀ name ∈ walk.entered, name ∈ known ∨ name ∈ walk.finished)
    (continues : hierarchy.Continues below result (names.foldlM (hierarchy.enter fuel) walk)) :
    hierarchy.Drains walk (names.filter (· ∉ known) ++ below) result := by
  induction names generalizing walk with
  | nil => exact continues
  | cons head rest ih =>
      have restReady : ∀ name ∈ rest, walk.Ready hierarchy fuel name :=
        fun name member => ready name (List.mem_cons_of_mem _ member)
      rw [List.foldlM_cons] at continues
      by_cases entered : head ∈ walk.entered
      · -- it may not even have been pushed; if it was, it has been left since
        rw [enter_of_mem entered] at continues
        have later := ih restReady before since continues
        by_cases old : head ∈ known
        · rwa [List.filter_cons_of_neg (by simpa using old)]
        · rw [List.filter_cons_of_pos (by simpa using old), List.cons_append]
          exact .pass entered ((since head entered).resolve_left old) later
      · rw [List.filter_cons_of_pos (by simpa using fun old => entered (before head old)),
          List.cons_append]
        have headReady := ready head List.mem_cons_self
        refine runs headReady entered ?_
        cases walked : hierarchy.enter fuel walk head with
        | error culprit =>
            rw [walked] at continues
            exact continues
        | ok middle =>
            rw [walked] at continues
            obtain ⟨sound, grows⟩ := headReady.guaranteed closed walked
            refine ih (fun name member => (restReady name member).later sound grows)
              (fun name old => grows.entered (before name old)) (fun name member => ?_) continues
            obtain ⟨fresh, finished, -, enteredThen⟩ := grows
            rw [finished, List.mem_append]
            rcases (enteredThen name).mp member with new | earlier
            · exact Or.inr (Or.inl new)
            · exact (since name earlier).imp id Or.inr

/-- **The turns for a type run its walk**, by induction on the depth that the fuel bounds. -/
theorem drains_of_enter (closed : hierarchy.Closed) (fuel : Nat) : hierarchy.RunsWalks fuel := by
  induction fuel with
  | zero => exact fun ready => absurd ready.enough (Nat.not_lt_zero _)
  | succ fuel ih =>
      intro walk name below result ready fresh continues
      unfold enter at continues
      rw [if_neg fresh] at continues
      by_cases loop : name ∈ hierarchy.direct name
      · simp only [if_pos loop] at continues
        obtain rfl : result = .error name := continues
        exact .loop fresh loop
      simp only [if_neg loop] at continues
      have nested : ∀ supertype ∈ hierarchy.direct name,
          Walk.Ready hierarchy fuel { walk with entered := name :: walk.entered } supertype :=
        fun _ direct => ready.nested closed fresh loop direct
      refine .enter fresh loop (ih.fold closed _ nested (fun _ => id) (fun _ => Or.inl) ?_)
      cases walked : (hierarchy.direct name).foldlM (hierarchy.enter fuel)
          { walk with entered := name :: walk.entered } with
      | error culprit =>
          rw [walked] at continues
          exact continues
      | ok inner =>
          rw [walked] at continues
          have fewer := Walk.remaining_enter_lt ready.inside fresh
          have enough := ready.enough
          obtain ⟨-, grows, -⟩ := Guarantees.fold (enter_spec closed fuel) _ walked
            (fun supertype direct => (nested supertype direct).inside)
            (ready.sound.enter loop)
            (fun supertype direct => (nested supertype direct).under) (by omega)
          -- the nested walks leave what they enter, and only the type itself is open behind them
          have isOpen : inner.Open name :=
            grows.open_iff.mpr ((ready.sound.open_enter_iff fresh).mpr (Or.inl rfl))
          exact .leave isOpen continues

/-! ### The first pass -/

/-- A type that no walk is under way below, with fuel for all types. -/
theorem Walk.Ready.fresh {walk : Walk} {name : String} (inside : name ∈ hierarchy.names)
    (sound : walk.Sound hierarchy) (noneOpen : ∀ other, ¬ walk.Open other) :
    walk.Ready hierarchy (hierarchy.names.length + 1) name where
  inside := inside
  sound := sound
  under other isOpen := absurd isOpen (noneOpen other)
  enough := Nat.lt_succ_of_le (List.length_filter_le _ _)

/-- **The first pass is the fold of the nested walks.** -/
theorem searches_fold (closed : hierarchy.Closed) (names : List String) {walk : Walk}
    (inside : ∀ name ∈ names, name ∈ hierarchy.names) (sound : walk.Sound hierarchy)
    (noneOpen : ∀ other, ¬ walk.Open other) :
    hierarchy.Searches walk names
      (names.foldlM (hierarchy.enter (hierarchy.names.length + 1)) walk) := by
  induction names generalizing walk with
  | nil => exact .done
  | cons head rest ih =>
      have restInside : ∀ name ∈ rest, name ∈ hierarchy.names :=
        fun name member => inside name (List.mem_cons_of_mem _ member)
      rw [List.foldlM_cons]
      by_cases entered : head ∈ walk.entered
      · rw [enter_of_mem entered]
        exact .skips entered (ih restInside sound noneOpen)
      have ready := Walk.Ready.fresh (inside head List.mem_cons_self) sound noneOpen
      cases walked : hierarchy.enter (hierarchy.names.length + 1) walk head with
      | error culprit =>
          exact .stops entered (drains_of_enter closed _ ready entered (by rw [walked]; rfl))
      | ok further =>
          obtain ⟨furtherSound, grows⟩ := ready.guaranteed closed walked
          exact .starts entered
            (drains_of_enter closed _ ready entered (by rw [walked]; exact .empty))
            (ih restInside furtherSound fun other isOpen =>
              noneOpen other (grows.open_iff.mp isOpen))

/-- A stack is worked off in one way. -/
theorem Drains.unique {walk : Walk} {stack : List String} {first second : Except String Walk}
    (drains : hierarchy.Drains walk stack first) (again : hierarchy.Drains walk stack second) :
    first = second := by
  induction drains with
  | empty =>
      cases again with
      | empty => rfl
  | stops stopped =>
      cases again with
      | stops stoppedAgain =>
          exact congrArg _ (Except.error.inj (stopped.symm.trans stoppedAgain))
      | turns turned _ => exact nomatch stopped.symm.trans turned
  | turns turned _ ih =>
      cases again with
      | stops stopped => exact nomatch stopped.symm.trans turned
      | turns turnedAgain rest =>
          obtain ⟨rfl, rfl⟩ := Prod.mk.inj (Except.ok.inj (turned.symm.trans turnedAgain))
          exact ih rest

theorem Searches.unique {walk : Walk} {names : List String} {first second : Except String Walk}
    (searches : hierarchy.Searches walk names first)
    (again : hierarchy.Searches walk names second) : first = second := by
  induction searches with
  | done =>
      cases again with
      | done => rfl
  | skips known _ ih =>
      cases again with
      | skips _ rest => exact ih rest
      | stops fresh _ | starts fresh _ _ => exact absurd known fresh
  | stops fresh drains =>
      cases again with
      | skips known _ => exact absurd known fresh
      | stops _ drainsAgain => exact drains.unique drainsAgain
      | starts _ drainsAgain _ => exact nomatch drains.unique drainsAgain
  | starts fresh drains _ ih =>
      cases again with
      | skips known _ => exact absurd known fresh
      | stops _ drainsAgain => exact nomatch drains.unique drainsAgain
      | starts _ drainsAgain rest =>
          obtain rfl := Except.ok.inj (drains.unique drainsAgain)
          exact ih rest

/-! ### The second pass -/

theorem next?_filter (visited types : List String) :
    (hierarchy.next? visited (types.filter (· ∉ visited))).map Prod.fst
      = types.find? (· ∉ visited) := by
  induction types with
  | nil => rfl
  | cons name rest ih =>
      by_cases member : name ∈ visited
      · rw [List.filter_cons_of_neg (by simpa using member),
          List.find?_cons_of_neg (by simpa using member)]
        exact ih
      · rw [List.filter_cons_of_pos (by simpa using member),
          List.find?_cons_of_pos (by simpa using member)]
        unfold next?
        rw [if_neg member]
        rfl

/-- A step of the second pass looks for a subtype that was not visited. -/
theorem probe_eq {visited : List String} {name : String} (fresh : name ∉ visited) :
    hierarchy.probe visited name =
      match (hierarchy.subtypes name).find? (· ∉ name :: visited) with
      | some culprit => .error culprit
      | none => .ok (name :: visited) := by
  unfold probe
  rw [next?, if_neg fresh, push_reverse, List.append_nil, ← next?_filter]
  dsimp only
  cases hierarchy.next? (name :: visited)
      ((hierarchy.subtypes name).filter (· ∉ name :: visited)) <;> rfl

/-- **The second pass looks for a misplaced type.** -/
theorem misplaced?_eq_some_iff {passed order : List String} (distinct : order.Nodup)
    (apart : ∀ name ∈ order, name ∉ passed) {culprit : String} :
    hierarchy.misplaced? passed order = some culprit ↔
      order.foldlM hierarchy.probe passed = .error culprit := by
  induction order generalizing passed with
  | nil => exact iff_of_false (by rintro ⟨⟩) (by rintro ⟨⟩)
  | cons name rest ih =>
      obtain ⟨once, restDistinct⟩ := List.nodup_cons.mp distinct
      unfold misplaced?
      rw [List.foldlM_cons, probe_eq (apart name List.mem_cons_self)]
      cases (hierarchy.subtypes name).find? (· ∉ name :: passed) with
      | some found =>
          exact ⟨fun same => congrArg _ (Option.some.inj same),
            fun same => congrArg _ (Except.error.inj same)⟩
      | none =>
          refine ih restDistinct fun other member => ?_
          rw [List.mem_cons, not_or]
          exact ⟨fun same => once (same ▸ member), apart other (List.mem_cons_of_mem _ member)⟩

/-! ### Both passes -/

theorem searches_iff (closed : hierarchy.Closed) {result : Except String Walk} :
    hierarchy.Searches {} hierarchy.names result ↔
      hierarchy.names.foldlM (hierarchy.enter (hierarchy.names.length + 1)) {} = result := by
  have searches := searches_fold closed hierarchy.names (fun _ => id) (Walk.Sound.start hierarchy)
    Walk.not_open_start
  exact ⟨searches.unique, fun same => same ▸ searches⟩

theorem searches_error_iff (closed : hierarchy.Closed) {culprit : String} :
    hierarchy.Searches {} hierarchy.names (.error culprit) ↔
      hierarchy.finishOrder = .error culprit := by
  rw [searches_iff closed]
  unfold finishOrder
  cases hierarchy.names.foldlM (hierarchy.enter (hierarchy.names.length + 1)) {} <;> simp

theorem exists_searches_ok_iff (closed : hierarchy.Closed) {order : List String} :
    (∃ walk : Walk, hierarchy.Searches {} hierarchy.names (.ok walk) ∧ walk.finished = order) ↔
      hierarchy.finishOrder = .ok order := by
  simp only [searches_iff closed]
  unfold finishOrder
  cases hierarchy.names.foldlM (hierarchy.enter (hierarchy.names.length + 1)) {} <;> simp

/-- Where the first pass has an order, the second one decides on the culprit. -/
theorem culprit?_eq_some_iff (closed : hierarchy.Closed) {order : List String}
    (finished : hierarchy.finishOrder = .ok order) {culprit : String} :
    hierarchy.culprit? = some culprit ↔ order.foldlM hierarchy.probe [] = .error culprit := by
  rw [← misplaced?_eq_some_iff (finishOrder_spec closed finished).2.1
    fun _ _ => List.not_mem_nil]
  unfold culprit?
  rw [finished]

/-- **The two passes come to one result**: the culprit, or the types in the order of the walk if
there is none. -/
theorem topologicalSort_iff (closed : hierarchy.Closed) {result : Except String (List String)} :
    hierarchy.TopologicalSort result ↔ result =
      match hierarchy.culprit? with
      | some culprit => .error culprit
      | none => hierarchy.finishOrder := by
  constructor
  · intro sorts
    cases sorts with
    | stops searches =>
        unfold culprit?
        rw [(searches_error_iff closed).mp searches]
    | crosses searches found =>
        have finished := (exists_searches_ok_iff closed).mp ⟨_, searches, rfl⟩
        rw [(culprit?_eq_some_iff closed finished).mpr found]
    | sorts searches passed =>
        have finished := (exists_searches_ok_iff closed).mp ⟨_, searches, rfl⟩
        cases named : hierarchy.culprit? with
        | none => exact finished.symm
        | some culprit =>
            exact nomatch passed.symm.trans ((culprit?_eq_some_iff closed finished).mp named)
  · rintro rfl
    cases finished : hierarchy.finishOrder with
    | error culprit =>
        unfold culprit?
        rw [finished]
        exact .stops ((searches_error_iff closed).mpr finished)
    | ok order =>
        obtain ⟨walk, searches, rfl⟩ := (exists_searches_ok_iff closed).mpr finished
        cases named : hierarchy.culprit? with
        | some culprit =>
            exact .crosses searches ((culprit?_eq_some_iff closed finished).mp named)
        | none =>
            cases passed : walk.finished.foldlM hierarchy.probe [] with
            | ok visited => exact .sorts searches passed
            | error culprit =>
                exact nomatch named.symm.trans ((culprit?_eq_some_iff closed finished).mpr passed)

theorem exists_finishOrder_of_culprit?_eq_none (none : hierarchy.culprit? = none) :
    ∃ order, hierarchy.finishOrder = .ok order := by
  unfold culprit? at none
  split at none
  · cases none
  · exact ⟨_, ‹_›⟩

/-- The first type is declared with the second one among its supertypes. -/
def Declares (declarations : List (String × List String)) (subtype supertype : String) : Prop :=
  ∃ supertypes, (subtype, supertypes) ∈ declarations ∧ supertype ∈ supertypes

theorem extends_ofDeclarations_eq (declarations : List (String × List String)) :
    (ofDeclarations declarations).Extends = Declares declarations :=
  funext fun _ => funext fun _ => propext extends_ofDeclarations

end Hierarchy

namespace Catalogue

open Hierarchy Relation

/-- **The search for cycles is exact.** A hierarchy is made of declarations just if no type derives
from itself by them; otherwise the fault names a type that does. The search is the topological sort,
which comes to one result. -/
theorem hierarchyOf_exact (declarations : List (String × List String)) :
    ((∃ hierarchy, hierarchyOf declarations = .ok hierarchy) ↔
      ∀ name, ¬ TransGen (Declares declarations) name name) ∧
    (∀ fault, hierarchyOf declarations = .error fault → ∃ culprit,
      fault = .supertypeCycle culprit ∧ TransGen (Declares declarations) culprit culprit) ∧
    ∃ result, (∀ other, (ofDeclarations declarations).TopologicalSort other ↔ other = result) ∧
      hierarchyOf declarations =
        match result with
        | .ok _ => .ok (ofDeclarations declarations)
        | .error culprit => .error (.supertypeCycle culprit) := by
  have closed := closed_ofDeclarations declarations
  rw [← extends_ofDeclarations_eq]
  refine ⟨?_, fun fault failed => hierarchyOf_eq_error failed, ?_⟩
  · simp only [hierarchyOf_eq_ok_iff, exists_and_left, exists_eq, and_true]
    rfl
  · refine ⟨_, fun _ => topologicalSort_iff closed, ?_⟩
    unfold hierarchyOf Hierarchy.build
    cases named : (ofDeclarations declarations).culprit? with
    | some culprit => simp only [named]
    | none =>
        obtain ⟨order, finished⟩ := exists_finishOrder_of_culprit?_eq_none named
        simp only [named, finished]

end Catalogue

end InfoModel
