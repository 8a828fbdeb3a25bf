/-
**Outcomes and records of recorded computations.**

* `outcome_bind_eq_ok_iff`: two steps succeed just if the first does and the second does on its
  result; `outcome_bind_eq_error_iff`: they fail with the fault of the first, or with that of the
  second on its result;
* `outcome_mapM_eq_ok_iff`: a step for every item of a list succeeds just if each of them does, and
  then gives their results in order; `exists_of_outcome_mapM_eq_error`: it fails with the fault of
  one of them;
* `events_mapM_of_ok`: the record of steps that succeed is that of each, one behind the other;
* `count` is the number of events of a kind in a record. It adds up along steps that succeed
  (`count_bind_of_ok`), and nothing comes of steps that do not report the kind
  (`count_bind_eq_zero`, `count_mapM_eq_zero`).
-/

import InfoModel.Mapping.Recorded
import Mathlib.Data.List.Forall2

namespace InfoModel.Recorded

variable {α β γ : Type}

instance : LawfulMonad Recorded := by
  refine LawfulMonad.mk' Recorded ?_ ?_ ?_
  · rintro α ⟨events, outcome⟩
    cases outcome
    · rfl
    · show Recorded.mk (events ++ []) _ = _
      rw [List.append_nil]
      rfl
  · intro α β value next
    rfl
  · rintro α β γ ⟨events, outcome⟩ next further
    cases outcome with
    | error fault => rfl
    | ok value =>
        show andThen ⟨events ++ (next value).events, (next value).outcome⟩ further
          = ⟨events ++ (andThen (next value) further).events,
            (andThen (next value) further).outcome⟩
        unfold andThen
        cases (next value).outcome
        · rfl
        · simp only [List.append_assoc]

/-- **Two steps succeed just if the first does and the second does on its result.** -/
theorem outcome_bind_eq_ok_iff {step : Recorded α} {next : α → Recorded β} {result : β} :
    (step >>= next).outcome = .ok result ↔
      ∃ value, step.outcome = .ok value ∧ (next value).outcome = .ok result := by
  rw [outcome_bind]
  cases step.outcome with
  | error fault =>
      constructor
      · intro failed
        cases failed
      · rintro ⟨_, failed, -⟩
        cases failed
  | ok value =>
      constructor
      · exact fun succeeds => ⟨value, rfl, succeeds⟩
      · rintro ⟨_, ⟨⟩, succeeds⟩
        exact succeeds

/-- **Two steps fail just if the first does, or the second does on its result.** -/
theorem outcome_bind_eq_error_iff {step : Recorded α} {next : α → Recorded β}
    {fault : MappingFault} :
    (step >>= next).outcome = .error fault ↔ step.outcome = .error fault ∨
      ∃ value, step.outcome = .ok value ∧ (next value).outcome = .error fault := by
  rw [outcome_bind]
  cases step.outcome with
  | error other =>
      constructor
      · rintro ⟨⟩
        exact Or.inl rfl
      · rintro (⟨⟨⟩⟩ | ⟨_, succeeded, -⟩)
        · rfl
        · cases succeeded
  | ok value =>
      constructor
      · exact fun fails => Or.inr ⟨value, rfl, fails⟩
      · rintro (failed | ⟨_, ⟨⟩, fails⟩)
        · cases failed
        · exact fails

/-- Steps that are the same for every result of a first step are the same behind it. -/
theorem bind_congr {step : Recorded α} {next other : α → Recorded β}
    (same : ∀ value, step.outcome = .ok value → next value = other value) :
    step >>= next = step >>= other := by
  show andThen step next = andThen step other
  unfold andThen
  cases outcome : step.outcome with
  | error fault => rfl
  | ok value => simp only [same value outcome]

/-- A value made of a step's result is made of its outcome. -/
theorem outcome_bind_pure (step : Recorded α) (make : α → β) :
    (step >>= fun value => pure (make value)).outcome = step.outcome.map make := by
  rw [outcome_bind]
  cases step.outcome <;> rfl

theorem outcome_pure_eq_ok_iff {value result : α} :
    (pure value : Recorded α).outcome = .ok result ↔ value = result := by
  rw [outcome_pure, Except.ok.injEq]

/-- **A step for every item succeeds just if each of them does.** -/
theorem outcome_mapM_eq_ok_iff {step : α → Recorded β} {items : List α} {results : List β} :
    (items.mapM step).outcome = .ok results ↔
      List.Forall₂ (fun item result => (step item).outcome = .ok result) items results := by
  induction items generalizing results with
  | nil =>
      rw [List.mapM_nil, outcome_pure_eq_ok_iff, List.forall₂_nil_left_iff, eq_comm]
  | cons item rest ih =>
      rw [List.mapM_cons, outcome_bind_eq_ok_iff, List.forall₂_cons_left_iff]
      constructor
      · rintro ⟨first, headDone, restDone⟩
        obtain ⟨later, tailDone, pairs⟩ := outcome_bind_eq_ok_iff.mp restDone
        exact ⟨first, later, headDone, ih.mp tailDone, (outcome_pure_eq_ok_iff.mp pairs).symm⟩
      · rintro ⟨first, later, headDone, tailDone, rfl⟩
        exact ⟨first, headDone, outcome_bind_eq_ok_iff.mpr ⟨later, ih.mpr tailDone, rfl⟩⟩

/-- A step for every item fails with the fault of one of them. -/
theorem exists_of_outcome_mapM_eq_error {step : α → Recorded β} {items : List α}
    {fault : MappingFault} (failed : (items.mapM step).outcome = .error fault) :
    ∃ item ∈ items, (step item).outcome = .error fault := by
  induction items with
  | nil => cases failed
  | cons item rest ih =>
      rw [List.mapM_cons, outcome_bind_eq_error_iff] at failed
      rcases failed with first | ⟨_, -, later⟩
      · exact ⟨item, List.mem_cons_self, first⟩
      · rcases outcome_bind_eq_error_iff.mp later with restFailed | ⟨_, -, ⟨⟩⟩
        obtain ⟨other, member, fails⟩ := ih restFailed
        exact ⟨other, List.mem_cons_of_mem _ member, fails⟩

/-- A step for every item succeeds just if each of them does, whatever the results. -/
theorem exists_outcome_mapM_eq_ok_iff {step : α → Recorded β} {items : List α} :
    (∃ results, (items.mapM step).outcome = .ok results) ↔
      ∀ item ∈ items, ∃ result, (step item).outcome = .ok result := by
  induction items with
  | nil => exact ⟨fun _ => nofun, fun _ => ⟨[], rfl⟩⟩
  | cons item rest ih =>
      simp only [outcome_mapM_eq_ok_iff] at ih ⊢
      rw [List.forall_mem_cons, ← ih]
      constructor
      · rintro ⟨_, each⟩
        cases each with
        | cons one others => exact ⟨⟨_, one⟩, ⟨_, others⟩⟩
      · rintro ⟨⟨_, one⟩, ⟨_, others⟩⟩
        exact ⟨_, .cons one others⟩

/-- Where each step is determined by its item, so are the results of all steps. -/
theorem outcome_mapM_eq_ok_iff_map {step : α → Recorded β} {succeeds : α → Prop} {value : α → β}
    (determined : ∀ item result,
      (step item).outcome = .ok result ↔ succeeds item ∧ result = value item)
    {items : List α} {results : List β} :
    (items.mapM step).outcome = .ok results ↔
      (∀ item ∈ items, succeeds item) ∧ results = items.map value := by
  rw [outcome_mapM_eq_ok_iff]
  simp only [determined]
  rw [List.forall₂_and_left]
  refine and_congr_right fun _ => ?_
  rw [eq_comm, ← List.forall₂_eq_eq_eq, List.forall₂_map_left_iff]
  constructor <;> exact List.Forall₂.imp fun _ _ same => same.symm

theorem outcome_mapM_of_forall {step : α → Recorded β} {result : α → β}
    (succeeds : ∀ item, (step item).outcome = .ok (result item)) (items : List α) :
    (items.mapM step).outcome = .ok (items.map result) := by
  rw [outcome_mapM_eq_ok_iff, List.forall₂_map_right_iff, List.forall₂_same]
  exact fun item _ => succeeds item

/-- Steps that are the same for every item are the same for all. -/
theorem mapM_congr {step other : α → Recorded β} {items : List α}
    (same : ∀ item ∈ items, step item = other item) : items.mapM step = items.mapM other := by
  induction items with
  | nil => rfl
  | cons item rest ih =>
      rw [List.forall_mem_cons] at same
      rw [List.mapM_cons, List.mapM_cons, same.1, ih same.2]

/-- A step without result has no part in the results of all steps. -/
theorem outcome_mapM_insert_none {step : α → Recorded (Option β)} {item : α}
    (silent : (step item).outcome = .ok none) (before after : List α) :
    ((before ++ item :: after).mapM step).outcome.map (List.filterMap id)
      = ((before ++ after).mapM step).outcome.map (List.filterMap id) := by
  rw [List.mapM_append, List.mapM_append, List.mapM_cons]
  simp only [outcome_bind, outcome_pure, silent]
  cases (before.mapM step).outcome with
  | error fault => rfl
  | ok first =>
      cases (after.mapM step).outcome with
      | error fault => rfl
      | ok second =>
          show Except.ok ((first ++ none :: second).filterMap id)
            = Except.ok ((first ++ second).filterMap id)
          rw [List.filterMap_append, List.filterMap_append]
          rfl

/-! ### Records -/

theorem events_bind_of_ok {step : Recorded α} {next : α → Recorded β} {value : α}
    (done : step.outcome = .ok value) :
    (step >>= next).events = step.events ++ (next value).events := by
  rw [events_bind, done]

/-- **Steps that succeed are recorded one behind the other.** -/
theorem events_mapM_of_ok {step : α → Recorded β} {items : List α} {results : List β}
    (done : (items.mapM step).outcome = .ok results) :
    (items.mapM step).events = items.flatMap fun item => (step item).events := by
  induction items generalizing results with
  | nil => rw [List.mapM_nil, events_pure, List.flatMap_nil]
  | cons item rest ih =>
      rw [List.mapM_cons] at done ⊢
      obtain ⟨first, headDone, restDone⟩ := outcome_bind_eq_ok_iff.mp done
      obtain ⟨later, tailDone, -⟩ := outcome_bind_eq_ok_iff.mp restDone
      rw [events_bind_of_ok headDone, events_bind_of_ok tailDone, ih tailDone, events_pure,
        List.append_nil, List.flatMap_cons]

/-- The number of events of a kind. -/
def count (kind : Event → Bool) (step : Recorded α) : Nat :=
  step.events.countP kind

section Count

variable {kind : Event → Bool}

@[simp] theorem count_pure (value : α) : (pure value : Recorded α).count kind = 0 := rfl

@[simp] theorem count_done (value : α) : (done value : Recorded α).count kind = 0 := rfl

@[simp] theorem count_fail (fault : MappingFault) : (fail fault : Recorded α).count kind = 0 := rfl

@[simp] theorem count_ofExcept (outcome : Except MappingFault α) :
    (ofExcept outcome).count kind = 0 := rfl

theorem count_report (event : Event) :
    (report event).count kind = if kind event then 1 else 0 := by
  simp [count, report]

theorem count_bind_of_ok {step : Recorded α} {next : α → Recorded β} {value : α}
    (done : step.outcome = .ok value) :
    (step >>= next).count kind = step.count kind + (next value).count kind := by
  unfold count
  rw [events_bind_of_ok done, List.countP_append]

/-- Two steps of which none reports a kind of events do not report it together. -/
theorem count_bind_eq_zero {step : Recorded α} {next : α → Recorded β}
    (first : step.count kind = 0) (second : ∀ value, (next value).count kind = 0) :
    (step >>= next).count kind = 0 := by
  cases outcome : step.outcome with
  | ok value => rw [count_bind_of_ok outcome, first, second]
  | error fault =>
      unfold count at first ⊢
      rw [events_bind, outcome]
      exact first

theorem count_mapM_eq_zero {step : α → Recorded β} (silent : ∀ item, (step item).count kind = 0)
    (items : List α) : (items.mapM step).count kind = 0 := by
  induction items with
  | nil => exact count_pure []
  | cons item rest ih =>
      rw [List.mapM_cons]
      exact count_bind_eq_zero (silent item) fun _ => count_bind_eq_zero ih fun _ => count_pure _

end Count

end InfoModel.Recorded
