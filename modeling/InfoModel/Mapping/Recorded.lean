/-
**Recorded computations.**

The mapping of a model reports what it does as a list of events. A recorded computation is a result
or a fault together with the events up to there, so a failed mapping still has its record.

* `Recorded.outcome_bind` and `Recorded.events_bind` say that the record never decides the outcome:
  the outcome of two steps in a row is the outcome of the second on the first one's result.
-/

import InfoModel.MappingFault

namespace InfoModel

/-- Something that the mapping of a model reports. -/
inductive Event where
  /-- A datatype is declared again; its first declaration counts. -/
  | datatypeRepeated (name : String)
  /-- An object type is declared again; its first declaration counts. -/
  | objectTypeRepeated (name : String)
  /-- The names of a model have been collected. -/
  | indexed (datatypes objectTypes : Nat) (model : String)
  /-- A supertype of an object type is not declared. -/
  | supertypeUndeclared (supertype objectType : String)
  /-- A base type's name becomes the name of a value type. -/
  | passedThrough (base datatype : String)
  | packageStarted (name : String)
  | abstractSkipped (name : String)
  | objectTypeStarted (name : String)
  | datagroupTypeStarted (name : String)
  | structuredStarted (name : String)
  /-- An inherited member gives way to the one declared on a subtype. -/
  | shadowed (property declaring kept objectType : String)
  /-- A relation without target is left out. -/
  | relationWithoutTarget (relation owner : String)
  /-- A relation to something that is no object type is left out. -/
  | relationToUnknown (relation owner target : String)
  | modelMapped (model : String) (objectTypes : Nat)
deriving DecidableEq

/-- How much an event matters. -/
inductive Event.Level where
  | debug
  | info
  | warn
deriving DecidableEq

/-- The name of a level in a record. -/
def Event.Level.name : Event.Level → String
  | .debug => "DEBUG"
  | .info => "INFO"
  | .warn => "WARN"

/-- How much the event matters. -/
def Event.level : Event → Event.Level
  | .datatypeRepeated _ | .objectTypeRepeated _ | .supertypeUndeclared .. | .relationToUnknown .. =>
    .warn
  | .modelMapped .. => .info
  | _ => .debug

/-- The wording of an event. -/
def Event.message : Event → String
  | .datatypeRepeated name =>
    "Datatype '" ++ name ++ "' is declared more than once, keeping the first"
  | .objectTypeRepeated name =>
    "Object type '" ++ name ++ "' is declared more than once, keeping the first"
  | .indexed datatypes objectTypes model =>
    "Indexed " ++ toString datatypes ++ " datatypes and " ++ toString objectTypes ++
      " object types of model '" ++ model ++ "'"
  | .supertypeUndeclared supertype objectType =>
    "Supertype '" ++ supertype ++ "' of object type '" ++ objectType ++ "' is not declared"
  | .passedThrough base datatype =>
    "No scalar mapping for base '" ++ base ++ "' of datatype '" ++ datatype ++
      "', passing it through"
  | .packageStarted name => "Mapping package '" ++ name ++ "'"
  | .abstractSkipped name => "Skipping abstract object type '" ++ name ++ "'"
  | .objectTypeStarted name => "Mapping object type '" ++ name ++ "'"
  | .datagroupTypeStarted name => "Mapping datagroup type '" ++ name ++ "'"
  | .structuredStarted name => "Mapping structured datatype '" ++ name ++ "'"
  | .shadowed property declaring kept objectType =>
    "Property '" ++ property ++ "' inherited from '" ++ declaring ++ "' is shadowed by '" ++ kept ++
      "' in '" ++ objectType ++ "'"
  | .relationWithoutTarget relation owner =>
    "Dropping relation '" ++ relation ++ "' of '" ++ owner ++ "' without target"
  | .relationToUnknown relation owner target =>
    "Dropping relation '" ++ relation ++ "' of '" ++ owner ++ "': target '" ++ target ++
      "' is not an object type"
  | .modelMapped model objectTypes =>
    "Mapped model '" ++ model ++ "' to " ++ toString objectTypes ++ " object types"

/-- The line of an event in a record. -/
def Event.line (event : Event) : String :=
  event.level.name ++ ": " ++ event.message

/-- A result or a fault, with the events up to there. -/
structure Recorded (α : Type) where
  /-- What happened, in order. -/
  events : List Event
  /-- The result, or what went wrong. -/
  outcome : Except MappingFault α

namespace Recorded

variable {α β : Type}

/-- A result without events. -/
def done (value : α) : Recorded α := ⟨[], .ok value⟩

/-- A fault without events. -/
def fail (fault : MappingFault) : Recorded α := ⟨[], .error fault⟩

/-- An outcome without events. -/
def ofExcept (outcome : Except MappingFault α) : Recorded α := ⟨[], outcome⟩

/-- Reports an event. -/
def report (event : Event) : Recorded Unit := ⟨[event], .ok ()⟩

/-- Reports events in order. -/
def reportAll (events : List Event) : Recorded Unit := ⟨events, .ok ()⟩

/-- Goes on with the result of a step, after its events. -/
def andThen (step : Recorded α) (next : α → Recorded β) : Recorded β :=
  match step.outcome with
  | .ok value => ⟨step.events ++ (next value).events, (next value).outcome⟩
  | .error fault => ⟨step.events, .error fault⟩

instance : Monad Recorded where
  pure := done
  bind := andThen

@[simp] theorem outcome_pure (value : α) : (pure value : Recorded α).outcome = .ok value := rfl

@[simp] theorem events_pure (value : α) : (pure value : Recorded α).events = [] := rfl

@[simp] theorem outcome_report (event : Event) : (report event).outcome = .ok () := rfl

@[simp] theorem outcome_reportAll (events : List Event) : (reportAll events).outcome = .ok () := rfl

@[simp] theorem outcome_ofExcept (outcome : Except MappingFault α) :
    (ofExcept outcome).outcome = outcome := rfl

@[simp] theorem outcome_fail (fault : MappingFault) :
    (fail fault : Recorded α).outcome = .error fault := rfl

/-- The outcome of two steps is that of the second on the result of the first. -/
@[simp] theorem outcome_bind (step : Recorded α) (next : α → Recorded β) :
    (step >>= next).outcome = step.outcome >>= fun value => (next value).outcome := by
  show (andThen step next).outcome = _
  unfold andThen
  cases step.outcome <;> rfl

/-- The record of two steps is that of the first, and behind it that of the second if it runs. -/
theorem events_bind (step : Recorded α) (next : α → Recorded β) :
    (step >>= next).events =
      match step.outcome with
      | .ok value => step.events ++ (next value).events
      | .error _ => step.events := by
  show (andThen step next).events = _
  unfold andThen
  cases step.outcome <;> rfl

end Recorded

end InfoModel
