/-
**Cardinality of a property.**

A property of the flat model occurs exactly once, at most once or any number of times.

* `Cardinality.ofOccurrence` takes the smallest of the three that an occurrence fits into, as far as
  the occurrence tells: several at once need `multi`, a minimum of zero needs `optional`;
* `Cardinality.ofOccurrence?` falls back to a default when no occurrence is declared.
-/

import InfoModel.Occurrence

namespace InfoModel

/-- How often a property occurs. -/
inductive Cardinality where
  /-- Exactly once. -/
  | required
  /-- At most once. -/
  | optional
  /-- Any number of times. -/
  | multi
deriving DecidableEq, Inhabited

namespace Cardinality

/-- The name of a cardinality in a model file. -/
def name : Cardinality → String
  | .required => "required"
  | .optional => "optional"
  | .multi => "multi"

/-- The cardinalities. -/
def all : List Cardinality := [.required, .optional, .multi]

/-- The cardinality of a name. -/
def ofName? (name : String) : Option Cardinality :=
  all.find? fun cardinality => cardinality.name == name

/-- The cardinality in occurrence notation. -/
def text : Cardinality → String
  | .required => "1"
  | .optional => "0..1"
  | .multi => "0..*"

/-- Exactly once. -/
def isRequired : Cardinality → Bool
  | .required => true
  | _ => false

/-- More than once is allowed. -/
def isMulti : Cardinality → Bool
  | .multi => true
  | _ => false

/-- The cardinality of a declared occurrence. -/
def ofOccurrence (occurrence : Occurrence) : Cardinality :=
  if occurrence.multi then .multi
  else if occurrence.min = 0 then .optional
  else .required

/-- The cardinality of an occurrence that may be left out. -/
def ofOccurrence? (occurrence : Option Occurrence) (default : Cardinality) : Cardinality :=
  match occurrence with
  | some occurrence => ofOccurrence occurrence
  | none => default

end Cardinality

end InfoModel
