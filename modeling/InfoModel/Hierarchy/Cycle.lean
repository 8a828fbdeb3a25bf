/-
**Cycles of a hierarchy.**

A hierarchy has to be free of cycles. The search names a type on a cycle if there is one.

* `Hierarchy.finishOrder` walks the graph depth first, in the order of the types, and lists the
  types by the time they are left, last one first. It stops at a type that is its own direct
  supertype;
* `Hierarchy.culprit?` goes through that list and names the first type found below one of the types
  passed that was not passed itself: in a graph without cycles every subtype stands in front of its
  supertypes;
* `Hierarchy.build` accepts the hierarchies without culprit.
-/

import InfoModel.Hierarchy.Basic

namespace InfoModel.Hierarchy

/-- The progress of a depth-first walk. -/
structure Walk where
  /-- The types entered. -/
  entered : List String := []
  /-- The types left, last one first. -/
  finished : List String := []

/-- Walks everything above a type that was not entered before; stops with a type that is its own
direct supertype. The fuel bounds the depth. -/
def enter (hierarchy : Hierarchy) : Nat → Walk → String → Except String Walk
  | 0, walk, _ => .ok walk
  | fuel + 1, walk, name =>
    if name ∈ walk.entered then .ok walk
    else
      let supertypes := hierarchy.direct name
      if name ∈ supertypes then .error name
      else
        match supertypes.foldlM (hierarchy.enter fuel)
            { walk with entered := name :: walk.entered } with
        | .ok walk => .ok { walk with finished := name :: walk.finished }
        | .error culprit => .error culprit

/-- The types in the order in which the walk leaves them, last one first. -/
def finishOrder (hierarchy : Hierarchy) : Except String (List String) :=
  match hierarchy.names.foldlM (hierarchy.enter (hierarchy.names.length + 1)) {} with
  | .ok walk => .ok walk.finished
  | .error culprit => .error culprit

/-- The first type that stands below a type of the list but neither in front of it nor among the
types passed. -/
def misplaced? (hierarchy : Hierarchy) : List String → List String → Option String
  | _, [] => none
  | passed, name :: rest =>
    match (hierarchy.subtypes name).find? fun subtype => subtype ∉ name :: passed with
    | some subtype => some subtype
    | none => hierarchy.misplaced? (name :: passed) rest

/-- A type on a cycle, if there is one. -/
def culprit? (hierarchy : Hierarchy) : Option String :=
  match hierarchy.finishOrder with
  | .error culprit => some culprit
  | .ok order => hierarchy.misplaced? [] order

/-- The hierarchy of declarations without a cycle; otherwise the culprit. -/
def build (declarations : List (String × List String)) : Except String Hierarchy :=
  let hierarchy := ofDeclarations declarations
  match hierarchy.culprit? with
  | some culprit => .error culprit
  | none => .ok hierarchy

end InfoModel.Hierarchy
