/-
**Supertype hierarchies.**

A hierarchy is the directed graph from subtypes to supertypes that a list of declarations makes.
Types are numbered by their first appearance, a declared name before its supertypes; a type may be
declared several times and may name a supertype several times.

* `Hierarchy.direct` lists the supertypes declared for a type, in order and with repeats;
* `Hierarchy.ancestors` lists all types above a type, nearest first, each once: a breadth-first walk
  that takes a type's supertypes in the order of their declaration;
* `Hierarchy.root` is the first ancestor that has no supertypes of its own, or the type itself.
-/

namespace InfoModel

/-- The graph from subtypes to supertypes. -/
structure Hierarchy where
  /-- The types, in the order of their first appearance. -/
  names : List String := []
  /-- The pairs of a type and one of its direct supertypes, in the order of their declaration. -/
  edges : List (String × String) := []
deriving DecidableEq, Inhabited

namespace Hierarchy

/-- The names of a list that are not in another list, each once, in order. -/
def unseen (seen : List String) : List String → List String
  | [] => []
  | name :: rest =>
    if name ∈ seen then unseen seen rest else name :: unseen (name :: seen) rest

/-- The pairs of a declared type and its direct supertypes. -/
def edgesOf (declarations : List (String × List String)) : List (String × String) :=
  declarations.flatMap fun (name, supertypes) => supertypes.map fun supertype => (name, supertype)

/-- The hierarchy of a list of declarations. -/
def ofDeclarations (declarations : List (String × List String)) : Hierarchy where
  names := unseen [] (declarations.flatMap fun (name, supertypes) => name :: supertypes)
  edges := edgesOf declarations

/-- The direct supertypes of a type, as declared. -/
def direct (hierarchy : Hierarchy) (name : String) : List String :=
  (hierarchy.edges.filter fun edge => edge.1 == name).map (·.2)

/-- The types that name a type as direct supertype, as declared. -/
def subtypes (hierarchy : Hierarchy) (name : String) : List String :=
  (hierarchy.edges.filter fun edge => edge.2 == name).map (·.1)

/-- Extends the types seen by everything above the types of a queue. -/
def climb (hierarchy : Hierarchy) : Nat → List String → List String → List String
  | 0, _, seen => seen
  | _ + 1, [], seen => seen
  | fuel + 1, name :: queue, seen =>
    let fresh := unseen seen (hierarchy.direct name)
    climb hierarchy fuel (queue ++ fresh) (seen ++ fresh)

/-- The types above a type, nearest first, each once. Every type enters the queue at most once, so
there are no more steps than types. -/
def ancestors (hierarchy : Hierarchy) (name : String) : List String :=
  (hierarchy.climb (hierarchy.names.length + 1) [name] [name]).tail

/-- The type has a supertype. -/
def hasSupertypes (hierarchy : Hierarchy) (name : String) : Bool :=
  !(hierarchy.direct name).isEmpty

/-- The supertypes of a type: the direct ones as declared, or all of them nearest first. -/
def supertypes (hierarchy : Hierarchy) (name : String) (transitive : Bool) : List String :=
  if transitive then hierarchy.ancestors name else hierarchy.direct name

/-- The type derives from an ancestor. -/
def isSubtype (hierarchy : Hierarchy) (name ancestor : String) : Bool :=
  (hierarchy.ancestors name).contains ancestor

/-- The nearest topmost type above a type, which is the type itself if nothing is above it. -/
def root (hierarchy : Hierarchy) (name : String) : String :=
  ((hierarchy.ancestors name).find? fun ancestor => !hierarchy.hasSupertypes ancestor).getD name

end Hierarchy

end InfoModel
