/-
**Tables keyed by name.**

A table lists its entries in increasing order of their names (code point order), each name once.
The order is part of the type, so two tables with the same entries are equal.

* `NameMap.insert` adds an entry or replaces the one of that name;
* `NameMap.ofDistinct` builds a table from named items, or reports the first item whose name was
  already there before it.
-/

namespace InfoModel

/-- Entries in strictly increasing order of their names. -/
structure NameMap (α : Type) where
  /-- The entries, in order. -/
  entries : List (String × α)
  /-- The names increase. -/
  sorted : entries.Pairwise fun first second => first.1 < second.1 := by exact List.Pairwise.nil
deriving DecidableEq

namespace NameMap

variable {α β : Type}

/-- The table without entries. -/
def empty : NameMap α := ⟨[], List.Pairwise.nil⟩

instance : Inhabited (NameMap α) := ⟨empty⟩

/-- The value of a name in a list of entries. -/
def lookup (name : String) : List (String × α) → Option α
  | [] => none
  | (key, value) :: rest => if key = name then some value else lookup name rest

/-- Puts an entry at its place in a sorted list, over an entry of the same name. -/
def place (name : String) (value : α) : List (String × α) → List (String × α)
  | [] => [(name, value)]
  | entry :: rest =>
    if name < entry.1 then (name, value) :: entry :: rest
    else if entry.1 < name then entry :: place name value rest
    else (name, value) :: rest

/-- Placing an entry adds no name but its own. -/
theorem mem_place {name : String} {value : α} {entries : List (String × α)} {entry : String × α}
    (member : entry ∈ place name value entries) : entry = (name, value) ∨ entry ∈ entries := by
  induction entries with
  | nil => simpa [place] using member
  | cons head rest ih =>
    simp only [place] at member
    split at member
    · simpa using member
    · split at member
      · rcases List.mem_cons.mp member with rfl | later
        · exact .inr List.mem_cons_self
        · exact (ih later).imp id (List.mem_cons_of_mem _)
      · rcases List.mem_cons.mp member with rfl | later
        · exact .inl rfl
        · exact .inr (List.mem_cons_of_mem _ later)

/-- Two names that are not ordered either way are equal. -/
theorem name_eq_of_not_lt {first second : String} (left : ¬ first < second)
    (right : ¬ second < first) : first = second :=
  String.le_antisymm right left

/-- Placing an entry keeps the order. -/
theorem sorted_place {name : String} {value : α} {entries : List (String × α)}
    (sorted : entries.Pairwise fun first second => first.1 < second.1) :
    (place name value entries).Pairwise fun first second => first.1 < second.1 := by
  induction entries with
  | nil => simp [place]
  | cons head rest ih =>
    have ⟨above, sortedRest⟩ := List.pairwise_cons.mp sorted
    simp only [place]
    split
    · rename_i below
      refine List.pairwise_cons.mpr ⟨?_, sorted⟩
      intro entry member
      rcases List.mem_cons.mp member with rfl | later
      · exact below
      · exact String.lt_trans below (above entry later)
    · split
      · rename_i headBelow
        refine List.pairwise_cons.mpr ⟨?_, ih sortedRest⟩
        intro entry member
        rcases mem_place member with rfl | old
        · exact headBelow
        · exact above entry old
      · rename_i notBelow notAbove
        have same : head.1 = name := name_eq_of_not_lt notAbove notBelow
        refine List.pairwise_cons.mpr ⟨?_, sortedRest⟩
        intro entry member
        exact same ▸ above entry member

/-- The value of a name. -/
def get? (table : NameMap α) (name : String) : Option α :=
  lookup name table.entries

/-- A name has an entry. -/
def contains (table : NameMap α) (name : String) : Bool :=
  (table.get? name).isSome

/-- Adds an entry, over the entry of that name if there is one. -/
def insert (table : NameMap α) (name : String) (value : α) : NameMap α :=
  ⟨place name value table.entries, sorted_place table.sorted⟩

/-- The names, in order. -/
def keys (table : NameMap α) : List String :=
  table.entries.map (·.1)

/-- The values, in the order of their names. -/
def values (table : NameMap α) : List α :=
  table.entries.map (·.2)

/-- The number of entries. -/
def size (table : NameMap α) : Nat :=
  table.entries.length

/-- A table without entries. -/
def isEmpty (table : NameMap α) : Bool :=
  table.entries.isEmpty

/-- The table of a list of entries; of two entries of one name the later counts. -/
def ofList (entries : List (String × α)) : NameMap α :=
  entries.foldl (fun table entry => table.insert entry.1 entry.2) empty

/-- Adds items under their names; stops at the first one whose name has an entry already. -/
def addDistinct (nameOf : α → String) : NameMap α → List α → Except String (NameMap α)
  | table, [] => .ok table
  | table, item :: rest =>
    if table.contains (nameOf item) then .error (nameOf item)
    else addDistinct nameOf (table.insert (nameOf item) item) rest

/-- The table of items with distinct names; otherwise the first name that came before. -/
def ofDistinct (nameOf : α → String) (items : List α) : Except String (NameMap α) :=
  addDistinct nameOf empty items

end NameMap

end InfoModel
