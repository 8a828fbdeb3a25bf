/-
**TOML values.**

What a TOML document is made of. A table remembers how it came to be, because that decides what may
still be added to it.

* `Value.find?` looks a name up, `Value.put` sets one;
* `Value.alter?` changes the table at the end of a path. Tables on the way are made where there are
  none; of an array of tables the last one counts.
-/

namespace InfoModel.Toml

/-- How a table came to be. -/
inductive Origin where
  /-- It has a header of its own, or is the document. -/
  | header
  /-- The header of another table goes through it. -/
  | passage
  /-- A key with dots goes through it. -/
  | dotted
  /-- It is written in braces. -/
  | inline
deriving DecidableEq

/-- A table that nobody has written out itself. -/
def Origin.isImplicit (origin : Origin) : Bool :=
  origin == .passage || origin == .dotted

/-- A TOML value. -/
inductive Value where
  | string (value : String)
  | integer (value : Int)
  /-- A float by the bits of its double. -/
  | float (bits : UInt64)
  | boolean (value : Bool)
  /-- A date, a time or both, as written. -/
  | moment (written : String)
  | array (items : List Value)
  | table (origin : Origin) (entries : List (String × Value))
  /-- The tables of one header in double brackets. -/
  | tables (items : List Value)

/-- The entries of a table, by name. -/
abbrev Entries := List (String × Value)

instance : Inhabited Value := ⟨.boolean false⟩

/-- The value of a name. -/
def Entries.find? (entries : Entries) (name : String) : Option Value :=
  (List.find? (fun entry => entry.1 == name) entries).map (·.2)

/-- Sets the value of a name, over an earlier one in its place. -/
def Entries.put (name : String) (value : Value) : Entries → Entries
  | [] => [(name, value)]
  | entry :: rest =>
    if entry.1 == name then (name, value) :: rest else entry :: Entries.put name value rest

/-- A change of a table: of how it came to be and its entries. -/
abbrev Change := Origin → Entries → Option (Origin × Entries)

/-- Changes the last of several tables. -/
def alterLast? (change : Change) : List Value → Option (List Value)
  | [] => none
  | [.table origin entries] =>
    (change origin entries).map fun (origin, entries) => [.table origin entries]
  | [_] => none
  | first :: rest => (alterLast? change rest).map (first :: ·)

/-- Changes the table that stands for a name, or a new one of the given origin. Keys with dots may
not go through a table that is written out, and nothing goes through other values. -/
def alterChild? (fresh : Origin) (change : Change) (child : Option Value) : Option Value :=
  match child with
  | none => (change fresh []).map fun (origin, entries) => .table origin entries
  | some (.table origin entries) =>
    if origin == .inline || (fresh == .dotted && !origin.isImplicit) then none
    else (change origin entries).map fun (origin, entries) => .table origin entries
  | some (.tables items) => (alterLast? change items).map .tables
  | some _ => none

/-- Changes the table at the end of a path from a table. -/
def alterAt (fresh : Origin) (change : Change) : List String → Change
  | [] => change
  | name :: path => fun origin entries =>
    (alterChild? fresh (alterAt fresh change path) (entries.find? name)).map fun child =>
      (origin, entries.put name child)

/-- Adds an entry of a name that is new to its table. Behind a key with dots the table has to come
from such a key, and without one it may not. -/
def addEntry (isDotted : Bool) (name : String) (value : Value) : Change := fun origin entries =>
  if (origin == .dotted) != isDotted || (entries.find? name).isSome then none
  else some (origin, entries.put name value)

/-- Adds an entry for a key, whose last name is the entry's. -/
def addAt (path : List String) (name : String) (value : Value) : Change :=
  alterAt .dotted (addEntry (!path.isEmpty) name value) path

/-- Opens the table of a header: a new one, or one that only headers of other tables went through.
-/
def openTable (name : String) : Change := fun origin entries =>
  match entries.find? name with
  | none => some (origin, entries.put name (.table .header []))
  | some (.table .passage inner) => some (origin, entries.put name (.table .header inner))
  | some _ => none

/-- Opens the next table of a header in double brackets. -/
def openNext (name : String) : Change := fun origin entries =>
  match entries.find? name with
  | none => some (origin, entries.put name (.tables [.table .header []]))
  | some (.tables items) =>
    some (origin, entries.put name (.tables (items ++ [.table .header []])))
  | some _ => none

end InfoModel.Toml
