/-
**JSON values.**

The data that a JSON text stands for. An object keeps its members in the order of the text and may
repeat a name, because what a repeated or misplaced member means is for the reader of the value to
decide. A number is a word of 64 bits with or without a sign, or a double given by its bits.

* `Json.unreadable` is a leaf that is well written but stands for no value: a number beyond the
  doubles, a text with half of a surrogate pair, or what is nested too deep. It may stand where
  nobody looks;
* `Json.isReadable` says that a value holds no such leaf;
* `Json.upTo` is the value with such leaves in place of what is nested deeper than a limit;
* `Json.normal` is the value with the members of every object in the order of their names, the last
  of a repeated name kept.
-/

import InfoModel.NameMap

namespace InfoModel

/-- A number of a JSON text. -/
inductive Json.Number where
  /-- A number without sign, fraction and exponent. -/
  | natural (value : UInt64)
  /-- Minus the given magnitude, which is not zero. -/
  | negative (magnitude : UInt64)
  /-- Any other number: the nearest double, by its bits. -/
  | double (bits : UInt64)
deriving DecidableEq

/-- A JSON value. -/
inductive Json where
  | null
  | bool (value : Bool)
  | number (value : Json.Number)
  | string (value : String)
  | array (items : List Json)
  | object (members : List (String × Json))
  /-- A leaf that stands for no value. -/
  | unreadable

namespace Json

instance : Inhabited Json := ⟨.null⟩

/-- A count as a JSON number. -/
def ofWord (value : UInt32) : Json :=
  .number (.natural value.toUInt64)

/-- A list of texts as a JSON array. -/
def ofTexts (texts : List String) : Json :=
  .array (texts.map .string)

mutual

/-- Every leaf stands for a value. -/
def isReadable : Json → Bool
  | .unreadable => false
  | .array items => allReadable items
  | .object members => allMembersReadable members
  | _ => true

/-- Every leaf of the items stands for a value. -/
def allReadable : List Json → Bool
  | [] => true
  | item :: rest => item.isReadable && allReadable rest

/-- Every leaf of the members stands for a value. -/
def allMembersReadable : List (String × Json) → Bool
  | [] => true
  | (_, value) :: rest => value.isReadable && allMembersReadable rest

end

mutual

/-- The value down to a depth: deeper arrays and objects are not looked into. -/
def upTo : Nat → Json → Json
  | depth + 1, .array items => .array (itemsUpTo depth items)
  | depth + 1, .object members => .object (membersUpTo depth members)
  | 0, .array _ => .unreadable
  | 0, .object _ => .unreadable
  | _, value => value

/-- The items down to a depth. -/
def itemsUpTo (depth : Nat) : List Json → List Json
  | [] => []
  | item :: rest => item.upTo depth :: itemsUpTo depth rest

/-- The members with their values down to a depth. -/
def membersUpTo (depth : Nat) : List (String × Json) → List (String × Json)
  | [] => []
  | (name, value) :: rest => (name, value.upTo depth) :: membersUpTo depth rest

end

mutual

/-- The value with the members of every object in the order of their names; of members of one name
the last is kept. -/
def normal : Json → Json
  | .array items => .array (normalItems items)
  | .object members => .object (NameMap.ofList (normalMembers members)).entries
  | value => value

/-- The items in normal form. -/
def normalItems : List Json → List Json
  | [] => []
  | item :: rest => item.normal :: normalItems rest

/-- The members with their values in normal form. -/
def normalMembers : List (String × Json) → List (String × Json)
  | [] => []
  | (name, value) :: rest => (name, value.normal) :: normalMembers rest

end

/-- The value of a member, the first of that name. -/
def member? (name : String) : Json → Option Json
  | .object members => NameMap.lookup name members
  | _ => none

end Json

end InfoModel
