/-
**Reading records from documents.**

Information models, settings and properties are stored as documents in several formats. A format is
a type of nodes with the few ways in which a node can be looked at (`Document`); what a record is
made of is said once, by its fields, for all formats.

* `Fields.ofLayout` reads a record from its members in any order, or from its items in the order of
  the fields. Members that no field asks for do not count; a member given twice is a fault;
* of several faults the one that stands first in the document is reported (`Fields.both`);
* `Fields.required`, `Fields.defaulted` and `Fields.optional` are the three kinds of fields.
-/

import InfoModel.Json.Basic
import InfoModel.Occurrence

namespace InfoModel

/-- Why a document is not what it should be. -/
inductive DecodeFault where
  /-- A text is no occurrence notation. -/
  | occurrence (fault : OccurrenceFault)
  /-- Anything else. -/
  | malformed
deriving DecidableEq

/-- The report on a fault: what is wrong with an occurrence notation, and nothing otherwise. -/
def DecodeFault.message : DecodeFault → String
  | .occurrence fault => fault.message
  | .malformed => ""

/-- The parts of a record. -/
inductive Layout (node : Type) where
  /-- The members with their names, in the order of the document. -/
  | named (members : List (String × node))
  /-- The members in the order of the fields. -/
  | positional (items : List node)
  /-- The members in front of something that is no member. -/
  | cutShort (members : List (String × node))

/-- The name that a tag gives: its text, or the name of its number if the names are numbered. -/
def Json.tagName? (numbered : List String) : Json → Option String
  | .string name => some name
  | .number (.natural index) => numbered[index.toNat]?
  | _ => none

/-- The tag of a record and its other parts: the only member of the tag's name, or the first item of
a list. -/
def Json.tagged (numbered : List String) (tag : String) (value : Json) :
    Except DecodeFault (String × Layout Json) :=
  let parts : Option (Json × Layout Json) := match value with
    | .object members =>
      match members.filter fun member => member.1 == tag with
      | [(_, name)] => some (name, .named (members.filter fun member => member.1 != tag))
      | _ => none
    | .array (name :: rest) => some (name, .positional rest)
    | _ => none
  match parts with
  | some (name, layout) =>
    match name.tagName? numbered with
    | some name => .ok (name, layout)
    | none => .error .malformed
  | none => .error .malformed

/-- The ways to look at a node of a document format. -/
class Document (node : Type) where
  /-- The text of a node. -/
  text : node → Except DecodeFault String
  /-- The truth value of a node. -/
  flag : node → Except DecodeFault Bool
  /-- The number of a node, below `2 ^ 32`. -/
  word : node → Except DecodeFault UInt32
  /-- The items of a list. -/
  items : node → Except DecodeFault (List node)
  /-- The entries of a table, in the order of the document. -/
  entries : node → Except DecodeFault (List (String × node))
  /-- The parts of a record. -/
  layout : node → Except DecodeFault (Layout node)
  /-- The name that a node picks from a fixed list of names. -/
  picked : node → Except DecodeFault String
  /-- The node says that an optional member is left out. -/
  isAbsent : node → Bool
  /-- The node as plain data, which has to be readable to its last leaf. -/
  content : node → Except DecodeFault Json
  /-- A record that says by a tag of the given name which of several records it is: what the tag
  says and the other parts. The names that it may say are given too. -/
  tagged : List String → String → node → Except DecodeFault (String × Layout Json) :=
    fun _ tag value => do Json.tagged [] tag (← content value)

/-- The list of what the items of a node hold. -/
def Document.listOf {node α : Type} [Document node] (decode : node → Except DecodeFault α)
    (value : node) : Except DecodeFault (List α) := do
  (← Document.items value).mapM decode

/-- The value that a node picks by its name. -/
def Document.pick {node α : Type} [Document node] (ofName? : String → Option α) (value : node) :
    Except DecodeFault α := do
  match ofName? (← Document.picked value) with
  | some result => return result
  | none => throw .malformed

/-- The fields of a record. A fault comes with the position of the member it lies in. -/
structure Fields (node α : Type) where
  /-- Reads the fields from members with names. -/
  named : List (String × node) → Except (Nat × DecodeFault) α
  /-- Reads the fields from the first items of a list and gives the other items. -/
  positional : List node → Except DecodeFault (α × List node)

namespace Fields

variable {node α β : Type}

/-- No field. -/
def none (value : α) : Fields node α where
  named _ := .ok value
  positional items := .ok (value, items)

/-- The outcome of two parts of one record: of two faults the one further in front. -/
def both (first : Except (Nat × DecodeFault) (α → β)) (second : Except (Nat × DecodeFault) α) :
    Except (Nat × DecodeFault) β :=
  match first, second with
  | .ok build, .ok value => .ok (build value)
  | .ok _, .error fault => .error fault
  | .error fault, .ok _ => .error fault
  | .error left, .error right => if right.1 < left.1 then .error right else .error left

/-- Fields, and behind them other fields. -/
def andAlso (first : Fields node (α → β)) (second : Fields node α) : Fields node β where
  named members := both (first.named members) (second.named members)
  positional items := do
    let (build, items) ← first.positional items
    let (value, items) ← second.positional items
    return (build value, items)

instance : Applicative (Fields node) where
  pure := none
  seq first second := andAlso first (second ())

/-- The members of a name, each with its position. -/
def found (key : String) (position : Nat) : List (String × node) → List (Nat × node)
  | [] => []
  | (name, value) :: rest =>
    if name = key then (position, value) :: found key (position + 1) rest
    else found key (position + 1) rest

/-- One field: its name, how to read it, and what stands for it if it is left out, by name or at
the end of a list. -/
def field (key : String) (decode : node → Except DecodeFault α) (unnamed unlisted : Option α) :
    Fields node α where
  named members :=
    match found key 0 members with
    | [] =>
      match unnamed with
      | some value => .ok value
      | Option.none => .error (members.length, .malformed)
    | (position, value) :: again =>
      match decode value, again with
      | .error fault, _ => .error (position, fault)
      | .ok value, [] => .ok value
      | .ok _, (later, _) :: _ => .error (later, .malformed)
  positional items :=
    match items with
    | [] =>
      match unlisted with
      | some value => .ok (value, [])
      | Option.none => .error .malformed
    | item :: rest =>
      match decode item with
      | .ok value => .ok (value, rest)
      | .error fault => .error fault

/-- A field that has to be there. -/
def required (key : String) (decode : node → Except DecodeFault α) : Fields node α :=
  field key decode Option.none Option.none

/-- A field with a value to take if it is left out. -/
def defaulted (key : String) (decode : node → Except DecodeFault α) (value : α) :
    Fields node α :=
  field key decode (some value) (some value)

/-- What an optional member holds. -/
def unlessAbsent [Document node] (decode : node → Except DecodeFault α) (value : node) :
    Except DecodeFault (Option α) :=
  if Document.isAbsent value then .ok Option.none else (decode value).map some

/-- A field that may be left out or be marked as absent, but keeps its place in a list. -/
def optional [Document node] (key : String) (decode : node → Except DecodeFault α) :
    Fields node (Option α) :=
  field key (unlessAbsent decode) (some Option.none) Option.none

/-- Reads a record from its parts. -/
def ofLayout (fields : Fields node α) : Layout node → Except DecodeFault α
  | .named members =>
    match fields.named members with
    | .ok value => .ok value
    | .error (_, fault) => .error fault
  | .positional items =>
    match fields.positional items with
    | .ok (value, []) => .ok value
    | .ok (_, _ :: _) => .error .malformed
    | .error fault => .error fault
  | .cutShort members =>
    match fields.named members with
    | .ok _ => .error .malformed
    | .error (_, fault) => .error fault

/-- Reads a record from a node. -/
def decode [Document node] (fields : Fields node α) (value : node) : Except DecodeFault α := do
  fields.ofLayout (← Document.layout value)

end Fields

end InfoModel
