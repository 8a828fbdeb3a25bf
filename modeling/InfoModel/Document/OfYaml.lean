/-
**YAML nodes as documents.**

A YAML node says little about itself, so what is expected decides how it is read: any scalar is a
text, and a plain one is a truth value or number if it looks like one. Nothing written is an empty
list, table or record. A record is a mapping, never a list.

* Where a node has to be read before it is known what is expected, it is read as the plain data that
  its scalars stand for by themselves (`Yaml.Node.content?`);
* collections are entered one inside the other no deeper than `Yaml.nestingLimit`, so a document is
  a node with the number of collections that may still be entered (`Yaml.Descent`);
* `Yaml.decodeText` reads a text.
-/

import InfoModel.Document.Declarations
import InfoModel.Document.Settings
import InfoModel.Yaml.CoreSchema
import InfoModel.Yaml.Reader

namespace InfoModel.Yaml

/-- The tags of the kinds of scalars. -/
inductive CoreTag where
  | null
  | bool
  | integer
  | float
deriving DecidableEq

/-- The text of a tag. -/
def CoreTag.text : CoreTag → String
  | .null => "tag:yaml.org,2002:null"
  | .bool => "tag:yaml.org,2002:bool"
  | .integer => "tag:yaml.org,2002:int"
  | .float => "tag:yaml.org,2002:float"

/-- The kind of scalar that a tag asks for. -/
def CoreTag.ofText? (text : String) : Option CoreTag :=
  [CoreTag.null, .bool, .integer, .float].find? fun tag => tag.text == text

/-- The name of a tag that is no kind of scalar but a name of the document's own. -/
def localTag? (tag : Option String) : Option String :=
  match tag.map String.toList with
  | some ('!' :: name) => some (String.ofList name)
  | _ => none

namespace Node

/-- The text of a node. -/
def text? : Node → Except DecodeFault String
  | .scalar _ _ text => .ok text
  | _ => .error .malformed

/-- The characters of a scalar that may be looked at as a kind: a plain one, or a literal block with
the tag of the kind. -/
def literal? (kind : CoreTag) : Node → Option (List Char)
  | .scalar .plain _ text => some text.toList
  | .scalar .literal tag text => if tag == some kind.text then some text.toList else none
  | _ => none

/-- The truth value of a node. -/
def flag? (node : Node) : Except DecodeFault Bool :=
  match (node.literal? .bool).bind CoreSchema.bool? with
  | some value => .ok value
  | none => .error .malformed

/-- The number below `2 ^ 32` of a node. -/
def word? (node : Node) : Except DecodeFault UInt32 :=
  match (node.literal? .integer).bind CoreSchema.natural? with
  | some value => if value < UInt32.size then .ok (UInt32.ofNat value) else .error .malformed
  | none => .error .malformed

/-- Nothing is written. -/
def isUnwritten : Node → Bool
  | .scalar .plain _ text => text.isEmpty
  | _ => false

/-- The items of a list. -/
def items? (node : Node) : Except DecodeFault (List Node) :=
  match node with
  | .sequence _ items => .ok items
  | _ => if node.isUnwritten then .ok [] else .error .malformed

/-- The pairs up to the first whose key is no text, and whether there is such a one. -/
def namedPairs : List (Node × Node) → List (String × Node) × Bool
  | [] => ([], false)
  | (.scalar _ _ name, value) :: rest =>
    let (members, stopped) := namedPairs rest
    ((name, value) :: members, stopped)
  | _ :: _ => ([], true)

/-- The parts of a record. -/
def layout? (node : Node) : Except DecodeFault (Layout Node) :=
  match node with
  | .mapping _ pairs =>
    match namedPairs pairs with
    | (members, false) => .ok (.named members)
    | (members, true) => .ok (.cutShort members)
  | _ => if node.isUnwritten then .ok (.named []) else .error .malformed

/-- The entries of a table. -/
def entries? (node : Node) : Except DecodeFault (List (String × Node)) := do
  match ← node.layout? with
  | .named members => return members
  | _ => throw .malformed

/-- The name that a node picks: its text, or a tag of the document's own in front of nothing. -/
def picked? : Node → Except DecodeFault String
  | .scalar style tag text =>
    match localTag? tag with
    | none => .ok text
    | some name =>
      if style == .plain && (text.isEmpty || CoreSchema.isNull text.toList) then .ok name
      else .error .malformed
  | _ => .error .malformed

/-- The node says that an optional member is left out. -/
def isAbsent : Node → Bool
  | .scalar .plain none text => text.isEmpty || CoreSchema.isNull text.toList
  | .scalar .plain (some tag) text => tag == CoreTag.null.text && CoreSchema.isNull text.toList
  | _ => false

/-- The data that a plain scalar without tag stands for. -/
def plainContent? (text : String) : Except DecodeFault Json :=
  match CoreSchema.resolve text.toList with
  | .null => .ok .null
  | .bool value => .ok (.bool value)
  | .number value => .ok (.number value)
  | .wide => .error .malformed
  | .text => .ok (.string text)

/-- The data of a scalar of a kind. -/
def kindContent? (kind : CoreTag) (text : List Char) : Option Json :=
  match kind with
  | .null => if CoreSchema.isNull text then some .null else none
  | .bool => (CoreSchema.bool? text).map .bool
  | .integer =>
    match CoreSchema.integer? text with
    | some (.number value) => some (.number value)
    | _ => none
  | .float => (CoreSchema.float? text).map fun value => .number (.double value.toBits)

/-- The data of a scalar. -/
def scalarContent? (style : Style) (tag : Option String) (text : String) :
    Except DecodeFault Json :=
  match tag with
  | none => if style == .plain then plainContent? text else .ok (.string text)
  | some tag =>
    if (localTag? (some tag)).isSome then .error .malformed
    else
      match CoreTag.ofText? tag with
      | none => .ok (.string text)
      | some kind =>
        match kindContent? kind text.toList with
        | some value => .ok value
        | none => .error .malformed

/-- What a key says about its pair. -/
inductive KeyRole where
  /-- The pair is a member of this name. -/
  | member (name : String)
  /-- The pair is a member that no name asks for. -/
  | passedOver
  /-- The mapping is no record. -/
  | foreign

/-- What the data of a key says about its pair. -/
def KeyRole.ofContent : Json → KeyRole
  | .string name => .member name
  | .number (.natural _) => .passedOver
  | _ => .foreign

/-- The members that pairs of data make up, if no key stands against it. -/
def membersOf? : List (Json × Json) → Option (List (String × Json))
  | [] => some []
  | (key, value) :: rest =>
    match KeyRole.ofContent key, membersOf? rest with
    | .member name, some members => some ((name, value) :: members)
    | .passedOver, some members => some members
    | _, _ => none

mutual

/-- The node as the data that its scalars stand for by themselves, down to a depth. A mapping that
is no record may stand where nobody looks. -/
def content? : Nat → Node → Except DecodeFault Json
  | _, .scalar style tag text => scalarContent? style tag text
  | depth + 1, .sequence tag items => do
    let items ← contents? depth items
    if (localTag? tag).isSome then throw .malformed else return .array items
  | depth + 1, .mapping tag pairs => do
    let pairs ← pairContents? depth pairs
    if (localTag? tag).isSome then throw .malformed
    else
      match membersOf? pairs with
      | some members => return .object members
      | none => return .unreadable
  | _, _ => .error .malformed

/-- The data of the items. -/
def contents? (depth : Nat) : List Node → Except DecodeFault (List Json)
  | [] => .ok []
  | item :: rest => do
    let item ← content? depth item
    return item :: (← contents? depth rest)

/-- The data of the pairs. -/
def pairContents? (depth : Nat) : List (Node × Node) → Except DecodeFault (List (Json × Json))
  | [] => .ok []
  | (key, value) :: rest => do
    let key ← content? depth key
    let value ← content? depth value
    return (key, value) :: (← pairContents? depth rest)

end

/-- The node is a list or a mapping. -/
def isCollection : Node → Bool
  | .sequence .. | .mapping .. => true
  | _ => false

end Node

/-- How many collections are entered, one inside the other. -/
def nestingLimit : Nat := 128

/-- A node on the way down a document. -/
structure Descent where
  /-- The number of collections that may be entered from here on, one inside the other. -/
  depth : Nat
  node : Node

namespace Descent

/-- What is below a node, if it may be entered. -/
def below {α : Type} (place : Descent) (look : Node → Except DecodeFault α) :
    Except DecodeFault (Nat × α) :=
  if place.node.isCollection && place.depth == 0 then .error .malformed
  else (look place.node).map (place.depth - 1, ·)

/-- The items of a list. -/
def items? (place : Descent) : Except DecodeFault (List Descent) := do
  let (depth, items) ← place.below Node.items?
  return items.map (mk depth)

/-- The members, a step further down. -/
def members (depth : Nat) (members : List (String × Node)) : List (String × Descent) :=
  members.map fun (name, value) => (name, ⟨depth, value⟩)

/-- The entries of a table. -/
def entries? (place : Descent) : Except DecodeFault (List (String × Descent)) := do
  let (depth, entries) ← place.below Node.entries?
  return members depth entries

/-- The parts of a record. -/
def layout? (place : Descent) : Except DecodeFault (Layout Descent) := do
  let (depth, layout) ← place.below Node.layout?
  match layout with
  | .named parts => return .named (members depth parts)
  | .positional items => return .positional (items.map (mk depth))
  | .cutShort parts => return .cutShort (members depth parts)

instance : Document Descent where
  text place := place.node.text?
  flag place := place.node.flag?
  word place := place.node.word?
  items := items?
  entries := entries?
  layout := layout?
  picked place := place.node.picked?
  isAbsent place := place.node.isAbsent
  content place := place.node.content? place.depth

end Descent

/-- What the document of a text holds, if the text is sound. A fault in the document counts before
one of the text. -/
def decodeText {α : Type} (decode : Descent → Except DecodeFault α) (text : String) :
    Except DecodeFault α := do
  let reading := read text
  let value ← decode ⟨nestingLimit, reading.root⟩
  if reading.sound then return value else throw .malformed

end InfoModel.Yaml

namespace InfoModel

/-- Reads an information model from a YAML text. -/
def InformationModel.ofYamlText (text : String) : Except DecodeFault InformationModel :=
  Yaml.decodeText InformationModel.decode text

/-- Reads settings from a YAML text. -/
def Settings.ofYamlText (text : String) : Except DecodeFault Settings :=
  Yaml.decodeText Settings.decode text

end InfoModel
