/-
**JSON values as documents.**

A JSON value says exactly what it is: a text is no number and a number with a fraction is no
integer. A record may be an object or an array. `null` marks an optional member as absent and fits
nothing else.

* A value whose text breaks off is a document too (`Json.Fragment`): what stands in front of the
  break is looked at first, so that its faults are the ones reported;
* a value that was read before it was known what is expected is one as well (`Json.Held`);
* `Json.decodeText` reads a text.
-/

import InfoModel.Document.Fields
import InfoModel.Json.Reader

namespace InfoModel

namespace Json

/-- The text that a value is. -/
def text? : Json → Except DecodeFault String
  | .string value => .ok value
  | _ => .error .malformed

/-- The truth value that a value is. -/
def flag? : Json → Except DecodeFault Bool
  | .bool value => .ok value
  | _ => .error .malformed

/-- The number below `2 ^ 32` that a value is. -/
def word? : Json → Except DecodeFault UInt32
  | .number (.natural value) =>
    if value.toNat < UInt32.size then .ok value.toUInt32 else .error .malformed
  | _ => .error .malformed

/-- The items of an array. -/
def items? : Json → Except DecodeFault (List Json)
  | .array items => .ok items
  | _ => .error .malformed

/-- The members of an object. -/
def members? : Json → Except DecodeFault (List (String × Json))
  | .object members => .ok members
  | _ => .error .malformed

/-- The parts of an object or an array. -/
def layout? : Json → Except DecodeFault (Layout Json)
  | .object members => .ok (.named members)
  | .array items => .ok (.positional items)
  | _ => .error .malformed

/-- The name that a value picks: a text, or the name of a single member that holds nothing. -/
def picked? : Json → Except DecodeFault String
  | .string name => .ok name
  | .object [(name, .null)] => .ok name
  | _ => .error .malformed

/-- The value is `null`. -/
def isNull : Json → Bool
  | .null => true
  | _ => false

/-- The value if all its leaves are readable. -/
def content? (value : Json) : Except DecodeFault Json :=
  if value.isReadable then .ok value else .error .malformed

instance : Document Json where
  text := text?
  flag := flag?
  word := word?
  items := items?
  entries := members?
  layout := layout?
  picked := picked?
  isAbsent := isNull
  content := content?

/-- A value that was read before it was known what is expected. It is looked at a little more freely
than one that is read on the way: a name may be picked by a member that holds an empty object, and a
tag may be the number of its name. -/
structure Held where
  value : Json

namespace Held

/-- The name that a value picks: a text, or the name of a single member that holds nothing. -/
def picked? (held : Held) : Except DecodeFault String :=
  match held.value with
  | .object [(name, .object [])] => .ok name
  | value => Json.picked? value

/-- The parts of a record of held values. -/
def ofLayout : Layout Json → Layout Held
  | .named members => .named (members.map fun (name, value) => (name, ⟨value⟩))
  | .positional items => .positional (items.map Held.mk)
  | .cutShort members => .cutShort (members.map fun (name, value) => (name, ⟨value⟩))

instance : Document Held where
  text held := text? held.value
  flag held := flag? held.value
  word held := word? held.value
  items held := (items? held.value).map (List.map Held.mk)
  entries held := (members? held.value).map (List.map fun (name, value) => (name, ⟨value⟩))
  layout held := (layout? held.value).map ofLayout
  picked := picked?
  isAbsent held := held.value.isNull
  content held := .ok held.value
  tagged numbered tag held := Json.tagged numbered tag held.value

end Held

namespace Fragment

/-- Looks at a fragment that is a value as at the value; any other fragment is malformed. -/
def ofWhole {α : Type} (look : Json → Except DecodeFault α) : Fragment → Except DecodeFault α
  | .whole value => look value
  | _ => .error .malformed

/-- The items of an array as far as they were read. -/
def items? : Fragment → Except DecodeFault (List Fragment)
  | .whole (.array items) => .ok (items.map .whole)
  | .array items => .ok (items ++ [.missing])
  | _ => .error .malformed

/-- The members of an object as far as they were read. -/
def members? : Fragment → Except DecodeFault (List (String × Fragment))
  | .whole (.object members) => .ok (members.map fun (name, value) => (name, .whole value))
  | .object members => .ok members
  | _ => .error .malformed

/-- The parts of a record as far as they were read. -/
def layout? : Fragment → Except DecodeFault (Layout Fragment)
  | .whole (.object members) => .ok (.named (members.map fun (name, value) => (name, .whole value)))
  | .whole (.array items) => .ok (.positional (items.map .whole))
  | .object members => .ok (.named members)
  | .array items => .ok (.positional (items ++ [.missing]))
  | _ => .error .malformed

instance : Document Fragment where
  text := ofWhole text?
  flag := ofWhole flag?
  word := ofWhole word?
  items := items?
  entries := members?
  layout := layout?
  picked := ofWhole picked?
  isAbsent fragment :=
    match fragment with
    | .whole value => value.isNull
    | _ => false
  content := ofWhole content?

end Fragment

/-- What a text holds: a value of the text, or else the first fault in front of its break. -/
def decodeText {α : Type} (whole : Json → Except DecodeFault α)
    (part : Fragment → Except DecodeFault α) (text : String) : Except DecodeFault α :=
  match read text with
  | .ok value => whole value
  | .error fragment =>
    match part fragment with
    | .ok _ => .error .malformed
    | .error fault => .error fault

end Json

end InfoModel
