/-
**TOML values as documents.**

A TOML value says what it is, and nothing of it is ever absent. A record is a table, in any of the
ways to write one.

* `Toml.decodeText` reads a text.
-/

import InfoModel.Document.Settings
import InfoModel.Toml.Reader

namespace InfoModel.Toml

namespace Value

/-- The text that a value is. -/
def text? : Value → Except DecodeFault String
  | .string value => .ok value
  | _ => .error .malformed

/-- The truth value that a value is. -/
def flag? : Value → Except DecodeFault Bool
  | .boolean value => .ok value
  | _ => .error .malformed

/-- The number below `2 ^ 32` that a value is. -/
def word? : Value → Except DecodeFault UInt32
  | .integer value =>
    if 0 ≤ value && value < UInt32.size then .ok (UInt32.ofNat value.toNat) else .error .malformed
  | _ => .error .malformed

/-- The items of an array. -/
def items? : Value → Except DecodeFault (List Value)
  | .array items => .ok items
  | .tables items => .ok items
  | _ => .error .malformed

/-- The entries of a table. -/
def entries? : Value → Except DecodeFault Entries
  | .table _ entries => .ok entries
  | _ => .error .malformed

/-- The parts of a table or an array. -/
def layout? : Value → Except DecodeFault (Layout Value)
  | .table _ entries => .ok (.named entries)
  | .array items => .ok (.positional items)
  | .tables items => .ok (.positional items)
  | _ => .error .malformed

/-- Nothing is in the value. -/
def isEmpty : Value → Bool
  | .array items => items.isEmpty
  | .tables items => items.isEmpty
  | .table _ entries => entries.isEmpty
  | _ => false

/-- The name that a value picks: a text, or the name of a single entry that holds nothing. -/
def picked? : Value → Except DecodeFault String
  | .string name => .ok name
  | .table _ [(name, value)] => if value.isEmpty then .ok name else .error .malformed
  | _ => .error .malformed

mutual

/-- The value as plain data, if it holds no dates and times. -/
def content? : Value → Except DecodeFault Json
  | .string value => .ok (.string value)
  | .integer value =>
    .ok (.number (if value < 0 then .negative (UInt64.ofNat value.natAbs)
      else .natural (UInt64.ofNat value.toNat)))
  | .float bits => .ok (.number (.double bits))
  | .boolean value => .ok (.bool value)
  | .moment _ => .error .malformed
  | .array items => do return .array (← contents? items)
  | .tables items => do return .array (← contents? items)
  | .table _ entries => do return .object (← entryContents? entries)

/-- The items as plain data. -/
def contents? : List Value → Except DecodeFault (List Json)
  | [] => .ok []
  | item :: rest => do
    let item ← content? item
    return item :: (← contents? rest)

/-- The entries as plain data. -/
def entryContents? : List (String × Value) → Except DecodeFault (List (String × Json))
  | [] => .ok []
  | (name, value) :: rest => do
    let value ← content? value
    return (name, value) :: (← entryContents? rest)

end

instance : Document Value where
  text := text?
  flag := flag?
  word := word?
  items := items?
  entries := entries?
  layout := layout?
  picked := picked?
  isAbsent _ := false
  content := content?

end Value

/-- What the document of a text holds. -/
def decodeText {α : Type} (decode : Value → Except DecodeFault α) (text : String) :
    Except DecodeFault α :=
  match read text with
  | some value => decode value
  | none => .error .malformed

end InfoModel.Toml

namespace InfoModel

/-- Reads settings from a TOML text. -/
def Settings.ofTomlText (text : String) : Except DecodeFault Settings :=
  Toml.decodeText Settings.decode text

end InfoModel
