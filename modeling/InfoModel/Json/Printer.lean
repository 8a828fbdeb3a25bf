/-
**Writing JSON.**

A value as text, on one line without blanks or spread over lines with two blanks per level.

* `Json.compact` is the one-line form;
* `Json.pretty` is the form over several lines; empty arrays and objects stay on one line.

A text is quoted with the short escapes for quote, backslash, backspace, tab, line feed, form feed
and carriage return; other control characters below U+0020 are written as `\u00xx`, everything else
as it is.
-/

import InfoModel.Json.Basic
import InfoModel.Json.Double

namespace InfoModel.Json

/-- One hexadecimal digit in lower case. -/
def hexDigit (value : Nat) : Char :=
  if value < 10 then Char.ofNat (value + 48) else Char.ofNat (value + 87)

/-- The written form of one character inside quotes. -/
def escaped (char : Char) : List Char :=
  if char = '"' then ['\\', '"']
  else if char = '\\' then ['\\', '\\']
  else if char = '\n' then ['\\', 'n']
  else if char = '\r' then ['\\', 'r']
  else if char = '\t' then ['\\', 't']
  else if char.toNat = 8 then ['\\', 'b']
  else if char.toNat = 12 then ['\\', 'f']
  else if char.toNat < 32 then
    ['\\', 'u', '0', '0', hexDigit (char.toNat / 16), hexDigit (char.toNat % 16)]
  else [char]

/-- A text in quotes. -/
def quoted (text : String) : String :=
  String.ofList ('"' :: text.toList.flatMap escaped ++ ['"'])

/-- The text of a number. -/
def Number.text : Number → String
  | .natural value => toString value.toNat
  | .negative magnitude => "-" ++ toString magnitude.toNat
  | .double bits => if Double.isFinite bits then Double.text bits else "null"

mutual

/-- The value on one line, without blanks. -/
def compact : Json → String
  | .null => "null"
  | .bool true => "true"
  | .bool false => "false"
  | .number value => value.text
  | .string value => quoted value
  | .array items => "[" ++ compactItems "" items ++ "]"
  | .object members => "\x7b" ++ compactMembers "" members ++ "\x7d"
  | .unreadable => "null"

/-- The items, each after a separator that the first one lacks. -/
def compactItems : String → List Json → String
  | _, [] => ""
  | separator, item :: rest => separator ++ item.compact ++ compactItems "," rest

/-- The members, each after a separator that the first one lacks. -/
def compactMembers : String → List (String × Json) → String
  | _, [] => ""
  | separator, (name, value) :: rest =>
    separator ++ quoted name ++ ":" ++ value.compact ++ compactMembers "," rest

end

/-- A new line at the given level. -/
def newLine (level : Nat) : String :=
  "\n" ++ "".pushn ' ' (2 * level)

mutual

/-- The value over several lines, at a level. -/
def prettyAt (level : Nat) : Json → String
  | .array (item :: rest) =>
    "[" ++ prettyItems (level + 1) "" (item :: rest) ++ newLine level ++ "]"
  | .object (member :: rest) =>
    "\x7b" ++ prettyMembers (level + 1) "" (member :: rest) ++ newLine level ++ "\x7d"
  | value => value.compact

/-- The items on lines of their own. -/
def prettyItems (level : Nat) : String → List Json → String
  | _, [] => ""
  | separator, item :: rest =>
    separator ++ newLine level ++ item.prettyAt level ++ prettyItems level "," rest

/-- The members on lines of their own. -/
def prettyMembers (level : Nat) : String → List (String × Json) → String
  | _, [] => ""
  | separator, (name, value) :: rest =>
    separator ++ newLine level ++ quoted name ++ ": " ++ value.prettyAt level ++
      prettyMembers level "," rest

end

/-- The value over several lines. -/
def pretty (value : Json) : String :=
  value.prettyAt 0

end InfoModel.Json
