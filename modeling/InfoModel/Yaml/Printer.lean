/-
**Writing YAML.**

A value as a block: members and items on lines of their own, two spaces per level. The items of a
list stand below the key of the list without being indented. Empty lists and tables are written as
`[]` and `{}`.

* `Json.toYaml` writes a value as a document.

A key that is too long for its line, or has several lines itself, stands behind a question mark, and
its value behind a colon on the next line.
-/

import InfoModel.Json.Printer
import InfoModel.Yaml.WrittenScalar

namespace InfoModel.Json

/-- The number as YAML. -/
def Number.yamlText : Number → String
  | .double bits =>
    if Double.isFinite bits then Double.text bits
    else if (Float.ofBits bits).isNaN then ".nan"
    else if Float.ofBits bits < 0.0 then "-.inf"
    else ".inf"
  | other => other.text

/-- A new line at an indentation. -/
def yamlLine (indent : Nat) : String :=
  "\n" ++ "".pushn ' ' indent

/-- What stands between the colon of a key and its value: a blank, or a new line for a block. -/
def yamlGap (indent : Nat) : Json → String
  | .array (_ :: _) => yamlLine indent
  | .object (_ :: _) => yamlLine (indent + 2)
  | _ => " "

/-- The indentation of a value behind a key at an indentation. Lists are not indented. -/
def yamlIndentBehindKey (indent : Nat) : Json → Nat
  | .object (_ :: _) => indent + 2
  | _ => indent

/-- The indentation of a value behind a sign of one character at an indentation. -/
def yamlIndentBehindSign (indent : Nat) : Json → Nat
  | .array (_ :: _) => indent + 2
  | .object (_ :: _) => indent + 2
  | _ => indent

mutual

/-- The value as a block that starts at an indentation. -/
def yamlBlock (indent : Nat) : Json → String
  | .null => "null"
  | .bool true => "true"
  | .bool false => "false"
  | .number value => value.yamlText
  | .string value => Yaml.WrittenScalar.text (indent + 2) value
  | .array items => if items.isEmpty then "[]" else yamlItems indent "" items
  | .object members => if members.isEmpty then "\x7b\x7d" else yamlMembers indent "" members
  | .unreadable => "null"

/-- The items of a list, each behind the text that separates it from the one before. -/
def yamlItems (indent : Nat) : String → List Json → String
  | _, [] => ""
  | separator, item :: rest =>
    separator ++ "- " ++ yamlBlock (yamlIndentBehindSign indent item) item ++
      yamlItems indent (yamlLine indent) rest

/-- The members of a table, each behind the text that separates it from the one before. -/
def yamlMembers (indent : Nat) : String → List (String × Json) → String
  | _, [] => ""
  | separator, (name, value) :: rest =>
    separator ++
      (if Yaml.WrittenScalar.isSimpleKey name then
        Yaml.WrittenScalar.text (indent + 2) name ++ ":" ++ yamlGap indent value ++
          yamlBlock (yamlIndentBehindKey indent value) value
      else
        "? " ++ Yaml.WrittenScalar.text (indent + 2) name ++ yamlLine indent ++ ": " ++
          yamlBlock (yamlIndentBehindSign indent value) value) ++
      yamlMembers indent (yamlLine indent) rest

end

/-- The value as a YAML document. -/
def toYaml (value : Json) : String :=
  yamlBlock 0 value ++ "\n"

end InfoModel.Json
