/-
**Formats of stored models.**

An information model is stored as JSON or YAML; the extension of a file says which.

* `SourceFormat.read?` reads the name of a format, in any case;
* `SourceFormat.ofPath?` takes the format from the extension of a path.
-/

import InfoModel.Files.Path

namespace InfoModel

/-- A format of stored models. -/
inductive SourceFormat where
  | json
  | yaml
deriving DecidableEq, Inhabited

namespace SourceFormat

/-- The name of a format. -/
def name : SourceFormat → String
  | .json => "json"
  | .yaml => "yaml"

/-- The names that a format goes by. -/
def names : List (String × SourceFormat) :=
  [("json", .json), ("yaml", .yaml), ("yml", .yaml)]

/-- The format of a name in any case. Only ASCII letters are folded: no other character has an ASCII
letter of a format's name as its lower case. -/
def read? (text : String) : Option SourceFormat :=
  (names.find? fun entry => entry.1.toList == text.toList.map Char.toLower).map (·.2)

/-- The format of a path by its extension, or the text that is no format: the extension, or the
whole path without one. -/
def ofPath? (path : String) : Except String SourceFormat :=
  match Path.extension? path with
  | none => .error path
  | some extension =>
    match read? extension with
    | some format => .ok format
    | none => .error extension

end SourceFormat

end InfoModel
