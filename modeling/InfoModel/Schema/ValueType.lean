/-
**Value types.**

The type of the values of an attribute: one of six scalar kinds, geometries with their spatial
reference, or a type that the host of the library adds.

* `ScalarKind.read?` finds a kind by its name, whatever the case of its ASCII letters;
* `ValueType.name` is the name under which a value type is asked for.
-/

import InfoModel.Json.Basic

namespace InfoModel

/-- The scalar kinds that every model knows. -/
inductive ScalarKind where
  | string
  | integer
  | float
  | double
  | boolean
  | geometry
deriving DecidableEq, Inhabited

namespace ScalarKind

/-- The kinds. -/
def all : List ScalarKind := [.string, .integer, .float, .double, .boolean, .geometry]

/-- The name of a kind. -/
def name : ScalarKind → String
  | .string => "String"
  | .integer => "Integer"
  | .float => "Float"
  | .double => "Double"
  | .boolean => "Boolean"
  | .geometry => "Geometry"

/-- The kind of exactly this name. -/
def ofName? (name : String) : Option ScalarKind :=
  all.find? fun kind => kind.name == name

/-- The kind of this name, in upper or lower case. -/
def read? (text : String) : Option ScalarKind :=
  all.find? fun kind => kind.name.toList.map Char.toLower == text.toList.map Char.toLower

/-- The report on a text that names no kind. -/
def unknownMessage (text : String) : String :=
  "Unknown scalar kind: " ++ text

end ScalarKind

/-- Options for the creation of a value type. -/
abbrev TypeOptions := NameMap Json

/-- The option that holds the spatial reference of a geometry. -/
def sridOption : String := "srid"

/-- The type of an attribute's values. -/
inductive ValueType where
  | string
  | integer
  | float
  | double
  | boolean
  /-- Geometries in the spatial reference system of this number. -/
  | geometry (srid : UInt32)
  /-- A type of the host, with the options it was created from. -/
  | custom (name : String) (options : TypeOptions)

namespace ValueType

instance : Inhabited ValueType := ⟨.string⟩

/-- The name of a value type. -/
def name : ValueType → String
  | .string => ScalarKind.string.name
  | .integer => ScalarKind.integer.name
  | .float => ScalarKind.float.name
  | .double => ScalarKind.double.name
  | .boolean => ScalarKind.boolean.name
  | .geometry _ => ScalarKind.geometry.name
  | .custom name _ => name

/-- The value type as a reader sees it: a geometry with its reference, any other by its name. -/
def text : ValueType → String
  | .geometry srid => "Geometry(srid=" ++ toString srid.toNat ++ ")"
  | valueType => valueType.name

end ValueType

end InfoModel
