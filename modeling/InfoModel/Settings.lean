/-
**Settings of a mapping.**

What the mapping of an information model depends on besides the model itself.

* `Settings.scalarKind?` is the kind that a base type name stands for;
* `UnmappedTypes.read?` reads a policy in any case, hyphens and underscores not counting.
-/

import InfoModel.Schema.ValueType

namespace InfoModel

/-- What to do with a base type that no scalar kind is given for. -/
inductive UnmappedTypes where
  /-- Stop the mapping. -/
  | fail
  /-- Take the base type's name as the name of the value type. -/
  | passThrough
deriving DecidableEq, Inhabited

namespace UnmappedTypes

/-- The name of a policy in a settings file. -/
def name : UnmappedTypes → String
  | .fail => "fail"
  | .passThrough => "passThrough"

/-- The policies. -/
def all : List UnmappedTypes := [.fail, .passThrough]

/-- The policy of exactly this name. -/
def ofName? (name : String) : Option UnmappedTypes :=
  all.find? fun policy => policy.name == name

/-- The letters of a text in lower case, without hyphens and underscores. Only ASCII letters are
folded: no other character has an ASCII letter of a policy's name as its lower case. -/
def folded (text : String) : List Char :=
  (text.toList.map Char.toLower).filter fun char => char != '-' && char != '_'

/-- The policy that a text names. -/
def read? (text : String) : Option UnmappedTypes :=
  all.find? fun policy => folded policy.name == folded text

/-- The report on a text that names no policy. -/
def unknownMessage (text : String) : String :=
  "Unknown unmapped type policy: " ++ text

end UnmappedTypes

/-- The base type of texts. -/
def characterString : String := "CharacterString"

/-- The scalar kinds of the usual base types. -/
def standardScalarKinds : NameMap ScalarKind :=
  NameMap.ofList
    [(characterString, .string), ("Date", .string), ("DateTime", .string), ("Year", .string),
      ("URI", .string), ("Real", .float), ("Decimal", .double), ("Integer", .integer),
      ("Boolean", .boolean)]

/-- Settings of a mapping. -/
structure Settings where
  /-- Datatypes with this text in front of their name are geometries. -/
  geometryPrefix : String := "GM_"
  /-- Datatypes that derive from this type are texts. -/
  stringSupertype : String := characterString
  /-- The spatial reference of geometries. -/
  defaultSrid : UInt32 := 28992
  /-- The scalar kind of a base type. -/
  scalarMappings : NameMap ScalarKind := standardScalarKinds
  /-- What to do with other base types. -/
  unmappedTypes : UnmappedTypes := .fail
  /-- Object types take over the members of their supertypes. -/
  includeInherited : Bool := true
deriving DecidableEq

namespace Settings

instance : Inhabited Settings := ⟨{}⟩

/-- Gives a base type a scalar kind, over an earlier one. -/
def mapScalar (settings : Settings) (base : String) (kind : ScalarKind) : Settings :=
  { settings with scalarMappings := settings.scalarMappings.insert base kind }

/-- The scalar kind of a base type. -/
def scalarKind? (settings : Settings) (base : String) : Option ScalarKind :=
  settings.scalarMappings.get? base

/-- The name is that of a geometry. -/
def isGeometryName (settings : Settings) (name : String) : Bool :=
  settings.geometryPrefix.toList.isPrefixOf name.toList

end Settings

end InfoModel
