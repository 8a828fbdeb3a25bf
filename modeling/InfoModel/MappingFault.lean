/-
**What can be wrong with a model.**

The causes that stop the mapping of an information model. Each names the element at fault.

* `MappingFault.message` is the report on a fault.
-/

namespace InfoModel

/-- Why a model cannot be mapped. -/
inductive MappingFault where
  /-- A member declares neither a datatype nor a choice of datatypes. -/
  | malformedMember (owner member : String)
  /-- The alternatives of a choice do not share one base type. -/
  | unsupportedChoice (member : String) (alternatives : List String)
  /-- The base type of a datatype has no scalar mapping. -/
  | unresolvableType (datatype base : String)
  /-- Two object types of the flat model have one name. -/
  | duplicateObjectType (name : String)
  /-- Two properties of an object type have one name. -/
  | duplicateProperty (objectType property : String)
  /-- A type is its own ancestor. -/
  | supertypeCycle (typeName : String)
  /-- No factory creates value types of this name. -/
  | unknownValueType (name : String)
  /-- A factory rejects its options. -/
  | invalidOptions (typeName reason : String)
deriving DecidableEq

/-- The report on a fault. -/
def MappingFault.message : MappingFault → String
  | .malformedMember owner member =>
    "No datatype or choice found for member '" ++ member ++ "' of '" ++ owner ++ "'"
  | .unsupportedChoice member alternatives =>
    "Unsupported choice for member '" ++ member ++ "': alternatives [" ++
      String.intercalate ", " alternatives ++ "] resolve to different base types"
  | .unresolvableType datatype base =>
    "No scalar type mapping for datatype '" ++ datatype ++ "' (base type '" ++ base ++ "')"
  | .duplicateObjectType name => "Duplicate object type '" ++ name ++ "'"
  | .duplicateProperty objectType property =>
    "Duplicate property '" ++ property ++ "' in object type '" ++ objectType ++ "'"
  | .supertypeCycle typeName => "Supertype hierarchy of '" ++ typeName ++ "' contains a cycle"
  | .unknownValueType name => "No value type factory registered for '" ++ name ++ "'"
  | .invalidOptions typeName reason =>
    "Invalid options for value type '" ++ typeName ++ "': " ++ reason

end InfoModel
