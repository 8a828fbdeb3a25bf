/-
**The registry of value types.**

A registry creates value types by name. It holds one factory per name; a later one replaces an
earlier one.

* `Registry.standard` knows the six scalar kinds;
* `Registry.create` asks the factory of a name for a value type, which the factory may refuse.
-/

import InfoModel.MappingFault
import InfoModel.Schema.ValueType
import InfoModel.Text.Quoted

namespace InfoModel

/-- Creates value types of one name. -/
structure ValueTypeFactory where
  /-- The name of the value types. -/
  typeName : String
  /-- Makes a value type from options. -/
  create : TypeOptions → Except MappingFault ValueType

namespace ValueTypeFactory

/-- The refusal of the geometry factory. -/
def geometryFault (reason : String) : MappingFault :=
  .invalidOptions ScalarKind.geometry.name reason

/-- The geometry of the spatial reference in the options. -/
def createGeometry (options : TypeOptions) : Except MappingFault ValueType :=
  match options.get? sridOption with
  | none => .error (geometryFault "missing 'srid'")
  | some (.number (.natural srid)) =>
    if srid.toNat < UInt32.size then .ok (.geometry srid.toUInt32)
    else .error (geometryFault "'srid' is out of range")
  | some _ => .error (geometryFault "'srid' must be a non-negative integer")

/-- Creates geometries; needs the spatial reference among the options. -/
def geometry : ValueTypeFactory :=
  ⟨ScalarKind.geometry.name, createGeometry⟩

/-- Creates values of a scalar kind. Only geometries look at the options. -/
def scalar (kind : ScalarKind) : ValueTypeFactory where
  typeName := kind.name
  create options :=
    match kind with
    | .string => .ok .string
    | .integer => .ok .integer
    | .float => .ok .float
    | .double => .ok .double
    | .boolean => .ok .boolean
    | .geometry => createGeometry options

/-- Creates host types of a name, with the options as they are. -/
def host (name : String) : ValueTypeFactory where
  typeName := name
  create options := .ok (.custom name options)

end ValueTypeFactory

/-- Factories by the name of the value types they create. -/
structure Registry where
  factories : NameMap ValueTypeFactory := NameMap.empty

namespace Registry

instance : Inhabited Registry := ⟨{}⟩

/-- Adds a factory, over an earlier one of its name. -/
def register (registry : Registry) (factory : ValueTypeFactory) : Registry :=
  ⟨registry.factories.insert factory.typeName factory⟩

/-- The registry of the scalar kinds. -/
def standard : Registry :=
  ScalarKind.all.foldl (fun registry kind => registry.register (.scalar kind)) {}

/-- The factory of a name. -/
def factory (registry : Registry) (name : String) : Except MappingFault ValueTypeFactory :=
  match registry.factories.get? name with
  | some factory => .ok factory
  | none => .error (.unknownValueType name)

/-- A factory of this name is registered. -/
def contains (registry : Registry) (name : String) : Bool :=
  registry.factories.contains name

/-- Creates a value type by name. -/
def create (registry : Registry) (name : String) (options : TypeOptions) :
    Except MappingFault ValueType :=
  match registry.factory name with
  | .ok factory => factory.create options
  | .error fault => .error fault

/-- The registry as a reader sees it: the quoted names, in order. -/
def text (registry : Registry) : String :=
  "ValueTypeRegistry \x7b factories: [" ++
    String.intercalate ", " (registry.factories.keys.map Text.quoted) ++ "] \x7d"

end Registry

end InfoModel
