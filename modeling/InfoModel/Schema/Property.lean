/-
**Properties of flat object types.**

A property is an attribute with values of a scalar type or a relation to another object type, which
is given by its name.
-/

import InfoModel.Schema.Cardinality
import InfoModel.Schema.ValueType

namespace InfoModel

/-- A property with scalar values. -/
structure Attribute where
  name : String
  /-- The attribute is part of the key of its object type. -/
  identifier : Bool := false
  valueType : ValueType
  cardinality : Cardinality

/-- A property that refers to an object type. -/
structure Relation where
  name : String
  /-- The relation is part of the key of its object type. -/
  identifier : Bool := false
  /-- The name of the object type referred to. -/
  target : String
  cardinality : Cardinality
  /-- The name of the relation as seen from its target. -/
  inverseName : Option String := none
  /-- The cardinality of the relation as seen from its target. -/
  inverseCardinality : Option Cardinality := none
deriving DecidableEq

/-- A property of an object type. -/
inductive Property where
  | ofAttribute (value : Attribute)
  | ofRelation (value : Relation)

namespace Property

/-- The name of a property. -/
def name : Property → String
  | .ofAttribute value => value.name
  | .ofRelation value => value.name

/-- The property is part of the key. -/
def isIdentifier : Property → Bool
  | .ofAttribute value => value.identifier
  | .ofRelation value => value.identifier

/-- How often the property occurs. -/
def cardinality : Property → Cardinality
  | .ofAttribute value => value.cardinality
  | .ofRelation value => value.cardinality

/-- The attribute that the property is. -/
def attribute? : Property → Option Attribute
  | .ofAttribute value => some value
  | .ofRelation _ => none

/-- The relation that the property is. -/
def relation? : Property → Option Relation
  | .ofAttribute _ => none
  | .ofRelation value => some value

end Property

end InfoModel
