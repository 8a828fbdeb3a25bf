/-
**The type of a member.**

A member of a datatype whose values are objects becomes a relation. Any other member becomes an
attribute, and its datatype is resolved to the name of a value type, by the first rule that applies:

1. enumerations and code lists are texts;
2. primitive datatypes with a pattern are texts;
3. datatypes that derive from the settings' text type are texts;
4. datatypes with the settings' geometry prefix are geometries;
5. otherwise the settings give the scalar kind of the topmost supertype, or say what to do without.

* `Resolver.valueTypeName` follows these rules;
* `Resolver.choice` resolves a choice of datatypes: geometries if all are, else they have to share
  their topmost supertype;
* `Resolver.member` decides between relation and attribute. An undeclared datatype is a primitive.
-/

import InfoModel.Catalogue
import InfoModel.Settings

namespace InfoModel

/-- What a member turns into. -/
inductive ResolvedType where
  /-- An attribute of this value type. -/
  | scalar (valueType : String)
  /-- A relation to this object type. -/
  | relation (target : String)
deriving DecidableEq

/-- Resolves types by a catalogue and settings. -/
structure Resolver where
  catalogue : Catalogue
  settings : Settings

namespace Resolver

/-- Values of the named datatype are scalars. -/
def isScalarLike (resolver : Resolver) (datatype : String) : Bool :=
  match resolver.catalogue.datatype? datatype with
  | some declared => declared.isScalarLike
  | none => true

/-- The declaration alone makes the datatype a text. -/
def isDeclaredText (resolver : Resolver) (datatype : String) : Bool :=
  match resolver.catalogue.datatype? datatype with
  | none => false
  | some declared =>
    match declared.form with
    | .enumeration _ | .codeList _ => true
    | .primitive _ => declared.hasPattern
    | .structured _ | .referenceList => false

/-- The topmost supertype of a datatype. -/
def base (resolver : Resolver) (datatype : String) : String :=
  resolver.catalogue.datatypeHierarchy.root datatype

/-- The name of the value type of a datatype. -/
def valueTypeName (resolver : Resolver) (datatype : String) : Recorded String :=
  if resolver.isDeclaredText datatype then .done ScalarKind.string.name
  else if resolver.catalogue.datatypeHierarchy.isSubtype datatype
      resolver.settings.stringSupertype then
    .done ScalarKind.string.name
  else if resolver.settings.isGeometryName datatype then .done ScalarKind.geometry.name
  else
    let base := resolver.base datatype
    match resolver.settings.scalarKind? base with
    | some kind => .done kind.name
    | none =>
      match resolver.settings.unmappedTypes with
      | .fail => .fail (.unresolvableType datatype base)
      | .passThrough => do
        Recorded.report (.passedThrough base datatype)
        return base

/-- All items are equal. -/
def allEqual : List String → Bool
  | [] => true
  | first :: rest => rest.all (· == first)

/-- The name of the value type of a choice of datatypes. -/
def choice (resolver : Resolver) (member : String) (alternatives : List String) :
    Recorded String :=
  if alternatives.all resolver.settings.isGeometryName then .done ScalarKind.geometry.name
  else
    match alternatives with
    | first :: _ =>
      if allEqual (alternatives.map resolver.base) then resolver.valueTypeName first
      else .fail (.unsupportedChoice member alternatives)
    | [] => .fail (.unsupportedChoice member alternatives)

/-- The name of the value type of a member whose values are scalars. A choice that offers something
counts before the datatype. -/
def scalarName (resolver : Resolver) (owner : String) (member : AttributeDeclaration) :
    Recorded String :=
  match member.choice, member.datatype with
  | some (first :: rest), _ => resolver.choice member.name (first :: rest)
  | _, some datatype => resolver.valueTypeName datatype
  | _, none => .fail (.malformedMember owner member.name)

/-- The object type that a member refers to, if the values of its datatype are objects. -/
def structuralTarget? (resolver : Resolver) (member : AttributeDeclaration) : Option String :=
  match member.datatype with
  | some datatype => if resolver.isScalarLike datatype then none else some datatype
  | none => none

/-- What a member of an element turns into. -/
def member (resolver : Resolver) (owner : String) (member : AttributeDeclaration) :
    Recorded ResolvedType :=
  match resolver.structuralTarget? member with
  | some target => .done (.relation target)
  | none => do
    let name ← resolver.scalarName owner member
    return .scalar name

end Resolver

end InfoModel
