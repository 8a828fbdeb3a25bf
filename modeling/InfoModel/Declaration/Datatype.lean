/-
**Datatypes of an information model.**

A datatype has a name, the names of its direct supertypes, and one of five forms. Values of a
structured datatype or a reference list are objects of their own; values of any other datatype are
scalars.

* `Datatype.isScalarLike` tells the two apart;
* `Datatype.hasPattern` says that a primitive datatype restricts its texts by a pattern.
-/

import InfoModel.Occurrence
import InfoModel.Text.Blank

namespace InfoModel

/-- A member of a structured datatype. -/
structure DataElement where
  name : String
  /-- The element is part of the key. -/
  identifier : Bool := false
  occurrence : Option Occurrence := none
  /-- The name of the datatype of its values. -/
  datatype : Option String := none
deriving DecidableEq

/-- The forms of a datatype. -/
inductive DatatypeForm where
  /-- A fixed list of values. -/
  | enumeration (values : List String)
  /-- A list of codes kept elsewhere. -/
  | codeList (location : Option String)
  /-- A primitive datatype, with a pattern for its texts or not. -/
  | primitive (pattern : Option String)
  /-- A datatype made of data elements. -/
  | structured (dataElements : List DataElement)
  /-- A list of objects kept elsewhere. -/
  | referenceList
deriving DecidableEq

/-- A datatype. -/
structure Datatype where
  name : String
  /-- The names of the direct supertypes. -/
  supertypes : List String := []
  form : DatatypeForm
deriving DecidableEq

namespace Datatype

/-- Values of the datatype are scalars. -/
def isScalarLike (datatype : Datatype) : Bool :=
  match datatype.form with
  | .structured _ | .referenceList => false
  | .enumeration _ | .codeList _ | .primitive _ => true

/-- A pattern that is not blank restricts the texts of the datatype. -/
def hasPattern (datatype : Datatype) : Bool :=
  match datatype.form with
  | .primitive (some pattern) => !Text.allBlank pattern
  | _ => false

/-- The data elements of a structured datatype. -/
def dataElements? (datatype : Datatype) : Option (List DataElement) :=
  match datatype.form with
  | .structured dataElements => some dataElements
  | _ => none

end Datatype

end InfoModel
