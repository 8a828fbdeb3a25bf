/-
**Stored information models.**

How the elements of an information model are stored: the names of their members, the values taken
for members left out, and the two directions between an element and its document.

* `InformationModel.decode` reads a model from a document of any format;
* `InformationModel.toJson` writes one. Optional members are left out when they are absent, lists
  and truth values are always written, and an occurrence is written by its two bounds;
* `Occurrence.ofContent` takes an occurrence as a count, as notation or by its bounds.
-/

import InfoModel.Declaration.Element
import InfoModel.Document.OfJson

namespace InfoModel

/-! ### Occurrences -/

/-- Reads an occurrence notation inside a document. -/
def Occurrence.ofText (text : String) : Except DecodeFault Occurrence :=
  match Occurrence.read? text with
  | .ok occurrence => .ok occurrence
  | .error fault => .error (.occurrence fault)

/-- The bounds of an occurrence as members of a record. -/
def Occurrence.fields {node : Type} [Document node] : Fields node Occurrence :=
  Occurrence.mk <$> Fields.defaulted "min" Document.word 0
    <*> Fields.defaulted "multi" Document.flag false

/-- An occurrence as plain data: a count stands for its decimal numeral, a text is notation, and an
object gives the bounds as they are. -/
def Occurrence.ofContent : Json → Except DecodeFault Occurrence
  | .number (.natural count) =>
    if count.toNat < UInt32.size then Occurrence.ofText (toString count.toNat)
    else .error .malformed
  | .string text => Occurrence.ofText text
  | .object members => Occurrence.fields.ofLayout (.named members)
  | _ => .error .malformed

/-- Reads an occurrence. -/
def Occurrence.decode {node : Type} [Document node] (value : node) :
    Except DecodeFault Occurrence := do
  Occurrence.ofContent (← Document.content value)

/-- Writes an occurrence by its bounds. -/
def Occurrence.toJson (occurrence : Occurrence) : Json :=
  .object [("min", Json.ofWord occurrence.min), ("multi", .bool occurrence.multi)]

/-- An optional member of an object: nothing if it is absent. -/
def Json.optionalMember {α : Type} (name : String) (encode : α → Json) :
    Option α → List (String × Json)
  | some value => [(name, encode value)]
  | none => []

section Decoding

variable {node : Type} [Document node]

/-! ### Members -/

/-- The fields of an attribute. -/
def AttributeDeclaration.fields : Fields node AttributeDeclaration :=
  AttributeDeclaration.mk <$> Fields.required "name" Document.text
    <*> Fields.defaulted "identifier" Document.flag false
    <*> Fields.optional "occurrence" Occurrence.decode
    <*> Fields.optional "datatype" Document.text
    <*> Fields.optional "choice" (Document.listOf Document.text)

/-- The fields of a relation. -/
def RelationDeclaration.fields : Fields node RelationDeclaration :=
  RelationDeclaration.mk <$> Fields.required "name" Document.text
    <*> Fields.defaulted "identifier" Document.flag false
    <*> Fields.optional "occurrence" Occurrence.decode
    <*> Fields.optional "target" Document.text
    <*> Fields.optional "inverseName" Document.text
    <*> Fields.optional "inverseOccurrence" Occurrence.decode

/-- The fields of a reference to a datagroup type. -/
def DatagroupReference.fields : Fields node DatagroupReference :=
  DatagroupReference.mk <$> Fields.required "name" Document.text
    <*> Fields.optional "occurrence" Occurrence.decode
    <*> Fields.required "type" Document.text

/-- The fields of a data element. -/
def DataElement.fields : Fields node DataElement :=
  DataElement.mk <$> Fields.required "name" Document.text
    <*> Fields.defaulted "identifier" Document.flag false
    <*> Fields.optional "occurrence" Occurrence.decode
    <*> Fields.optional "datatype" Document.text

/-- The fields of the members that an element declares. -/
def Members.fields : Fields node Members :=
  Members.mk
    <$> Fields.defaulted "attributes" (Document.listOf AttributeDeclaration.fields.decode) []
    <*> Fields.defaulted "relations" (Document.listOf RelationDeclaration.fields.decode) []
    <*> Fields.defaulted "datagroups" (Document.listOf DatagroupReference.fields.decode) []

/-! ### Datatypes -/

/-- The field of the direct supertypes. -/
def supertypesField : Fields node (List String) :=
  Fields.defaulted "supertypes" (Document.listOf Document.text) []

/-- The kinds of datatypes. -/
def Datatype.kinds : List String :=
  ["enumeration", "codeList", "primitive", "structured", "referenceList"]

/-- The fields of a datatype of a kind, if there is such a kind. -/
def Datatype.fieldsOfKind : String → Option (Fields node Datatype)
  | "enumeration" => some <|
    (fun name supertypes values => ⟨name, supertypes, .enumeration values⟩)
      <$> Fields.required "name" Document.text <*> supertypesField
      <*> Fields.defaulted "values" (Document.listOf Document.text) []
  | "codeList" => some <|
    (fun name supertypes location => ⟨name, supertypes, .codeList location⟩)
      <$> Fields.required "name" Document.text <*> supertypesField
      <*> Fields.optional "location" Document.text
  | "primitive" => some <|
    (fun name supertypes pattern => ⟨name, supertypes, .primitive pattern⟩)
      <$> Fields.required "name" Document.text <*> supertypesField
      <*> Fields.optional "pattern" Document.text
  | "structured" => some <|
    (fun name supertypes elements => ⟨name, supertypes, .structured elements⟩)
      <$> Fields.required "name" Document.text <*> supertypesField
      <*> Fields.defaulted "dataElements" (Document.listOf DataElement.fields.decode) []
  | "referenceList" => some <|
    (fun name supertypes => ⟨name, supertypes, .referenceList⟩)
      <$> Fields.required "name" Document.text <*> supertypesField
  | _ => none

/-- Reads a datatype, with its kind as tag. -/
def Datatype.decode (value : node) : Except DecodeFault Datatype := do
  let (kind, layout) ← Document.tagged Datatype.kinds "kind" value
  match Datatype.fieldsOfKind kind with
  | some fields => fields.ofLayout layout
  | none => throw .malformed

/-! ### Elements -/

/-- The fields of an object type. -/
def ObjectTypeDeclaration.fields : Fields node ObjectTypeDeclaration :=
  ObjectTypeDeclaration.mk <$> Fields.required "name" Document.text
    <*> Fields.defaulted "abstract" Document.flag false
    <*> supertypesField
    <*> Members.fields

/-- The fields of a datagroup type. -/
def DatagroupTypeDeclaration.fields : Fields node DatagroupTypeDeclaration :=
  DatagroupTypeDeclaration.mk <$> Fields.required "name" Document.text <*> Members.fields

/-- The fields of a package. -/
def Package.fields : Fields node Package :=
  Package.mk <$> Fields.required "name" Document.text
    <*> Fields.defaulted "objectTypes" (Document.listOf ObjectTypeDeclaration.fields.decode) []
    <*> Fields.defaulted "datagroupTypes"
      (Document.listOf DatagroupTypeDeclaration.fields.decode) []
    <*> Fields.defaulted "datatypes" (Document.listOf Datatype.decode) []

/-- The fields of an information model. -/
def InformationModel.fields : Fields node InformationModel :=
  InformationModel.mk <$> Fields.required "name" Document.text
    <*> Fields.defaulted "packages" (Document.listOf Package.fields.decode) []

/-- Reads an information model. -/
def InformationModel.decode (value : node) : Except DecodeFault InformationModel :=
  InformationModel.fields.decode value

end Decoding

/-- Reads an information model from a JSON text. -/
def InformationModel.ofJsonText (text : String) : Except DecodeFault InformationModel :=
  Json.decodeText InformationModel.decode InformationModel.decode text

/-! ### Writing -/

/-- Writes an attribute. -/
def AttributeDeclaration.toJson (member : AttributeDeclaration) : Json :=
  .object <|
    [("name", .string member.name), ("identifier", .bool member.identifier)] ++
      Json.optionalMember "occurrence" Occurrence.toJson member.occurrence ++
      Json.optionalMember "datatype" .string member.datatype ++
      Json.optionalMember "choice" Json.ofTexts member.choice

/-- Writes a relation. -/
def RelationDeclaration.toJson (relation : RelationDeclaration) : Json :=
  .object <|
    [("name", .string relation.name), ("identifier", .bool relation.identifier)] ++
      Json.optionalMember "occurrence" Occurrence.toJson relation.occurrence ++
      Json.optionalMember "target" .string relation.target ++
      Json.optionalMember "inverseName" .string relation.inverseName ++
      Json.optionalMember "inverseOccurrence" Occurrence.toJson relation.inverseOccurrence

/-- Writes a reference to a datagroup type. -/
def DatagroupReference.toJson (reference : DatagroupReference) : Json :=
  .object <|
    [("name", .string reference.name)] ++
      Json.optionalMember "occurrence" Occurrence.toJson reference.occurrence ++
      [("type", .string reference.datagroupType)]

/-- Writes a data element. -/
def DataElement.toJson (element : DataElement) : Json :=
  .object <|
    [("name", .string element.name), ("identifier", .bool element.identifier)] ++
      Json.optionalMember "occurrence" Occurrence.toJson element.occurrence ++
      Json.optionalMember "datatype" .string element.datatype

/-- Writes the members that an element declares. -/
def Members.toMembers (members : Members) : List (String × Json) :=
  [("attributes", .array (members.attributes.map AttributeDeclaration.toJson)),
    ("relations", .array (members.relations.map RelationDeclaration.toJson)),
    ("datagroups", .array (members.datagroups.map DatagroupReference.toJson))]

/-- The kind of a datatype. -/
def DatatypeForm.kind : DatatypeForm → String
  | .enumeration _ => "enumeration"
  | .codeList _ => "codeList"
  | .primitive _ => "primitive"
  | .structured _ => "structured"
  | .referenceList => "referenceList"

/-- Writes what a datatype has besides its name and supertypes. -/
def DatatypeForm.toMembers : DatatypeForm → List (String × Json)
  | .enumeration values => [("values", Json.ofTexts values)]
  | .codeList location => Json.optionalMember "location" .string location
  | .primitive pattern => Json.optionalMember "pattern" .string pattern
  | .structured elements => [("dataElements", .array (elements.map DataElement.toJson))]
  | .referenceList => []

/-- Writes a datatype. -/
def Datatype.toJson (datatype : Datatype) : Json :=
  .object <|
    [("kind", .string datatype.form.kind), ("name", .string datatype.name),
      ("supertypes", Json.ofTexts datatype.supertypes)] ++ datatype.form.toMembers

/-- Writes an object type. -/
def ObjectTypeDeclaration.toJson (objectType : ObjectTypeDeclaration) : Json :=
  .object <|
    [("name", .string objectType.name), ("abstract", .bool objectType.isAbstract),
      ("supertypes", Json.ofTexts objectType.supertypes)] ++ objectType.members.toMembers

/-- Writes a datagroup type. -/
def DatagroupTypeDeclaration.toJson (datagroupType : DatagroupTypeDeclaration) : Json :=
  .object (("name", .string datagroupType.name) :: datagroupType.members.toMembers)

/-- Writes a package. -/
def Package.toJson (package : Package) : Json :=
  .object
    [("name", .string package.name),
      ("objectTypes", .array (package.objectTypes.map ObjectTypeDeclaration.toJson)),
      ("datagroupTypes", .array (package.datagroupTypes.map DatagroupTypeDeclaration.toJson)),
      ("datatypes", .array (package.datatypes.map Datatype.toJson))]

/-- Writes an information model. -/
def InformationModel.toJson (model : InformationModel) : Json :=
  .object
    [("name", .string model.name), ("packages", .array (model.packages.map Package.toJson))]

end InfoModel
