/-
**Stored information models are read back.**

* `InformationModel.isExact_toJson`: what is written holds words and texts and no other leaves, so
  that its text tells it exactly. It is not nested deep (`InformationModel.depth_toJson_le`);
* `Occurrence.roundTrips`: an occurrence is written by its bounds, which are taken as they are;
* `Datatype.roundTrips`: a datatype is looked at as plain data to find its kind, and then read from
  its other members;
* `InformationModel.stored_unchanged`: element by element, an information model is read back from
  what it is written to.
-/

import InfoModel.Mapping.Pass
import InfoModel.Proofs.Document.Fields
import InfoModel.Proofs.Json.Nesting

namespace InfoModel

open Fields (valuesOf defaulted)

/-! ### Exact values -/

/-- What is written for an optional member is exact if what it holds is. -/
@[simp] theorem Json.allMembersExact_optionalMember {α : Type} (name : String) (encode : α → Json)
    (value : Option α) : allMembersExact (optionalMember name encode value)
      = value.all fun item => (encode item).isExact := by
  cases value <;> simp [optionalMember]

@[simp] theorem Occurrence.isExact_toJson (occurrence : Occurrence) :
    occurrence.toJson.isExact = true := rfl

@[simp] theorem AttributeDeclaration.isExact_toJson (declared : AttributeDeclaration) :
    declared.toJson.isExact = true := by
  simp [toJson]

@[simp] theorem RelationDeclaration.isExact_toJson (declared : RelationDeclaration) :
    declared.toJson.isExact = true := by
  simp [toJson]

@[simp] theorem DatagroupReference.isExact_toJson (reference : DatagroupReference) :
    reference.toJson.isExact = true := by
  simp [toJson]

@[simp] theorem DataElement.isExact_toJson (element : DataElement) :
    element.toJson.isExact = true := by
  simp [toJson]

@[simp] theorem Datatype.isExact_toJson (datatype : Datatype) : datatype.toJson.isExact = true := by
  obtain ⟨name, supertypes, form⟩ := datatype
  cases form <;> simp [toJson, DatatypeForm.toMembers]

@[simp] theorem ObjectTypeDeclaration.isExact_toJson (declared : ObjectTypeDeclaration) :
    declared.toJson.isExact = true := by
  simp [toJson, Members.toMembers]

@[simp] theorem DatagroupTypeDeclaration.isExact_toJson (declared : DatagroupTypeDeclaration) :
    declared.toJson.isExact = true := by
  simp [toJson, Members.toMembers]

@[simp] theorem Package.isExact_toJson (package : Package) : package.toJson.isExact = true := by
  simp [toJson]

/-- **All that is written of an information model is exact.** -/
theorem InformationModel.isExact_toJson (model : InformationModel) :
    model.toJson.isExact = true := by
  simp [toJson]

/-! ### Nesting -/

/-- What is written for an optional member is as deep as what it holds. -/
@[simp] theorem Json.membersDepth_optionalMember_le {α : Type} {name : String} {encode : α → Json}
    {value : Option α} {limit : Nat} :
    membersDepth (optionalMember name encode value) ≤ limit ↔
      ∀ item ∈ value, (encode item).depth ≤ limit := by
  cases value <;> simp [optionalMember]

@[simp] theorem Occurrence.depth_toJson (occurrence : Occurrence) :
    occurrence.toJson.depth = 1 := rfl

@[simp] theorem AttributeDeclaration.depth_toJson_le (declared : AttributeDeclaration) :
    declared.toJson.depth ≤ 2 := by
  simp [toJson]

@[simp] theorem RelationDeclaration.depth_toJson_le (declared : RelationDeclaration) :
    declared.toJson.depth ≤ 2 := by
  simp [toJson]

@[simp] theorem DatagroupReference.depth_toJson_le (reference : DatagroupReference) :
    reference.toJson.depth ≤ 2 := by
  simp [toJson]

@[simp] theorem DataElement.depth_toJson_le (element : DataElement) :
    element.toJson.depth ≤ 2 := by
  simp [toJson]

@[simp] theorem Datatype.depth_toJson_le (datatype : Datatype) : datatype.toJson.depth ≤ 4 := by
  obtain ⟨name, supertypes, form⟩ := datatype
  cases form <;> simp [toJson, DatatypeForm.toMembers]

@[simp] theorem ObjectTypeDeclaration.depth_toJson_le (declared : ObjectTypeDeclaration) :
    declared.toJson.depth ≤ 4 := by
  simp [toJson, Members.toMembers]

@[simp] theorem DatagroupTypeDeclaration.depth_toJson_le (declared : DatagroupTypeDeclaration) :
    declared.toJson.depth ≤ 4 := by
  simp [toJson, Members.toMembers]

@[simp] theorem Package.depth_toJson_le (package : Package) : package.toJson.depth ≤ 6 := by
  simp [toJson]

/-- **What is written of an information model is not nested deep.** -/
theorem InformationModel.depth_toJson_le (model : InformationModel) : model.toJson.depth ≤ 8 := by
  simp [toJson]

/-! ### Occurrences -/

/-- **An occurrence is read back from its bounds.** -/
theorem Occurrence.roundTrips : RoundTrips Occurrence.toJson Occurrence.decode := by
  intro occurrence
  have min : Reads (defaulted "min" Document.word 0)
      [("min", Json.ofWord occurrence.min), ("multi", .bool occurrence.multi)] occurrence.min :=
    .defaulted roundTrips_word (by simp)
  have multi : Reads (defaulted "multi" Document.flag false)
      [("min", Json.ofWord occurrence.min), ("multi", .bool occurrence.multi)] occurrence.multi :=
    .defaulted roundTrips_flag (by simp)
  exact ((min.map Occurrence.mk).seq multi).ofLayout

/-- An occurrence that has no notation of its own is stored, too. -/
example : Occurrence.decode (Occurrence.toJson ⟨2, false⟩) = .ok ⟨2, false⟩ ∧
    (Occurrence.read? (Occurrence.text ⟨2, false⟩)).toOption = none := by decide

theorem Occurrence.isAbsent_toJson (occurrence : Occurrence) :
    Document.isAbsent occurrence.toJson = false := rfl

/-! ### Members -/

/-- **An attribute is read back.** -/
theorem AttributeDeclaration.roundTrips :
    RoundTrips AttributeDeclaration.toJson AttributeDeclaration.fields.decode := by
  rintro ⟨name, identifier, occurrence, datatype, choice⟩
  refine Reads.decode_object (Reads.required roundTrips_text ?name |>.map _
    |>.seq (.defaulted roundTrips_flag ?identifier)
    |>.seq (.optional Occurrence.roundTrips Occurrence.isAbsent_toJson ?occurrence)
    |>.seq (.optional roundTrips_text (fun _ => rfl) ?datatype)
    |>.seq (.optional roundTrips_texts (fun _ => rfl) ?choice))
  all_goals simp

/-- **A relation is read back.** -/
theorem RelationDeclaration.roundTrips :
    RoundTrips RelationDeclaration.toJson RelationDeclaration.fields.decode := by
  rintro ⟨name, identifier, occurrence, target, inverseName, inverseOccurrence⟩
  refine Reads.decode_object (Reads.required roundTrips_text ?name |>.map _
    |>.seq (.defaulted roundTrips_flag ?identifier)
    |>.seq (.optional Occurrence.roundTrips Occurrence.isAbsent_toJson ?occurrence)
    |>.seq (.optional roundTrips_text (fun _ => rfl) ?target)
    |>.seq (.optional roundTrips_text (fun _ => rfl) ?inverseName)
    |>.seq (.optional Occurrence.roundTrips Occurrence.isAbsent_toJson ?inverseOccurrence))
  all_goals simp

/-- **A reference to a datagroup type is read back.** -/
theorem DatagroupReference.roundTrips :
    RoundTrips DatagroupReference.toJson DatagroupReference.fields.decode := by
  rintro ⟨name, occurrence, datagroupType⟩
  refine Reads.decode_object (Reads.required roundTrips_text ?name |>.map _
    |>.seq (.optional Occurrence.roundTrips Occurrence.isAbsent_toJson ?occurrence)
    |>.seq (.required roundTrips_text ?datagroupType))
  all_goals simp

/-- **A data element is read back.** -/
theorem DataElement.roundTrips : RoundTrips DataElement.toJson DataElement.fields.decode := by
  rintro ⟨name, identifier, occurrence, datatype⟩
  refine Reads.decode_object (Reads.required roundTrips_text ?name |>.map _
    |>.seq (.defaulted roundTrips_flag ?identifier)
    |>.seq (.optional Occurrence.roundTrips Occurrence.isAbsent_toJson ?occurrence)
    |>.seq (.optional roundTrips_text (fun _ => rfl) ?datatype))
  all_goals simp

/-- **The members of an element are read back** from a record that holds them, whatever else it
holds under other names. -/
theorem Members.reads_fields {declared : Members} {front : List (String × Json)}
    (attributes : valuesOf "attributes" front = []) (relations : valuesOf "relations" front = [])
    (datagroups : valuesOf "datagroups" front = []) :
    Reads Members.fields (front ++ declared.toMembers) declared := by
  obtain ⟨_, _, _⟩ := declared
  refine Reads.defaulted AttributeDeclaration.roundTrips.listOf ?attributes |>.map _
    |>.seq (.defaulted RelationDeclaration.roundTrips.listOf ?relations)
    |>.seq (.defaulted DatagroupReference.roundTrips.listOf ?datagroups)
  all_goals simp [Members.toMembers, attributes, relations, datagroups]

/-! ### Datatypes -/

namespace Datatype

/-- The members that are written of a datatype besides its kind. -/
def parts (datatype : Datatype) : List (String × Json) :=
  [("name", .string datatype.name), ("supertypes", Json.ofTexts datatype.supertypes)] ++
    datatype.form.toMembers

/-- The members of a form do not go by the names that all datatypes share. -/
theorem valuesOf_toMembers {key : String} (shared : key ∈ ["kind", "name", "supertypes"])
    (form : DatatypeForm) : valuesOf key form.toMembers = [] := by
  simp only [List.mem_cons, List.not_mem_nil, or_false] at shared
  rcases shared with rfl | rfl | rfl <;> cases form <;> simp [DatatypeForm.toMembers]

theorem reads_name (datatype : Datatype) :
    Reads (.required "name" Document.text) datatype.parts datatype.name :=
  .required roundTrips_text (by simp [parts, valuesOf_toMembers])

theorem reads_supertypes (datatype : Datatype) :
    Reads supertypesField datatype.parts datatype.supertypes :=
  .defaulted roundTrips_texts (by simp [parts, valuesOf_toMembers])

/-- **A datatype is read from its parts by the fields of its kind.** The kind is found first. -/
theorem decode_toJson_of_reads {datatype : Datatype} {fields : Fields Json Datatype}
    (known : fieldsOfKind datatype.form.kind = some fields)
    (reads : Reads fields datatype.parts datatype) : decode datatype.toJson = .ok datatype := by
  have content : Document.content datatype.toJson = .ok datatype.toJson :=
    if_pos (Json.isReadable_of_isExact _ datatype.isExact_toJson)
  have untagged : valuesOf "kind" datatype.parts = [] := by simp [parts, valuesOf_toMembers]
  have kind : valuesOf "kind" (("kind", Json.string datatype.form.kind) :: datatype.parts)
      = [.string datatype.form.kind] := by simp [untagged]
  have others : (("kind", Json.string datatype.form.kind) :: datatype.parts).filter
      (fun member => member.1 != "kind") = datatype.parts := by
    rw [List.filter_cons_of_neg (by simp)]
    exact Fields.filter_ne_of_valuesOf_eq_nil untagged
  have tagged : Document.tagged kinds "kind" datatype.toJson
      = .ok (datatype.form.kind, .named datatype.parts) := by
    show (Document.content datatype.toJson >>= fun value => Json.tagged [] "kind" value) = _
    rw [content, ← others]
    exact Json.tagged_object kind
  unfold decode
  simp only [tagged, bind, Except.bind, known]
  exact reads.ofLayout

/-- **A datatype is read back.** -/
theorem roundTrips : RoundTrips toJson decode := by
  rintro ⟨name, supertypes, form⟩
  cases form with
  | enumeration values =>
      exact decode_toJson_of_reads rfl ((reads_name _).map _ |>.seq (reads_supertypes _)
        |>.seq (.defaulted roundTrips_texts (by simp [parts, DatatypeForm.toMembers])))
  | codeList location =>
      exact decode_toJson_of_reads rfl ((reads_name _).map _ |>.seq (reads_supertypes _)
        |>.seq (.optional roundTrips_text (fun _ => rfl) (by simp [parts, DatatypeForm.toMembers])))
  | primitive pattern =>
      exact decode_toJson_of_reads rfl ((reads_name _).map _ |>.seq (reads_supertypes _)
        |>.seq (.optional roundTrips_text (fun _ => rfl) (by simp [parts, DatatypeForm.toMembers])))
  | structured elements =>
      exact decode_toJson_of_reads rfl ((reads_name _).map _ |>.seq (reads_supertypes _)
        |>.seq (.defaulted DataElement.roundTrips.listOf (by simp [parts, DatatypeForm.toMembers])))
  | referenceList =>
      exact decode_toJson_of_reads rfl ((reads_name _).map _ |>.seq (reads_supertypes _))

end Datatype

/-! ### Elements -/

/-- **An object type is read back.** -/
theorem ObjectTypeDeclaration.roundTrips :
    RoundTrips ObjectTypeDeclaration.toJson ObjectTypeDeclaration.fields.decode := by
  rintro ⟨name, isAbstract, supertypes, members⟩
  refine Reads.decode_object (Reads.required roundTrips_text ?name |>.map _
    |>.seq (.defaulted roundTrips_flag ?isAbstract)
    |>.seq (.defaulted roundTrips_texts ?supertypes)
    |>.seq (Members.reads_fields ?attributes ?relations ?datagroups))
  all_goals simp [Members.toMembers]

/-- **A datagroup type is read back.** -/
theorem DatagroupTypeDeclaration.roundTrips :
    RoundTrips DatagroupTypeDeclaration.toJson DatagroupTypeDeclaration.fields.decode := by
  rintro ⟨name, members⟩
  refine Reads.decode_object (Reads.required roundTrips_text ?name |>.map _
    |>.seq (@Members.reads_fields _ [("name", .string name)] ?attributes ?relations ?datagroups))
  all_goals simp [Members.toMembers]

/-- **A package is read back.** -/
theorem Package.roundTrips : RoundTrips Package.toJson Package.fields.decode := by
  rintro ⟨name, objectTypes, datagroupTypes, datatypes⟩
  refine Reads.decode_object (Reads.required roundTrips_text ?name |>.map _
    |>.seq (.defaulted ObjectTypeDeclaration.roundTrips.listOf ?objectTypes)
    |>.seq (.defaulted DatagroupTypeDeclaration.roundTrips.listOf ?datagroupTypes)
    |>.seq (.defaulted Datatype.roundTrips.listOf ?datatypes))
  all_goals simp

namespace InformationModel

/-- **An information model is read back.** -/
theorem roundTrips : RoundTrips toJson (decode : Json → _) := by
  rintro ⟨name, packages⟩
  refine Reads.decode_object (Reads.required roundTrips_text ?name |>.map _
    |>.seq (.defaulted Package.roundTrips.listOf ?packages))
  all_goals simp

/-- A model is read from any text that has the value which the model is written to. -/
theorem ofJsonText_of_read {model : InformationModel} {text : String}
    (read : Json.read text = .ok model.toJson) : ofJsonText text = .ok model := by
  unfold ofJsonText Json.decodeText
  rw [read]
  exact roundTrips model

/-- **What is stored is read again unchanged.** A model is read back from the value that it is
written to, and from the text of that value; what it is mapped to afterwards is what it was mapped
to before. -/
theorem stored_unchanged (model : InformationModel) :
    decode model.toJson = .ok model ∧ ofJsonText model.toJson.compact = .ok model ∧
      ∀ (mapper : Mapper) (aliasName : Option String),
        (ofJsonText model.toJson.compact).map (fun reread => mapper.map reread aliasName)
          = .ok (mapper.map model aliasName) := by
  have reread : ofJsonText model.toJson.compact = .ok model :=
    ofJsonText_of_read (Json.read_compact model.isExact_toJson
      (model.depth_toJson_le.trans (by decide)))
  refine ⟨roundTrips model, reread, fun mapper aliasName => ?_⟩
  rw [reread]
  rfl

end InformationModel

end InfoModel
