/-
**Stored properties and models.**

A property is read back from what it is written to, although its kind, the type of its values and
the options of that type are told apart by nested tags, and although absent members are left out.
So two models that are written to the same are the same.

* A value may have its members in another order when it is read (`Json.Settles`), and may be looked
  at in two ways (`Json.Looks`); `Json.Looks.tagged_settled` finds a tag in either case;
* `ValueType.decode_settled`, `Attribute.reads_settled`, `Relation.reads_settled` and
  `Property.decode_settled` read back each level from the one below;
* `Property.eq_of_normal_toJson`, `ObjectType.eq_of_normal_toJson`, `Model.eq_of_normal_toJson`:
  what is written tells properties, object types and models apart. So do the printed texts
  (`Model.eq_of_compact_toJson`).
-/

import InfoModel.Proofs.Document.Declarations
import InfoModel.Proofs.Document.Normal

namespace InfoModel

open Fields (valuesOf valuesOf_cons named_field_eq_ok_iff)

/-! ### Members in another order, and two ways to look -/

namespace Json

/-- **Members may be put in another order** before a value is read. What is in normal form stays as
it is. -/
structure Settles (settle : Json → Json) : Prop where
  fixed : ∀ {value : Json}, value.normal = value → settle value = value
  object : ∀ {members : List (String × Json)}, (members.map Prod.fst).Nodup →
    ∃ others, settle (.object members) = .object others ∧
      ∀ key, valuesOf key others = (valuesOf key members).map settle
  readable : ∀ {value : Json}, value.isReadable = true → (settle value).isReadable = true

theorem settles_id : Settles id where
  fixed _ := rfl
  object := fun {members} _ => ⟨members, rfl, fun _ => (List.map_id _).symm⟩
  readable := id

theorem settles_normal : Settles normal where
  fixed := id
  object := by
    intro members distinct
    obtain ⟨others, laidOut, values⟩ := exists_normal_object members
    refine ⟨others, laidOut, fun key => ?_⟩
    -- the last value of a name that stands once is the only one
    have once := length_valuesOf_le distinct key
    rw [values key]
    cases found : valuesOf key members with
    | nil => rfl
    | cons value rest =>
        rw [found] at once
        obtain rfl : rest = [] := List.length_eq_zero_iff.mp (by simpa using once)
        rfl
  readable := isReadable_normal

/-- **A value is looked at**: a text, a truth value, a name and a tag are found as they stand. -/
structure Looks {node : Type} [Document node] (wrap : Json → node) : Prop where
  text : ∀ text, Document.text (wrap (.string text)) = .ok text
  flag : ∀ flag, Document.flag (wrap (.bool flag)) = .ok flag
  picked : ∀ name, Document.picked (wrap (.string name)) = .ok name
  present : ∀ text, Document.isAbsent (wrap (.string text)) = false
  tagged : ∀ {numbered : List String} {tag kind : String} {members : List (String × Json)},
    (Json.object members).isReadable = true → valuesOf tag members = [.string kind] →
      Document.tagged numbered tag (wrap (.object members))
        = .ok (kind, .named (members.filter fun member => member.1 != tag))

theorem looks_id : Looks (id : Json → Json) where
  text _ := rfl
  flag _ := rfl
  picked _ := rfl
  present _ := rfl
  tagged := by
    intro numbered tag kind members readable written
    have content : Document.content (Json.object members) = .ok (.object members) :=
      if_pos readable
    show (Document.content (Json.object members) >>= fun value => Json.tagged [] tag value) = _
    rw [content]
    exact tagged_object written

theorem looks_held : Looks Held.mk where
  text _ := rfl
  flag _ := rfl
  picked _ := rfl
  present _ := rfl
  tagged _ written := tagged_object written

/-- **A tag is found in any order of the members**, and the other parts are the other members. -/
theorem Looks.tagged_settled {node : Type} [Document node] {wrap : Json → node}
    (looks : Looks wrap) {settle : Json → Json} (settles : Settles settle) (numbered : List String)
    {tag kind : String} {parts : List (String × Json)}
    (distinct : (((tag, Json.string kind) :: parts).map Prod.fst).Nodup)
    (readable : (Json.object ((tag, .string kind) :: parts)).isReadable = true) :
    ∃ others, Document.tagged numbered tag
        (wrap (settle (.object ((tag, .string kind) :: parts)))) = .ok (kind, .named others) ∧
      ∀ key, valuesOf key others = (valuesOf key parts).map settle := by
  have untagged : valuesOf tag parts = [] := by
    rw [List.map_cons, List.nodup_cons] at distinct
    exact Fields.valuesOf_eq_nil_of_notMem distinct.1
  obtain ⟨others, laidOut, values⟩ := settles.object distinct
  have kept : (Json.object others).isReadable = true := laidOut ▸ settles.readable readable
  have told : valuesOf tag others = [.string kind] := by
    rw [values, valuesOf_cons, if_pos rfl, untagged, List.map_singleton,
      settles.fixed (normal_string kind)]
  refine ⟨others.filter fun member => member.1 != tag, ?_, fun key => ?_⟩
  · rw [laidOut]
    exact looks.tagged kept told
  · rw [Fields.valuesOf_filter_ne, values, valuesOf_cons]
    by_cases same : key = tag
    · rw [if_pos same, same, untagged]
      rfl
    · rw [if_neg same, if_neg (Ne.symm same)]

end Json

/-! ### Texts, truth values and cardinalities -/

section Settled

variable {node : Type} [Document node] {wrap : Json → node} {settle : Json → Json}
  (looks : Json.Looks wrap) (settles : Json.Settles settle)

include looks settles

theorem roundTrips_settled_text :
    RoundTrips (fun text => wrap (settle (.string text))) Document.text := by
  intro text
  show Document.text (wrap (settle (.string text))) = .ok text
  rw [settles.fixed (Json.normal_string text)]
  exact looks.text text

theorem roundTrips_settled_flag :
    RoundTrips (fun flag => wrap (settle (.bool flag))) Document.flag := by
  intro flag
  show Document.flag (wrap (settle (.bool flag))) = .ok flag
  rw [settles.fixed (Json.normal_bool flag)]
  exact looks.flag flag

/-- **A cardinality is read back.** -/
theorem Cardinality.roundTrips_settled :
    RoundTrips (fun cardinality : Cardinality => wrap (settle cardinality.toJson)) decode := by
  intro cardinality
  show decode (wrap (settle (.string cardinality.name))) = .ok cardinality
  rw [settles.fixed (Json.normal_string _)]
  unfold decode Document.pick
  rw [looks.picked]
  cases cardinality <;> rfl

end Settled

/-! ### Value types -/

namespace ValueType

/-- The tag of a value type. -/
def tag : ValueType → String
  | .string => "string"
  | .integer => "integer"
  | .float => "float"
  | .double => "double"
  | .boolean => "boolean"
  | .geometry _ => "geometry"
  | .custom _ _ => "custom"

/-- The members that are written of a value type besides its tag. -/
def parts : ValueType → List (String × Json)
  | .geometry srid => [("srid", Json.ofWord srid)]
  | .custom name options => [("name", .string name), ("options", .object options.entries)]
  | _ => []

theorem toJson_eq (valueType : ValueType) :
    valueType.toJson = .object (("type", .string valueType.tag) :: valueType.parts) := by
  cases valueType <;> rfl

/-- **The options hold no double.** What they hold is in normal form, as every value is that is
held and not only read. -/
def IsPlain : ValueType → Prop
  | .custom _ options =>
    ∀ entry ∈ options.entries, entry.2.isExact = true ∧ entry.2.normal = entry.2
  | _ => True

/-- What a plain value type is written to is told by its text. -/
theorem isExact_toJson {valueType : ValueType} (plain : valueType.IsPlain) :
    valueType.toJson.isExact = true := by
  cases valueType with
  | custom name options =>
      have exact : Json.allMembersExact options.entries = true := by
        rw [Json.allMembersExact_eq_all, List.all_eq_true]
        exact fun entry listed => (plain entry listed).1
      simp [toJson, exact]
  | _ => simp [toJson]

theorem normalMembers_options {name : String} {options : TypeOptions}
    (plain : IsPlain (.custom name options)) :
    Json.normalMembers options.entries = options.entries := by
  rw [Json.normalMembers_eq_map]
  refine List.map_congr_left (fun entry listed => ?_) |>.trans (List.map_id _)
  rw [(plain entry listed).2]
  rfl

/-- **Options are read back**, as they are in normal form. -/
theorem options_ofContent {name : String} {options : TypeOptions}
    (plain : IsPlain (.custom name options)) {settle : Json → Json}
    (settles : Json.Settles settle) :
    TypeOptions.ofContent (settle (.object options.entries)) = .ok options := by
  have members := normalMembers_options plain
  have normal : (Json.object options.entries).normal = .object options.entries := by
    rw [Json.normal, members, NameMap.ofList_entries]
  rw [settles.fixed normal, TypeOptions.ofContent, members, NameMap.ofList_entries]

/-- **The fields of its tag read a value type** from its other parts. -/
theorem exists_fieldsOfTag {valueType : ValueType} (plain : valueType.IsPlain)
    {settle : Json → Json} (settles : Json.Settles settle) {members : List (String × Json)}
    (values : ∀ key, valuesOf key members = (valuesOf key valueType.parts).map settle) :
    ∃ fields, fieldsOfTag valueType.tag = some fields ∧ Reads fields members valueType := by
  cases valueType with
  | geometry srid =>
      refine ⟨_, rfl, Reads.map (Reads.required roundTrips_word ?_) _⟩
      rw [values]
      simp [parts, settles.fixed (Json.normal_ofWord srid)]
  | custom name options =>
      have nameRead : Reads (.required "name" Document.text) members name :=
        .required (roundTrips_settled_text Json.looks_id settles) (by rw [values]; simp [parts])
      have optionsRead : Reads (.required "options" TypeOptions.ofContent) members options :=
        named_field_eq_ok_iff.mpr (.inr ⟨settle (.object options.entries),
          by rw [values]; simp [parts], options_ofContent plain settles⟩)
      exact ⟨_, rfl, (nameRead.map _).seq optionsRead⟩
  | _ => exact ⟨_, rfl, rfl⟩

/-- **A value type is read back**, in whichever way it is looked at. -/
theorem decode_settled {valueType : ValueType} (plain : valueType.IsPlain) {node : Type}
    [Document node] {wrap : Json → node} (looks : Json.Looks wrap) {settle : Json → Json}
    (settles : Json.Settles settle) : decode (wrap (settle valueType.toJson)) = .ok valueType := by
  have readable := Json.isReadable_of_isExact _ (isExact_toJson plain)
  rw [toJson_eq] at readable ⊢
  have distinct :
      ((("type", Json.string valueType.tag) :: valueType.parts).map Prod.fst).Nodup := by
    cases valueType <;> simp [parts]
  obtain ⟨others, tagged, values⟩ := looks.tagged_settled settles tags distinct readable
  obtain ⟨fields, known, reads⟩ := exists_fieldsOfTag plain settles values
  unfold decode
  simp only [tagged, bind, Except.bind, known]
  exact reads.ofLayout

end ValueType

/-! ### Properties -/

section Members

variable {node : Type} [Document node] {wrap : Json → node} {settle : Json → Json}
  (looks : Json.Looks wrap) (settles : Json.Settles settle) {members : List (String × node)}

include looks settles

/-- **An attribute is read back** from its members. -/
theorem Attribute.reads_settled {value : Attribute} (plain : value.valueType.IsPlain)
    (values : ∀ key, valuesOf key members
      = (valuesOf key value.toMembers).map fun member => wrap (settle member)) :
    Reads fields members value := by
  have valueType : Reads (.required "type" ValueType.decode) members value.valueType :=
    named_field_eq_ok_iff.mpr (.inr ⟨wrap (settle value.valueType.toJson),
      by rw [values]; simp [toMembers], ValueType.decode_settled plain looks settles⟩)
  refine Reads.required (roundTrips_settled_text looks settles) ?name |>.map _
    |>.seq (.defaulted (roundTrips_settled_flag looks settles) ?identifier)
    |>.seq valueType
    |>.seq (.required (Cardinality.roundTrips_settled looks settles) ?cardinality)
  all_goals rw [values]; simp [toMembers]

/-- **A relation is read back** from its members, whether it has an inverse or not. -/
theorem Relation.reads_settled {relation : Relation}
    (values : ∀ key, valuesOf key members
      = (valuesOf key relation.toMembers).map fun member => wrap (settle member)) :
    Reads fields members relation := by
  obtain ⟨name, identifier, target, cardinality, inverseName, inverseCardinality⟩ := relation
  have text := roundTrips_settled_text looks settles
  have cardinalities := Cardinality.roundTrips_settled looks settles
  have present : ∀ text, Document.isAbsent (wrap (settle (.string text))) = false := fun text => by
    rw [settles.fixed (Json.normal_string text)]
    exact looks.present text
  refine Reads.required text ?name |>.map _
    |>.seq (.defaulted (roundTrips_settled_flag looks settles) ?identifier)
    |>.seq (.required text ?target)
    |>.seq (.required cardinalities ?cardinality)
    |>.seq (.optional text present ?inverseName)
    |>.seq (.optional cardinalities (fun cardinality => present cardinality.name)
      ?inverseCardinality)
  all_goals rw [values]; simp [toMembers, Option.toList_map, Function.comp_def]

end Members

/-- The members of an attribute have names of their own, and none is called like its kind. -/
theorem Attribute.nodup_toMembers (value : Attribute) :
    ("kind" :: value.toMembers.map Prod.fst).Nodup := by
  simp [toMembers]

theorem Relation.nodup_toMembers (relation : Relation) :
    ("kind" :: relation.toMembers.map Prod.fst).Nodup := by
  obtain ⟨_, _, _, _, inverseName, inverseCardinality⟩ := relation
  cases inverseName <;> cases inverseCardinality <;> simp [toMembers, Json.optionalMember]

theorem Attribute.allMembersExact_toMembers {value : Attribute}
    (plain : value.valueType.IsPlain) : Json.allMembersExact value.toMembers = true := by
  simp [toMembers, Cardinality.toJson, ValueType.isExact_toJson plain]

theorem Relation.allMembersExact_toMembers (relation : Relation) :
    Json.allMembersExact relation.toMembers = true := by
  simp [toMembers, Cardinality.toJson]

namespace Property

/-- The tag of a property. -/
def kind : Property → String
  | .ofAttribute _ => "attribute"
  | .ofRelation _ => "relation"

/-- The members that are written of a property besides its tag. -/
def parts : Property → List (String × Json)
  | .ofAttribute value => value.toMembers
  | .ofRelation relation => relation.toMembers

theorem toJson_eq (property : Property) :
    property.toJson = .object (("kind", .string property.kind) :: property.parts) := by
  cases property <;> rfl

/-- The values of the property have a plain type. -/
def IsPlain : Property → Prop
  | .ofAttribute value => value.valueType.IsPlain
  | .ofRelation _ => True

theorem isExact_toJson {property : Property} (plain : property.IsPlain) :
    property.toJson.isExact = true := by
  cases property with
  | ofAttribute value => simp [toJson, Attribute.allMembersExact_toMembers plain]
  | ofRelation relation => simp [toJson, Relation.allMembersExact_toMembers]

/-- **The members behind the kind are held** until the kind is known. -/
theorem exists_held {property : Property} (plain : property.IsPlain) {settle : Json → Json}
    (settles : Json.Settles settle) : ∃ members, Document.tagged kinds "kind"
        (settle property.toJson) = .ok (property.kind, .named members) ∧
      ∀ key, valuesOf key (members.map fun member => (member.1, Json.Held.mk member.2))
        = (valuesOf key property.parts).map fun value => ⟨settle value⟩ := by
  have readable := Json.isReadable_of_isExact _ (isExact_toJson plain)
  rw [toJson_eq] at readable ⊢
  have distinct : ((("kind", Json.string property.kind) :: property.parts).map Prod.fst).Nodup := by
    cases property with
    | ofAttribute value => exact value.nodup_toMembers
    | ofRelation relation => exact relation.nodup_toMembers
  -- the property is looked at itself for its kind, and its members are looked at as held
  obtain ⟨members, tagged, values⟩ :=
    Json.looks_id.tagged_settled settles kinds distinct readable
  refine ⟨members, tagged, fun key => ?_⟩
  rw [Json.valuesOf_map, values, List.map_map]
  rfl

/-- **A property is read back**, by the fields of its kind. -/
theorem decode_settled {property : Property} (plain : property.IsPlain) {settle : Json → Json}
    (settles : Json.Settles settle) : decode (settle property.toJson) = .ok property := by
  obtain ⟨members, tagged, held⟩ := exists_held plain settles
  unfold decode
  rw [tagged]
  cases property with
  | ofAttribute value =>
      have reads := Attribute.reads_settled Json.looks_held settles plain held
      show (Attribute.fields.ofLayout (.named _) >>= fun value => pure (ofAttribute value)) = _
      rw [reads.ofLayout]
      rfl
  | ofRelation relation =>
      have reads := Relation.reads_settled Json.looks_held settles held
      show (Relation.fields.ofLayout (.named _) >>= fun relation => pure (ofRelation relation)) = _
      rw [reads.ofLayout]
      rfl

/-- **What is written tells properties apart.** -/
theorem eq_of_normal_toJson {first second : Property} (plain : first.IsPlain)
    (plainSecond : second.IsPlain) (same : first.toJson.normal = second.toJson.normal) :
    first = second := by
  have read := decode_settled plain Json.settles_normal
  rw [same, decode_settled plainSecond Json.settles_normal] at read
  exact (Except.ok.inj read).symm

end Property

/-- **An attribute by itself is read back.** -/
theorem Attribute.decode_settled {value : Attribute} (plain : value.valueType.IsPlain)
    {settle : Json → Json} (settles : Json.Settles settle) :
    fields.decode (settle value.toJson) = .ok value := by
  obtain ⟨others, laidOut, values⟩ := settles.object value.nodup_toMembers.of_cons
  rw [toJson, laidOut]
  exact (Attribute.reads_settled Json.looks_id settles plain values).decode_object

/-- **A relation by itself is read back.** -/
theorem Relation.decode_settled (relation : Relation) {settle : Json → Json}
    (settles : Json.Settles settle) : fields.decode (settle relation.toJson) = .ok relation := by
  obtain ⟨others, laidOut, values⟩ := settles.object relation.nodup_toMembers.of_cons
  rw [toJson, laidOut]
  exact (Relation.reads_settled Json.looks_id settles values).decode_object

/-! ### Object types and models -/

theorem Json.ofTexts_injective : Function.Injective ofTexts := by
  intro first second same
  exact List.map_injective_iff.mpr (fun _ _ => Json.string.inj) (Json.array.inj same)

namespace ObjectType

/-- All properties are plain. -/
def IsPlain (objectType : ObjectType) : Prop :=
  ∀ name property, objectType.property? name = some property → property.IsPlain

theorem isExact_toJson {objectType : ObjectType} (plain : objectType.IsPlain) :
    objectType.toJson.isExact = true := by
  have properties := NameMap.isExact_toJson fun name property found =>
    Property.isExact_toJson (plain name property found)
  unfold toJson
  split <;> simp [properties]

/-- **What is written tells object types apart**, those without supertypes as well. -/
theorem eq_of_normal_toJson {first second : ObjectType} (plain : first.IsPlain)
    (plainSecond : second.IsPlain) (same : first.toJson.normal = second.toJson.normal) :
    first = second := by
  have found := Json.getLast?_eq_of_normal_eq same
  obtain ⟨name, supertypes, properties⟩ := first
  obtain ⟨otherName, otherSupertypes, otherProperties⟩ := second
  have names : name = otherName := by
    have found := found "name"
    split at found <;> split at found <;> simpa using found
  have lists : supertypes = otherSupertypes := by
    have found := found "supertypes"
    cases supertypes <;> cases otherSupertypes <;> simp at found
    · rfl
    · exact Json.ofTexts_injective found
  have tables : properties = otherProperties := by
    refine NameMap.eq_of_normal_toJson (fun _ _ => Property.eq_of_normal_toJson) plain plainSecond
      ?_
    have found := found "properties"
    split at found <;> split at found <;> simpa using found
  rw [names, lists, tables]

end ObjectType

namespace Model

/-- All object types have plain properties. -/
def IsPlain (model : Model) : Prop :=
  ∀ name objectType, model.objectType? name = some objectType → objectType.IsPlain

theorem isExact_toJson {model : Model} (plain : model.IsPlain) : model.toJson.isExact = true := by
  have objectTypes := NameMap.isExact_toJson fun name objectType found =>
    ObjectType.isExact_toJson (plain name objectType found)
  simp [toJson, objectTypes]

/-- **What is written tells models apart**, those without an alias as well. -/
theorem eq_of_normal_toJson {first second : Model} (plain : first.IsPlain)
    (plainSecond : second.IsPlain) (same : first.toJson.normal = second.toJson.normal) :
    first = second := by
  have found := Json.getLast?_eq_of_normal_eq same
  obtain ⟨aliasName, objectTypes⟩ := first
  obtain ⟨otherAlias, otherTypes⟩ := second
  have names : aliasName = otherAlias := by
    have found := found "alias"
    cases aliasName <;> cases otherAlias <;> simp [Json.optionalMember] at found
    · rfl
    · rw [found]
  have tables : objectTypes = otherTypes := by
    refine NameMap.eq_of_normal_toJson (fun _ _ => ObjectType.eq_of_normal_toJson) plain plainSecond
      ?_
    simpa using found "objectTypes"
  rw [names, tables]

/-- **What is written as text tells models apart.** -/
theorem eq_of_compact_toJson {first second : Model} (plain : first.IsPlain)
    (plainSecond : second.IsPlain) (same : first.toJson.compact = second.toJson.compact) :
    first = second := by
  have parsed := Json.parse_compact (isExact_toJson plain)
  rw [same, Json.parse_compact (isExact_toJson plainSecond)] at parsed
  exact eq_of_normal_toJson plain plainSecond (congrArg Json.normal (Except.ok.inj parsed).symm)

end Model

end InfoModel
