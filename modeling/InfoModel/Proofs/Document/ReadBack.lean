/-
**Stored models tell what was stored.**

A property is read back from the value that it is written to, and from a text of that value just if
the text is not nested too deep. Only the options of a type can nest it that deep.

* `Json.depth_le_of_tagged`: a tag is looked for in values that are readable to the last leaf, so a
  property or a value type that is read has been looked into as a whole. An attribute has one member
  of this kind (`Attribute.depth_le_of_decode`), and a relation has none;
* `ReadBack.of_settled` puts together what it is to be read back;
* `Model.told_by_toJson` says so of properties, and that models that are built from properties are
  the same if they are written to the same. `Property.nested_refused` is a property whose text is
  refused.
-/

import InfoModel.Proofs.Document.Schema
import InfoModel.Proofs.Drafts

namespace InfoModel

open Fields (valuesOf named_field_eq_ok_iff named_seq_eq_ok_iff)

/-! ### What was looked into -/

namespace Json

/-- A member that stands somewhere is a value of its name. -/
theorem mem_valuesOf {node : Type} {members : List (String × node)} {member : String × node}
    (listed : member ∈ members) : member.2 ∈ valuesOf member.1 members :=
  List.mem_map_of_mem (List.mem_filter.mpr ⟨listed, beq_iff_eq.mpr rfl⟩)

/-- The values of a name, down to a depth. -/
theorem valuesOf_membersUpTo (key : String) (limit : Nat) (members : List (String × Json)) :
    valuesOf key (membersUpTo limit members) = (valuesOf key members).map (upTo limit) := by
  have each : membersUpTo limit members
      = members.map fun member => (member.1, member.2.upTo limit) := by
    induction members with
    | nil => rfl
    | cons member rest ih => rw [membersUpTo, List.map_cons, ih]
  rw [each, valuesOf_map]

theorem Settles.depth_string {settle : Json → Json} (settles : Settles settle) (text : String) :
    (settle (.string text)).depth = 0 := by
  rw [settles.fixed (normal_string text), Json.depth_string]

theorem Settles.depth_bool {settle : Json → Json} (settles : Settles settle) (flag : Bool) :
    (settle (.bool flag)).depth = 0 := by
  rw [settles.fixed (normal_bool flag), Json.depth_bool]

/-- **An object is deeper by one than its members**, in whichever order they are. -/
theorem Settles.depth_object_le {settle : Json → Json} (settles : Settles settle)
    {members : List (String × Json)} (distinct : (members.map Prod.fst).Nodup) {limit : Nat}
    (shallow : ∀ member ∈ members, (settle member.2).depth ≤ limit) :
    (settle (.object members)).depth ≤ limit + 1 := by
  obtain ⟨others, laidOut, values⟩ := settles.object distinct
  rw [laidOut, Json.depth_object_le, membersDepth_le_iff]
  intro other listed
  have among := mem_valuesOf listed
  rw [values] at among
  obtain ⟨value, found, settled⟩ := List.mem_map.mp among
  obtain ⟨member, kept, rfl⟩ := List.mem_map.mp found
  rw [← settled]
  exact shallow member (List.mem_filter.mp kept).1

/-- **A tag is looked for in what is readable.** -/
theorem isReadable_of_tagged {numbered : List String} {tag : String} {value : Json} {α : Type}
    {next : String × Layout Json → Except DecodeFault α} {result : α}
    (decoded : (Document.tagged numbered tag value >>= next) = .ok result) :
    value.isReadable = true := by
  by_contra unreadable
  have content : Document.content value = .error .malformed := if_neg unreadable
  have steps : Document.tagged numbered tag value
      = (Document.content value >>= fun value => Json.tagged [] tag value) := rfl
  rw [steps, content] at decoded
  cases decoded

/-- What is read by its tag down to a limit is no deeper than that. -/
theorem depth_le_of_tagged {numbered : List String} {tag : String} {value : Json} {limit : Nat}
    {α : Type} {next : String × Layout Json → Except DecodeFault α} {result : α}
    (decoded : (Document.tagged numbered tag (value.upTo limit) >>= next) = .ok result) :
    value.depth ≤ limit :=
  (isReadable_upTo_iff.mp (isReadable_of_tagged decoded)).2

end Json

section Settled

variable {settle : Json → Json} (settles : Json.Settles settle)

include settles

/-- A value type is looked into to its end before it is read as the member of an attribute. -/
theorem Attribute.depth_le_of_decode {value other : Attribute} {limit : Nat}
    (decoded : fields.decode ((settle value.toJson).upTo (limit + 1)) = .ok other) :
    (settle value.toJson).depth ≤ limit + 1 := by
  obtain ⟨others, laidOut, values⟩ := settles.object value.nodup_toMembers.of_cons
  have valueType : (settle value.valueType.toJson).depth ≤ limit := by
    rw [toJson, laidOut] at decoded
    obtain ⟨_, _, front, -, -⟩ := named_seq_eq_ok_iff.mp (Reads.of_decode_object decoded)
    obtain ⟨_, _, -, reads, -⟩ := named_seq_eq_ok_iff.mp front
    have written : valuesOf "type" (Json.membersUpTo limit others)
        = [(settle value.valueType.toJson).upTo limit] := by
      rw [Json.valuesOf_membersUpTo, values]
      simp [toMembers]
    rw [Fields.required, named_field_eq_ok_iff, written] at reads
    obtain ⟨absent, -⟩ | ⟨_, same, read⟩ := reads
    · cases absent
    · rw [← List.head_eq_of_cons_eq same] at read
      exact Json.depth_le_of_tagged read
  refine settles.depth_object_le value.nodup_toMembers.of_cons ?_
  simp [toMembers, Cardinality.toJson, settles.depth_string, settles.depth_bool, valueType]

/-- The members of a relation are texts and a truth value. -/
theorem Relation.depth_settled_le (relation : Relation) : (settle relation.toJson).depth ≤ 1 := by
  refine settles.depth_object_le relation.nodup_toMembers.of_cons ?_
  obtain ⟨_, _, _, _, inverseName, inverseCardinality⟩ := relation
  cases inverseName <;> cases inverseCardinality <;>
    simp [toMembers, Json.optionalMember, Cardinality.toJson, settles.depth_string,
      settles.depth_bool]

end Settled

/-! ### Models built from properties -/

/-- The object type is built from properties that are all good. -/
def ObjectType.MadeOf (good : Property → Prop) (objectType : ObjectType) : Prop :=
  ∃ draft : Draft, draft.build = .ok objectType ∧ ∀ property ∈ draft.properties, good property

/-- The model is built from object types that are built from properties that are all good. -/
def Model.MadeOf (good : Property → Prop) (model : Model) : Prop :=
  ∃ draft : Draft, draft.build = .ok model ∧
    ∀ objectType ∈ draft.objectTypes, objectType.MadeOf good

theorem ObjectType.MadeOf.isPlain {objectType : ObjectType}
    (made : objectType.MadeOf Property.IsPlain) : objectType.IsPlain := by
  obtain ⟨draft, built, plain⟩ := made
  obtain ⟨-, -, -, found⟩ := Draft.build_eq_ok_iff.mp built
  exact fun name property listed => plain property ((found name property).mp listed).1

theorem Model.MadeOf.isPlain {model : Model} (made : model.MadeOf Property.IsPlain) :
    model.IsPlain := by
  obtain ⟨draft, built, plain⟩ := made
  obtain ⟨-, -, found⟩ := Draft.build_eq_ok_iff.mp built
  intro name objectType listed
  exact (plain objectType ((found name objectType).mp listed).1).isPlain

/-! ### Reading back -/

/-- **A value is read back from what it is written to**: with the members as they are written or in
the order of their names. What is printed on one line has the members as they are written. A text
of either is read just if it is not nested too deep, and the value is read then. -/
structure ReadBack {α : Type} (written : Json) (decode : Json → Except DecodeFault α) (value : α) :
    Prop where
  asWritten : decode written = .ok value
  inOrder : decode written.normal = .ok value
  printed : Json.parse written.compact = .ok written
  ofText : ∀ text stored, Json.parse text = .ok stored →
    stored = written ∨ stored = written.normal → ∀ part other,
      Json.decodeText decode part text = .ok other ↔
        other = value ∧ stored.depth ≤ Json.nestingLimit

theorem Json.decodeText_of_parse {α : Type} {decode : Json → Except DecodeFault α} {text : String}
    {stored : Json} (parsed : parse text = .ok stored) (part : Fragment → Except DecodeFault α) :
    decodeText decode part text = decode (stored.upTo nestingLimit) := by
  unfold decodeText
  rw [read_of_parse parsed]

/-- **A value is read back** if it is read from the members in any order, and if these are not
nested too deep whenever something is read from what was looked into. -/
theorem ReadBack.of_settled {α : Type} {written : Json} {decode : Json → Except DecodeFault α}
    {value : α} (exact : written.isExact = true)
    (settled : ∀ {settle}, Json.Settles settle → decode (settle written) = .ok value)
    (shallow : ∀ {settle}, Json.Settles settle → ∀ {other},
      decode ((settle written).upTo Json.nestingLimit) = .ok other →
        (settle written).depth ≤ Json.nestingLimit) :
    ReadBack written decode value where
  asWritten := settled Json.settles_id
  inOrder := settled Json.settles_normal
  printed := Json.parse_compact exact
  ofText := by
    intro text stored parsed laidOut part other
    obtain ⟨settle, settles, rfl⟩ : ∃ settle, Json.Settles settle ∧ stored = settle written := by
      rcases laidOut with rfl | rfl
      · exact ⟨id, Json.settles_id, rfl⟩
      · exact ⟨Json.normal, Json.settles_normal, rfl⟩
    rw [Json.decodeText_of_parse parsed]
    constructor
    · intro decoded
      have fits := shallow settles decoded
      rw [Json.upTo_eq_self fits, settled settles] at decoded
      exact ⟨(Except.ok.inj decoded).symm, fits⟩
    · rintro ⟨rfl, fits⟩
      rw [Json.upTo_eq_self fits, settled settles]

/-- **A property is read back**, from its text just if its type is not nested too deep. -/
theorem Property.readBack {property : Property} (plain : property.IsPlain) :
    ReadBack property.toJson decode property :=
  .of_settled (isExact_toJson plain) (decode_settled plain) fun _ _ decoded =>
    Json.depth_le_of_tagged decoded

theorem ValueType.readBack {valueType : ValueType} (plain : valueType.IsPlain) :
    ReadBack valueType.toJson decode valueType :=
  .of_settled (isExact_toJson plain) (decode_settled plain Json.looks_id) fun _ _ decoded =>
    Json.depth_le_of_tagged decoded

theorem Attribute.readBack {value : Attribute} (plain : value.valueType.IsPlain) :
    ReadBack value.toJson fields.decode value :=
  .of_settled (allMembersExact_toMembers plain) (decode_settled plain) fun settles _ =>
    depth_le_of_decode settles

theorem Relation.readBack (relation : Relation) :
    ReadBack relation.toJson fields.decode relation :=
  .of_settled relation.allMembersExact_toMembers relation.decode_settled fun settles _ _ =>
    (relation.depth_settled_le settles).trans (by decide)

/-- **What is written tells what was written.** Properties, and the attributes, relations and value
types in them, are read back, from a text of them if it is not nested too deep; and models that are
built from properties are the same if they are written to the same members, in whichever order, or
to the same text. -/
theorem Model.told_by_toJson :
    (∀ property : Property, property.IsPlain →
      ReadBack property.toJson Property.decode property) ∧
    (∀ value : Attribute, value.valueType.IsPlain →
      ReadBack value.toJson Attribute.fields.decode value) ∧
    (∀ relation : Relation, ReadBack relation.toJson Relation.fields.decode relation) ∧
    (∀ valueType : ValueType, valueType.IsPlain →
      ReadBack valueType.toJson ValueType.decode valueType) ∧
    ∀ first second : Model, first.MadeOf Property.IsPlain → second.MadeOf Property.IsPlain →
      first.toJson.normal = second.toJson.normal ∨ first.toJson.compact = second.toJson.compact →
        first = second := by
  refine ⟨fun _ => Property.readBack, fun _ => Attribute.readBack, Relation.readBack,
    fun _ => ValueType.readBack, ?_⟩
  intro first second made madeSecond same
  rcases same with members | text
  · exact eq_of_normal_toJson made.isPlain madeSecond.isPlain members
  · exact eq_of_compact_toJson made.isPlain madeSecond.isPlain text

/-! ### Texts that are nested too deep -/

/-- Arrays that stand inside each other, as many as given. -/
def Json.nested : Nat → Json
  | 0 => .null
  | count + 1 => .array [nested count]

/-- An attribute of a host type with one option, which holds as many arrays inside each other. -/
def Property.nested (count : Nat) : Property :=
  .ofAttribute
    { name := "cells", cardinality := .required
      valueType := .custom "Grid" ⟨[("axes", Json.nested count)], List.pairwise_singleton _ _⟩ }

theorem Json.depth_nested (count : Nat) : (nested count).depth = count := by
  induction count with
  | zero => rfl
  | succ count ih => rw [nested, depth, itemsDepth, itemsDepth, ih, Nat.max_zero]

theorem Property.isPlain_nested (count : Nat) : (nested count).IsPlain := by
  have leaves : (Json.nested count).isExact = true ∧
      (Json.nested count).normal = Json.nested count := by
    induction count with
    | zero => exact ⟨rfl, rfl⟩
    | succ count ih =>
        simp [Json.nested, Json.isExact, Json.allExact, Json.normal, Json.normalItems, ih]
  intro entry listed
  obtain rfl := List.mem_singleton.mp listed
  exact leaves

/-- The options stand in their type, and the type in its property. -/
theorem Property.depth_nested (count : Nat) : (nested count).toJson.depth = count + 3 := by
  simp [nested, toJson, Attribute.toMembers, ValueType.toJson, Cardinality.toJson, Json.depth,
    Json.depth_nested]

/-- **A text that is nested too deep is refused**, although its value would be read. -/
theorem Property.nested_refused :
    (nested 128).IsPlain ∧ decode (nested 128).toJson = .ok (nested 128) ∧
    Json.parse (nested 128).toJson.compact = .ok (nested 128).toJson ∧
    ¬ ∀ property : Property, property.IsPlain →
      Json.decodeText decode decode property.toJson.compact = .ok property := by
  have readBack := readBack (isPlain_nested 128)
  refine ⟨isPlain_nested 128, readBack.asWritten, readBack.printed, fun claimed => ?_⟩
  have decoded := claimed (nested 128) (isPlain_nested 128)
  have fits := ((readBack.ofText _ _ readBack.printed (.inl rfl) _ _).mp decoded).2
  rw [depth_nested] at fits
  exact absurd fits (by decide)

/-! ### Properties and models that are told -/

/-- An attribute of a host type whose options are nested and have members that are called like
tags. -/
def Property.gridded : Property :=
  .ofAttribute
    { name := "cells", identifier := true, cardinality := .multi
      valueType := .custom "Grid"
        ⟨[("axes", .array [.string "x", .object [("kind", .null), ("type", .string "custom")]]),
          ("type", .object [("srid", .number (.negative 1))])], by decide⟩ }

/-- A relation with half an inverse. -/
def Property.adjoining : Property :=
  .ofRelation { name := "next", target := "Tile", cardinality := .optional,
                inverseCardinality := some .optional }

/-- A model of one object type, whose properties are listed in the order of their names. -/
def Model.tiled : Model :=
  ⟨none, ⟨[("Tile", ⟨"Tile", [], ⟨[("cells", .gridded), ("next", .adjoining)], by decide⟩⟩)],
    by decide⟩⟩

/-- The model whose properties are put together in another order. -/
def Model.retiled : Model :=
  ⟨none, NameMap.ofList
    [("Tile", ⟨"Tile", [], NameMap.ofList [("next", .adjoining), ("cells", .gridded)]⟩)]⟩

theorem Property.isPlain_gridded : gridded.IsPlain := by
  intro entry listed
  simp only [List.mem_cons, List.not_mem_nil, or_false] at listed
  rcases listed with rfl | rfl <;> exact ⟨rfl, rfl⟩

theorem Model.madeOf_tiled : tiled.MadeOf Property.IsPlain := by
  refine ⟨{ objectTypes := tiled.objectTypes.values }, rfl, fun objectType listed => ?_⟩
  obtain rfl := List.mem_singleton.mp listed
  refine ⟨{ name := "Tile", properties := [.gridded, .adjoining] }, rfl, fun property among => ?_⟩
  simp only [List.mem_cons, List.not_mem_nil, or_false] at among
  rcases among with rfl | rfl
  · exact Property.isPlain_gridded
  · exact trivial

theorem Model.told_by_toJson_tiled :
    (Property.gridded.IsPlain ∧ ReadBack Property.gridded.toJson Property.decode .gridded) ∧
    ((Property.nested 124).IsPlain ∧ Json.decodeText Property.decode Property.decode
      (Property.nested 124).toJson.compact = .ok (.nested 124)) ∧
    tiled.MadeOf Property.IsPlain ∧ retiled.MadeOf Property.IsPlain ∧
    tiled.toJson.normal = retiled.toJson.normal ∧ tiled = retiled := by
  obtain ⟨properties, -, -, -, models⟩ := told_by_toJson
  have nested := properties (.nested 124) (Property.isPlain_nested 124)
  have fits : (Property.nested 124).toJson.depth ≤ Json.nestingLimit :=
    (Property.depth_nested 124).le
  have retiledMade : retiled.MadeOf Property.IsPlain := madeOf_tiled
  have written : tiled.toJson.normal = retiled.toJson.normal := rfl
  exact ⟨⟨Property.isPlain_gridded, properties .gridded Property.isPlain_gridded⟩,
    ⟨Property.isPlain_nested 124,
      (nested.ofText _ _ nested.printed (.inl rfl) _ _).mpr ⟨rfl, fits⟩⟩,
    madeOf_tiled, retiledMade, written,
    models tiled retiled madeOf_tiled retiledMade (.inl written)⟩

end InfoModel
