/-
**An information model is read from its members, whatever their order and whatever is among them.**

For every element of an information model, `changes` lists its members and what may become of each
of them, and `Restated` says what may become of a value that stands for the element:

* the members of its objects may be in another order, at any depth;
* an object that stands for an element may have members besides those of the element. A datatype has
  the members of its kind, and the kind itself;
* an element that is given as a list has its members at their places, and these may be restated.

Element by element, the fields follow these changes. An occurrence and a datatype are looked at as
plain data first, so it takes that their changes are steady (`Occurrence.steady_restated`,
`Datatype.steady_restated`). `InformationModel.decode_restated`: so a model is read from a restated
value just if it is read from the value, and it is the same model.
-/

import InfoModel.Proofs.Document.Restated

namespace InfoModel

open Json (Change Shuffled Steady Record ListOf Extended Aligned Varied steady_shuffled
  steady_listOf steady_record)
open Fields (Follows valuesOf follows_required follows_defaulted follows_optional)

/-! ### Occurrences -/

namespace Occurrence

/-- The bounds of an occurrence. -/
def changes : List (String × Change) :=
  [("min", Shuffled), ("multi", Shuffled)]

/-- **What an occurrence may become.** The bounds are no list. -/
inductive Restated : Change where
  | object {members others : List (String × Json)} (extended : Extended changes members others) :
      Restated (.object members) (.object others)
  | array {items : List Json} {other : Json} (shuffled : Shuffled (.array items) other) :
      Restated (.array items) other
  | leaf {value : Json} (leaf : value.isLeaf = true) : Restated value value

theorem steady_changes : ∀ part ∈ changes, Steady part.2 := by
  simp [changes, steady_shuffled]

theorem steady_restated : Steady Restated where
  isReadable_eq restated := by
    cases restated with
    | object extended => exact extended.allMembersReadable_eq steady_changes
    | array shuffled => exact shuffled.isReadable_eq
    | leaf => rfl
  isNull_eq restated := by
    cases restated with
    | object => rfl
    | array shuffled => exact steady_shuffled.isNull_eq shuffled
    | leaf => rfl

theorem follows : Follows (fields : Fields Json Occurrence) changes :=
  ((follows_defaulted respects_word "min" 0).map Occurrence.mk).seq
    (follows_defaulted respects_flag "multi" false)

theorem respects_ofContent : Respects ofContent Restated := by
  intro value other restated
  cases restated with
  | object extended => exact follows.ofLayout_named fun _ listed => extended.varied listed
  | array shuffled =>
      cases shuffled with
      | leaf leaf => cases leaf
      | array => exact .error
  | leaf => exact .refl _

theorem respects : Respects decode Restated := by
  intro value other restated
  refine (matches_content steady_restated restated).bind fun found again same => ?_
  obtain ⟨rfl, rfl⟩ := same
  exact respects_ofContent _ _ restated

end Occurrence

/-! ### Members -/

namespace AttributeDeclaration

/-- The members of an attribute. -/
def changes : List (String × Change) :=
  [("name", Shuffled), ("identifier", Shuffled), ("occurrence", Occurrence.Restated),
    ("datatype", Shuffled), ("choice", Shuffled)]

theorem follows : Follows (fields : Fields Json AttributeDeclaration) changes :=
  ((follows_required respects_text "name").map AttributeDeclaration.mk)
    |>.seq (follows_defaulted respects_flag "identifier" false)
    |>.seq (follows_optional Occurrence.respects Occurrence.steady_restated "occurrence")
    |>.seq (follows_optional respects_text steady_shuffled "datatype")
    |>.seq (follows_optional respects_texts steady_shuffled "choice")

end AttributeDeclaration

namespace RelationDeclaration

/-- The members of a relation. -/
def changes : List (String × Change) :=
  [("name", Shuffled), ("identifier", Shuffled), ("occurrence", Occurrence.Restated),
    ("target", Shuffled), ("inverseName", Shuffled), ("inverseOccurrence", Occurrence.Restated)]

theorem follows : Follows (fields : Fields Json RelationDeclaration) changes :=
  ((follows_required respects_text "name").map RelationDeclaration.mk)
    |>.seq (follows_defaulted respects_flag "identifier" false)
    |>.seq (follows_optional Occurrence.respects Occurrence.steady_restated "occurrence")
    |>.seq (follows_optional respects_text steady_shuffled "target")
    |>.seq (follows_optional respects_text steady_shuffled "inverseName")
    |>.seq (follows_optional Occurrence.respects Occurrence.steady_restated "inverseOccurrence")

end RelationDeclaration

namespace DatagroupReference

/-- The members of a reference to a datagroup type. -/
def changes : List (String × Change) :=
  [("name", Shuffled), ("occurrence", Occurrence.Restated), ("type", Shuffled)]

theorem follows : Follows (fields : Fields Json DatagroupReference) changes :=
  ((follows_required respects_text "name").map DatagroupReference.mk)
    |>.seq (follows_optional Occurrence.respects Occurrence.steady_restated "occurrence")
    |>.seq (follows_required respects_text "type")

end DatagroupReference

namespace DataElement

/-- The members of a data element. -/
def changes : List (String × Change) :=
  [("name", Shuffled), ("identifier", Shuffled), ("occurrence", Occurrence.Restated),
    ("datatype", Shuffled)]

theorem steady_changes : ∀ part ∈ changes, Steady part.2 := by
  simp [changes, steady_shuffled, Occurrence.steady_restated]

theorem follows : Follows (fields : Fields Json DataElement) changes :=
  ((follows_required respects_text "name").map DataElement.mk)
    |>.seq (follows_defaulted respects_flag "identifier" false)
    |>.seq (follows_optional Occurrence.respects Occurrence.steady_restated "occurrence")
    |>.seq (follows_optional respects_text steady_shuffled "datatype")

end DataElement

namespace Members

/-- The members that hold what an element declares. -/
def changes : List (String × Change) :=
  [("attributes", ListOf (Record AttributeDeclaration.changes)),
    ("relations", ListOf (Record RelationDeclaration.changes)),
    ("datagroups", ListOf (Record DatagroupReference.changes))]

theorem follows : Follows (fields : Fields Json Members) changes :=
  ((follows_defaulted (respects_listOf AttributeDeclaration.follows.respects) "attributes" []).map
      Members.mk)
    |>.seq (follows_defaulted (respects_listOf RelationDeclaration.follows.respects) "relations" [])
    |>.seq (follows_defaulted (respects_listOf DatagroupReference.follows.respects) "datagroups" [])

end Members

/-! ### Datatypes -/

/-- The supertypes are a list of texts. -/
theorem follows_supertypesField :
    Follows (supertypesField : Fields Json (List String)) [("supertypes", Shuffled)] :=
  follows_defaulted respects_texts "supertypes" []

namespace Datatype

/-- The members of the datatypes of a kind. -/
def changesOfKind : String → List (String × Change)
  | "enumeration" => [("name", Shuffled), ("supertypes", Shuffled), ("values", Shuffled)]
  | "codeList" => [("name", Shuffled), ("supertypes", Shuffled), ("location", Shuffled)]
  | "primitive" => [("name", Shuffled), ("supertypes", Shuffled), ("pattern", Shuffled)]
  | "structured" =>
    [("name", Shuffled), ("supertypes", Shuffled),
      ("dataElements", ListOf (Record DataElement.changes))]
  | "referenceList" => [("name", Shuffled), ("supertypes", Shuffled)]
  | _ => []

/-- The members of a datatype whose kind is given by the only one of some values. -/
def changes : List Json → List (String × Change)
  | [.string kind] => ("kind", Shuffled) :: changesOfKind kind
  | _ => [("kind", Shuffled)]

/-- **What a datatype may become.** Its kind is the member of this name, or the first item. -/
inductive Restated : Change where
  | object {members others : List (String × Json)}
      (extended : Extended (changes (valuesOf "kind" members)) members others) :
      Restated (.object members) (.object others)
  | array {items others : List Json} (aligned : Aligned (changes (items.take 1)) items others) :
      Restated (.array items) (.array others)
  | leaf {value : Json} (leaf : value.isLeaf = true) : Restated value value

theorem steady_changesOfKind (kind : String) : ∀ part ∈ changesOfKind kind, Steady part.2 := by
  have elements := steady_listOf (steady_record DataElement.steady_changes)
  unfold changesOfKind
  split <;> simp [steady_shuffled, elements]

theorem steady_changes (tags : List Json) : ∀ part ∈ changes tags, Steady part.2 := by
  unfold changes
  split
  · exact List.forall_mem_cons.mpr ⟨steady_shuffled, steady_changesOfKind _⟩
  · simp [steady_shuffled]

theorem steady_restated : Steady Restated where
  isReadable_eq restated := by
    cases restated with
    | object extended => exact extended.allMembersReadable_eq (steady_changes _)
    | array aligned => exact aligned.allReadable_eq (steady_changes _)
    | leaf => rfl
  isNull_eq restated := by cases restated <;> rfl

/-- **The fields of a kind follow the members of the kind.** -/
theorem follows_of_fieldsOfKind {kind : String} {fields : Fields Json Datatype}
    (known : fieldsOfKind kind = some fields) : Follows fields (changesOfKind kind) := by
  have name := follows_required respects_text "name"
  unfold fieldsOfKind at known
  split at known
  · cases known
    exact (name.map _).seq follows_supertypesField
      |>.seq (follows_defaulted respects_texts "values" [])
  · cases known
    exact (name.map _).seq follows_supertypesField
      |>.seq (follows_optional respects_text steady_shuffled "location")
  · cases known
    exact (name.map _).seq follows_supertypesField
      |>.seq (follows_optional respects_text steady_shuffled "pattern")
  · cases known
    exact (name.map _).seq follows_supertypesField
      |>.seq (follows_defaulted (respects_listOf DataElement.follows.respects) "dataElements" [])
  · cases known
    exact (name.map _).seq follows_supertypesField
  · cases known

/-! #### Kinds -/

/-- What is read of a datatype when its kind is known. -/
def ofParts (found : String × Layout Json) : Except DecodeFault Datatype :=
  match fieldsOfKind found.1 with
  | some fields => fields.ofLayout found.2
  | none => throw .malformed

theorem decode_eq (value : Json) : decode value
    = Document.content value >>= fun value => Json.tagged [] "kind" value >>= ofParts := by
  show (Document.content value >>= Json.tagged [] "kind") >>= ofParts = _
  rw [bind_assoc]

/-- **A datatype is read from an object by the members of its kind.** -/
theorem matches_tagged_object {members others : List (String × Json)}
    (extended : Extended (changes (valuesOf "kind" members)) members others) :
    Matches (· = ·) (Json.tagged [] "kind" (.object members) >>= ofParts)
      (Json.tagged [] "kind" (.object others) >>= ofParts) := by
  have tags : Varied Shuffled (valuesOf "kind" members) (valuesOf "kind" others) := by
    refine extended.varied ?_
    unfold changes
    split <;> exact List.mem_cons_self
  by_cases text : ∃ kind, valuesOf "kind" members = [.string kind]
  · obtain ⟨kind, only⟩ := text
    rw [only] at tags extended
    obtain ⟨other, otherOnly, shuffled⟩ := tags.exists_of_singleton
    cases shuffled
    rw [Json.tagged_object only, Json.tagged_object otherOnly]
    show Matches _ (ofParts (kind, _)) (ofParts (kind, _))
    unfold ofParts
    dsimp only
    cases known : (fieldsOfKind kind : Option (Fields Json Datatype)) with
    | none => exact .error
    | some fields =>
        refine (follows_of_fieldsOfKind known).ofLayout_named fun part listed => ?_
        rw [Fields.valuesOf_filter_ne, Fields.valuesOf_filter_ne]
        by_cases same : part.1 = "kind"
        · rw [if_pos same, if_pos same]
          exact ⟨[], .nil, .nil⟩
        · rw [if_neg same, if_neg same]
          exact extended.varied (List.mem_cons_of_mem _ listed)
  · -- without a kind on the one side there is none on the other
    have noText : ∀ kind, valuesOf "kind" members ≠ [.string kind] := not_exists.mp text
    have otherNoText : ∀ kind, valuesOf "kind" others ≠ [.string kind] := by
      intro kind only
      rw [only] at tags
      obtain ⟨value, back, shuffled⟩ := tags.exists_of_singleton_right
      cases shuffled
      exact noText kind back
    rw [Json.tagged_object_eq_error noText, Json.tagged_object_eq_error otherNoText]
    exact .error

/-- **A datatype is read from a list by the places of its kind.** -/
theorem matches_tagged_array {items others : List Json}
    (aligned : Aligned (changes (items.take 1)) items others) :
    Matches (· = ·) (Json.tagged [] "kind" (.array items) >>= ofParts)
      (Json.tagged [] "kind" (.array others) >>= ofParts) := by
  cases items with
  | nil =>
      cases aligned with
      | ended => exact .error
  | cons tag items =>
      cases tag with
      | string kind =>
          cases aligned with
          | item shuffled aligned =>
              cases shuffled
              show Matches _ (ofParts (kind, _)) (ofParts (kind, _))
              unfold ofParts
              dsimp only
              cases known : (fieldsOfKind kind : Option (Fields Json Datatype)) with
              | none => exact .error
              | some fields => exact (follows_of_fieldsOfKind known).ofLayout_positional aligned
      | number number =>
          cases aligned with
          | item shuffled _ =>
              cases shuffled
              cases number <;> exact .error
      | _ =>
          cases aligned with
          | item shuffled _ =>
              cases shuffled <;> exact .error

theorem respects : Respects decode Restated := by
  intro value other restated
  rw [decode_eq, decode_eq]
  refine (matches_content steady_restated restated).bind fun found again same => ?_
  obtain ⟨rfl, rfl⟩ := same
  cases restated with
  | object extended => exact matches_tagged_object extended
  | array aligned => exact matches_tagged_array aligned
  | leaf => exact .refl _

end Datatype

/-! ### Elements -/

namespace ObjectTypeDeclaration

/-- The members of an object type. -/
def changes : List (String × Change) :=
  [("name", Shuffled), ("abstract", Shuffled), ("supertypes", Shuffled)] ++ Members.changes

theorem follows : Follows (fields : Fields Json ObjectTypeDeclaration) changes :=
  ((follows_required respects_text "name").map ObjectTypeDeclaration.mk)
    |>.seq (follows_defaulted respects_flag "abstract" false)
    |>.seq follows_supertypesField
    |>.seq Members.follows

end ObjectTypeDeclaration

namespace DatagroupTypeDeclaration

/-- The members of a datagroup type. -/
def changes : List (String × Change) :=
  ("name", Shuffled) :: Members.changes

theorem follows : Follows (fields : Fields Json DatagroupTypeDeclaration) changes :=
  ((follows_required respects_text "name").map DatagroupTypeDeclaration.mk).seq Members.follows

end DatagroupTypeDeclaration

namespace Package

/-- The members of a package. -/
def changes : List (String × Change) :=
  [("name", Shuffled), ("objectTypes", ListOf (Record ObjectTypeDeclaration.changes)),
    ("datagroupTypes", ListOf (Record DatagroupTypeDeclaration.changes)),
    ("datatypes", ListOf Datatype.Restated)]

theorem follows : Follows (fields : Fields Json Package) changes :=
  ((follows_required respects_text "name").map Package.mk)
    |>.seq (follows_defaulted (respects_listOf ObjectTypeDeclaration.follows.respects)
      "objectTypes" [])
    |>.seq (follows_defaulted (respects_listOf DatagroupTypeDeclaration.follows.respects)
      "datagroupTypes" [])
    |>.seq (follows_defaulted (respects_listOf Datatype.respects) "datatypes" [])

end Package

namespace InformationModel

/-- The members of an information model. -/
def changes : List (String × Change) :=
  [("name", Shuffled), ("packages", ListOf (Record Package.changes))]

/-- **What an information model may become.** -/
def Restated : Change := Record changes

theorem follows : Follows (fields : Fields Json InformationModel) changes :=
  ((follows_required respects_text "name").map InformationModel.mk).seq
    (follows_defaulted (respects_listOf Package.follows.respects) "packages" [])

/-- **A model is read from a restated value just if it is read from the value.** The order of
members has no part in it, nor have members that no element has. -/
theorem decode_restated {value other : Json} (restated : Restated value other)
    (model : InformationModel) : decode value = .ok model ↔ decode other = .ok model :=
  (follows.respects value other restated).eq_ok_iff model

/-- A model with a code list, and an object type that is given as a list. -/
def tersely : Json :=
  .object
    [("name", .string "M"),
      ("packages", .array [.object
        [("name", .string "P"),
          ("objectTypes", .array [.array [.string "T", .bool false, .array [], .array [.object
            [("name", .string "width"), ("occurrence", .object [("min", Json.ofWord 1)])]]]]),
          ("datatypes", .array [.object
            [("kind", .string "codeList"), ("name", .string "L")]])]])]

/-- The kind stands last, behind values that are no member of a code list. The bounds of the
occurrence have a member more, and so has the model. -/
def verbosely : Json :=
  .object
    [("packages", .array [.object
        [("datatypes", .array [.object
            [("name", .string "L"), ("values", .array []), ("kind", .string "codeList")]]),
          ("objectTypes", .array [.array [.string "T", .bool false, .array [], .array [.object
            [("occurrence", .object [("max", .null), ("min", Json.ofWord 1)]),
              ("name", .string "width")]]]]),
          ("name", .string "P")]]),
      ("version", Json.ofWord 2), ("name", .string "M")]

theorem restated_tersely_verbosely : Restated tersely verbosely := by
  have text : ∀ value, Shuffled (.string value) (.string value) := fun value => .refl _
  have occurrence : Occurrence.Restated (.object [("min", Json.ofWord 1)])
      (.object [("max", .null), ("min", Json.ofWord 1)]) := by
    refine .object (.of_perm [("min", Json.ofWord 1)] [("max", .null)] (.cons ?_ .nil) ?_ ?_
      (.swap _ _ _))
    · exact .of_mem (.head _) (by decide) (.refl _)
    · simp [Occurrence.changes]
    · simp [Json.isReadable]
  have objectType : Record ObjectTypeDeclaration.changes
      (.array [.string "T", .bool false, .array [], .array [.object
        [("name", .string "width"), ("occurrence", .object [("min", Json.ofWord 1)])]]])
      (.array [.string "T", .bool false, .array [], .array [.object
        [("occurrence", .object [("max", .null), ("min", Json.ofWord 1)]),
          ("name", .string "width")]]]) := by
    refine .array (.item (text _) (.item (.refl _) (.item (.refl _) (.item ?_ (.ended _)))))
    refine .array (.cons (.object ?_) .nil)
    refine .of_perm _ [] (.cons (.of_mem (.head _) (by decide) (text _)) (.cons ?_ .nil))
      (List.forall_mem_nil _) (List.forall_mem_nil _) (.swap _ _ _)
    exact .of_mem (.tail _ (.tail _ (.head _))) (by decide) occurrence
  have datatype : Datatype.Restated
      (.object [("kind", .string "codeList"), ("name", .string "L")])
      (.object [("name", .string "L"), ("values", .array []), ("kind", .string "codeList")]) := by
    refine .object (.of_perm [("kind", .string "codeList"), ("name", .string "L")]
      [("values", .array [])] (.cons ?_ (.cons ?_ .nil)) ?_ ?_ ?_)
    · exact .of_mem (.head _) (by decide) (text _)
    · exact .of_mem (.tail _ (.head _)) (by decide) (text _)
    · simp [Datatype.changes, Datatype.changesOfKind]
    · simp [Json.isReadable, Json.allReadable]
    · exact (List.Perm.swap _ _ _).trans (.cons _ (.swap _ _ _))
  refine .object (.of_perm _ [("version", Json.ofWord 2)]
    (.cons (.of_mem (.head _) (by decide) (text _)) (.cons (.of_mem (.tail _ (.head _)) (by decide)
      (.array (.cons (.object ?_) .nil))) .nil)) ?_ ?_
      ((List.Perm.swap _ _ _).trans (.cons _ (.swap _ _ _))))
  · refine .of_perm _ [] (.cons (.of_mem (.head _) (by decide) (text _)) (.cons (.of_mem
      (.tail _ (.head _)) (by decide) (.array (.cons objectType .nil))) (.cons (.of_mem
        (.tail _ (.tail _ (.tail _ (.head _)))) (by decide) (.array (.cons datatype .nil))) .nil)))
      (List.forall_mem_nil _) (List.forall_mem_nil _) (List.reverse_perm _).symm
  · simp [changes]
  · simp [Json.isReadable, Json.ofWord]

theorem decode_restated_verbosely : Restated tersely verbosely ∧ ∃ model,
    decode tersely = .ok model ∧ decode verbosely = .ok model ∧
      model.objectTypes.map (·.members.attributes.map (·.occurrence)) = [[some ⟨1, false⟩]] ∧
      model.datatypes.map (·.form) = [.codeList none] := by
  have restated := restated_tersely_verbosely
  obtain ⟨model, read, occurrences, forms⟩ : ∃ model, decode tersely = .ok model ∧
      model.objectTypes.map (·.members.attributes.map (·.occurrence)) = [[some ⟨1, false⟩]] ∧
      model.datatypes.map (·.form) = [.codeList none] := ⟨_, rfl, rfl, rfl⟩
  exact ⟨restated, model, read, (decode_restated restated model).mp read, occurrences, forms⟩

end InformationModel

end InfoModel
