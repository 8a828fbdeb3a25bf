/-
**Drafts forget nothing and refuse just the repeated names.**

A draft is the work of calls, one after the other. What it is built to depends on what the calls
add, and the first name that was added before is the reason why it is not built.

* `FirstRepeated` says which name that is, and `firstRepeat?_eq_some_iff` that it is the one found;
* `Model.Draft.ofCalls`, `ObjectType.Draft.ofCalls` are the drafts of calls. They hold what the
  calls add, in that order, and the last alias (`Model.Draft.ofCalls_eq`,
  `ObjectType.Draft.ofCalls_eq`);
* `Model.Draft.Faithful`, `ObjectType.Draft.Faithful` list what a draft owes to its calls;
* `build_ofCalls`: all drafts have it.
-/

import InfoModel.Proofs.Mapping.Inventory
import Mathlib.Data.List.Induction

namespace InfoModel

/-! ### The first repeated name -/

/-- **A name is the first one to be repeated**: it stands in front of itself, and what stands in
front of it is not repeated. -/
def FirstRepeated (names : List String) (name : String) : Prop :=
  ∃ before after, names = before ++ name :: after ∧ before.Nodup ∧ name ∈ before

/-- A name of a list that is not empty stands in front, or behind the first name. -/
theorem exists_split_cons_iff {Good : List String → Prop} {head name : String}
    {rest : List String} :
    (∃ before after, head :: rest = before ++ name :: after ∧ Good before) ↔
      (head = name ∧ Good []) ∨
        ∃ before after, rest = before ++ name :: after ∧ Good (head :: before) := by
  constructor
  · rintro ⟨_ | ⟨first, others⟩, after, parts, good⟩
    · exact .inl ⟨(List.cons.inj parts).1, good⟩
    · obtain ⟨rfl, split⟩ := List.cons.inj parts
      exact .inr ⟨others, after, split, good⟩
  · rintro (⟨rfl, good⟩ | ⟨before, after, rfl, good⟩)
    · exact ⟨[], rest, rfl, good⟩
    · exact ⟨head :: before, after, rfl, good⟩

/-- The search finds a name that was seen or stands in front of itself, and before that only names
that are new. -/
theorem firstRepeat?_eq_some_iff {seen names : List String} {name : String} :
    Pass.firstRepeat? seen names = some name ↔
      ∃ before after, names = before ++ name :: after ∧
        before.Nodup ∧ (∀ other ∈ before, other ∉ seen) ∧ (name ∈ before ∨ name ∈ seen) := by
  induction names generalizing seen with
  | nil => simp [Pass.firstRepeat?]
  | cons head rest ih =>
      rw [Pass.firstRepeat?, exists_split_cons_iff]
      by_cases known : head ∈ seen
      · -- the search ends here, and nothing good can start with the head
        rw [if_pos known]
        grind
      · rw [if_neg known, ih]
        simp only [List.nodup_cons, List.mem_cons]
        grind

theorem firstRepeat?_nil_eq_some_iff {names : List String} {name : String} :
    Pass.firstRepeat? [] names = some name ↔ FirstRepeated names name := by
  rw [firstRepeat?_eq_some_iff]
  simp [FirstRepeated]

/-! ### Drafts of models -/

namespace Model.Draft

/-- A call on the draft of a model. -/
inductive Call where
  | setAlias (aliasName : String)
  /-- Adds an object type, to the draft itself or to a copy of it. -/
  | add (objectType : ObjectType)

/-- The draft after a call. -/
def call (draft : Draft) : Call → Draft
  | .setAlias aliasName => draft.setAlias aliasName
  | .add objectType => draft.add objectType

/-- The draft after calls on an empty one. -/
def ofCalls (calls : List Call) : Draft :=
  calls.foldl call {}

/-- The object type that a call adds. -/
def Call.objectType? : Call → Option ObjectType
  | .setAlias _ => none
  | .add objectType => some objectType

/-- The alias that a call sets. -/
def Call.aliasName? : Call → Option String
  | .setAlias aliasName => some aliasName
  | .add _ => none

/-- The object types that calls add, in their order. -/
def added (calls : List Call) : List ObjectType :=
  calls.filterMap Call.objectType?

/-- The alias that calls set last. -/
def lastAlias? (calls : List Call) : Option String :=
  (calls.filterMap Call.aliasName?).getLast?

theorem ofCalls_concat (calls : List Call) (last : Call) :
    ofCalls (calls ++ [last]) = (ofCalls calls).call last := by
  unfold ofCalls
  rw [List.foldl_concat]

/-- **The draft holds the object types that are added.** -/
theorem objectTypes_ofCalls (calls : List Call) : (ofCalls calls).objectTypes = added calls := by
  induction calls using List.reverseRecOn with
  | nil => rfl
  | append_singleton calls last ih =>
      rw [ofCalls_concat, added, List.filterMap_append]
      cases last with
      | setAlias aliasName => exact ih.trans (List.append_nil _).symm
      | add objectType => exact congrArg (· ++ [objectType]) ih

/-- **The draft has the last alias.** -/
theorem aliasName_ofCalls (calls : List Call) : (ofCalls calls).aliasName = lastAlias? calls := by
  induction calls using List.reverseRecOn with
  | nil => rfl
  | append_singleton calls last ih =>
      rw [ofCalls_concat, lastAlias?, List.filterMap_append]
      cases last with
      | setAlias aliasName => exact (List.getLast?_concat ..).symm
      | add objectType =>
          refine ih.trans (congrArg List.getLast? ?_)
          exact (List.append_nil _).symm

theorem ofCalls_eq (calls : List Call) : ofCalls calls = ⟨lastAlias? calls, added calls⟩ := by
  rw [← aliasName_ofCalls, ← objectTypes_ofCalls]

/-- **What a draft of calls owes to them.** -/
structure Faithful (calls : List Call) : Prop where
  /-- A model is built just if the names of what is added are distinct. -/
  built : (∃ model, (ofCalls calls).build = .ok model) ↔
    ((added calls).map ObjectType.name).Nodup
  /-- The model has the last alias. -/
  aliasName : ∀ model, (ofCalls calls).build = .ok model → model.aliasName = lastAlias? calls
  /-- The model holds what is added, once each and nothing else. -/
  values : ∀ model, (ofCalls calls).build = .ok model →
    model.objectTypes.values.Perm (added calls)
  /-- Under each name the model has the one of this name that is added. -/
  found : ∀ model, (ofCalls calls).build = .ok model → ∀ name objectType,
    model.objectType? name = some objectType ↔ objectType ∈ added calls ∧ objectType.name = name
  /-- It is the same model that is built if the same is added in another order. -/
  unordered : ∀ model, (ofCalls calls).build = .ok model → ∀ others,
    (added calls).Perm (added others) → lastAlias? others = lastAlias? calls →
      (ofCalls others).build = .ok model
  /-- Otherwise the fault is the first name that was added before. -/
  refused : ∀ fault, (ofCalls calls).build = .error fault ↔
    ∃ name, FirstRepeated ((added calls).map ObjectType.name) name ∧
      fault = .duplicateObjectType name

/-- A draft whose object types have distinct names is built. -/
theorem exists_build_eq_ok_iff {draft : Draft} :
    (∃ model, draft.build = .ok model) ↔ (draft.objectTypes.map ObjectType.name).Nodup := by
  constructor
  · rintro ⟨model, built⟩
    exact (build_eq_ok_iff.mp built).1
  · intro distinct
    obtain ⟨table, made⟩ := NameMap.exists_ofDistinct_eq_ok distinct
    exact ⟨⟨draft.aliasName, table⟩, by rw [build, made]⟩

theorem faithful (calls : List Call) : Faithful calls where
  built := by rw [exists_build_eq_ok_iff, objectTypes_ofCalls]
  aliasName model built := by
    rw [(build_eq_ok_iff.mp built).2.1, aliasName_ofCalls]
  values model built := by
    obtain ⟨distinct, -, found⟩ := build_eq_ok_iff.mp built
    rw [← objectTypes_ofCalls]
    exact NameMap.values_perm distinct found
  found model built := by
    rw [← objectTypes_ofCalls]
    exact (build_eq_ok_iff.mp built).2.2
  unordered model built others perm same := by
    rw [ofCalls_eq] at built ⊢
    rw [same]
    exact build_eq_ok_of_perm perm built
  refused fault := by
    rw [build_eq_error_iff, objectTypes_ofCalls]
    simp only [firstRepeat?_nil_eq_some_iff]

end Model.Draft

/-! ### Drafts of object types -/

namespace ObjectType.Draft

/-- A call on the draft of an object type. -/
inductive Call where
  | addSupertype (supertype : String)
  | addProperty (property : Property)
  | addProperties (properties : List Property)

/-- The draft after a call. -/
def call (draft : Draft) : Call → Draft
  | .addSupertype supertype => draft.addSupertype supertype
  | .addProperty property => draft.addProperty property
  | .addProperties properties => draft.addProperties properties

/-- The draft of a name after calls on an empty one. -/
def ofCalls (name : String) (calls : List Call) : Draft :=
  calls.foldl call { name }

/-- The supertypes that a call adds. -/
def Call.supertypes : Call → List String
  | .addSupertype supertype => [supertype]
  | .addProperty _ => []
  | .addProperties _ => []

/-- The properties that a call adds. -/
def Call.properties : Call → List Property
  | .addSupertype _ => []
  | .addProperty property => [property]
  | .addProperties properties => properties

/-- The supertypes that calls add, in their order. -/
def addedSupertypes (calls : List Call) : List String :=
  calls.flatMap Call.supertypes

/-- The properties that calls add, in their order. -/
def added (calls : List Call) : List Property :=
  calls.flatMap Call.properties

variable {name : String}

/-- A call adds its supertypes and its properties. -/
theorem call_eq (draft : Draft) (last : Call) :
    draft.call last =
      ⟨draft.name, draft.supertypes ++ last.supertypes, draft.properties ++ last.properties⟩ := by
  cases last with
  | addSupertype supertype => exact congrArg (Draft.mk _ _) (List.append_nil _).symm
  | addProperty property =>
      exact congrArg (Draft.mk _ · _) (List.append_nil _).symm
  | addProperties properties =>
      exact congrArg (Draft.mk _ · _) (List.append_nil _).symm

/-- **The draft holds the supertypes and the properties that are added**, in their order. -/
theorem ofCalls_eq (name : String) (calls : List Call) :
    ofCalls name calls = ⟨name, addedSupertypes calls, added calls⟩ := by
  induction calls using List.reverseRecOn with
  | nil => rfl
  | append_singleton calls last ih =>
      unfold ofCalls at ih ⊢
      rw [List.foldl_concat, ih, call_eq]
      simp [addedSupertypes, added]

/-- **What a draft of calls owes to them.** -/
structure Faithful (name : String) (calls : List Call) : Prop where
  /-- An object type is built just if the names of the properties are distinct. -/
  built : (∃ objectType, (ofCalls name calls).build = .ok objectType) ↔
    ((added calls).map Property.name).Nodup
  /-- The object type has its name and all supertypes, in their order and as often as added. -/
  supertypes : ∀ objectType, (ofCalls name calls).build = .ok objectType →
    objectType.name = name ∧ objectType.supertypes = addedSupertypes calls
  /-- The object type holds what is added, once each and nothing else. -/
  values : ∀ objectType, (ofCalls name calls).build = .ok objectType →
    objectType.properties.values.Perm (added calls)
  /-- Under each name the object type has the property of this name that is added. -/
  found : ∀ objectType, (ofCalls name calls).build = .ok objectType → ∀ other property,
    objectType.property? other = some property ↔ property ∈ added calls ∧ property.name = other
  /-- It is the same object type that is built if the same is added in another order. -/
  unordered : ∀ objectType, (ofCalls name calls).build = .ok objectType → ∀ others,
    (added calls).Perm (added others) → addedSupertypes others = addedSupertypes calls →
      (ofCalls name others).build = .ok objectType
  /-- Otherwise the fault is the first name that was added before, be it that of an attribute or of
  a relation. -/
  refused : ∀ fault, (ofCalls name calls).build = .error fault ↔
    ∃ repeated, FirstRepeated ((added calls).map Property.name) repeated ∧
      fault = .duplicateProperty name repeated

/-- A draft whose properties have distinct names is built. -/
theorem exists_build_eq_ok_iff {draft : Draft} :
    (∃ objectType, draft.build = .ok objectType) ↔ (draft.properties.map Property.name).Nodup := by
  constructor
  · rintro ⟨objectType, built⟩
    exact (build_eq_ok_iff.mp built).1
  · intro distinct
    obtain ⟨table, made⟩ := NameMap.exists_ofDistinct_eq_ok distinct
    exact ⟨⟨draft.name, draft.supertypes, table⟩, by rw [build, made]⟩

theorem faithful (name : String) (calls : List Call) : Faithful name calls where
  built := by rw [exists_build_eq_ok_iff, ofCalls_eq]
  supertypes objectType built := by
    rw [ofCalls_eq] at built
    obtain ⟨-, sameName, sameSupertypes, -⟩ := build_eq_ok_iff.mp built
    exact ⟨sameName, sameSupertypes⟩
  values objectType built := by
    rw [ofCalls_eq] at built
    obtain ⟨distinct, -, -, found⟩ := build_eq_ok_iff.mp built
    exact NameMap.values_perm distinct found
  found objectType built := by
    rw [ofCalls_eq] at built
    exact (build_eq_ok_iff.mp built).2.2.2
  unordered objectType built others perm same := by
    rw [ofCalls_eq] at built ⊢
    rw [same]
    exact build_eq_ok_of_perm perm built
  refused fault := by
    rw [build_eq_error_iff, ofCalls_eq]
    simp only [firstRepeat?_nil_eq_some_iff]

end ObjectType.Draft

/-- **Drafts forget nothing and refuse just the repeated names**, whatever the calls that make
them. -/
theorem build_ofCalls :
    (∀ calls, Model.Draft.Faithful calls) ∧ ∀ name calls, ObjectType.Draft.Faithful name calls :=
  ⟨Model.Draft.faithful, ObjectType.Draft.faithful⟩

/-- Two object types under an alias that is set twice, and a name that an attribute and a relation
share. -/
theorem build_ofCalls_colliding :
    (∃ model : Model, model.aliasName = some "new" ∧
      (Model.Draft.ofCalls [.setAlias "old", .add ⟨"B", ["C", "C"], .empty⟩, .setAlias "new",
        .add ⟨"A", [], .empty⟩]).build = .ok model ∧
      (Model.Draft.ofCalls [.add ⟨"A", [], .empty⟩, .setAlias "new",
        .add ⟨"B", ["C", "C"], .empty⟩]).build = .ok model) ∧
    (ObjectType.Draft.ofCalls "T" [.addProperty (.ofAttribute ⟨"code", false, .string, .multi⟩),
        .addSupertype "S", .addProperties [.ofRelation ⟨"next", false, "T", .optional, none, none⟩,
        .ofRelation ⟨"code", false, "T", .required, none, none⟩]]).build
      = .error (.duplicateProperty "T" "code") := by
  obtain ⟨models, objectTypes⟩ := build_ofCalls
  have kept := models [.setAlias "old", .add ⟨"B", ["C", "C"], .empty⟩, .setAlias "new",
    .add ⟨"A", [], .empty⟩]
  obtain ⟨model, built⟩ := kept.built.mpr (by decide)
  have reordered := kept.unordered model built
    [.add ⟨"A", [], .empty⟩, .setAlias "new", .add ⟨"B", ["C", "C"], .empty⟩] (.swap ..) rfl
  refine ⟨⟨model, kept.aliasName model built, built, reordered⟩, ?_⟩
  exact ((objectTypes "T" _).refused _).mpr
    ⟨"code", ⟨["code", "next"], [], rfl, by decide, by decide⟩, rfl⟩

end InfoModel
