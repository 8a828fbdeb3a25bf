/-
**Tables and values in normal form, read by name.**

A table has at most one value of a name, and the table of a list of entries has the last one that
is listed. So a table is made from its own entries again, and an object in normal form tells the
members of an object, however they are ordered.

* `NameMap.get?_ofList`, `NameMap.valuesOf_entries`: the values of a name in a table;
  `NameMap.ofList_entries` puts them together;
* `Json.exists_normal_object`: the values of a name in an object in normal form, which is readable
  if the object is (`Json.isReadable_normal`);
* `NameMap.eq_of_normal_toJson`: a table is determined by the normal form of what it is written to,
  if its values are.
-/

import InfoModel.Document.Schema
import InfoModel.Proofs.Document.Fields
import InfoModel.Proofs.Json.Nesting
import InfoModel.Proofs.NameMap
import Mathlib.Data.List.Induction

namespace InfoModel

open Fields (valuesOf valuesOf_cons valuesOf_append)

/-! ### Tables -/

namespace NameMap

variable {α β : Type}

/-- **The table of a list of entries has the last value of a name.** -/
theorem get?_ofList (entries : List (String × α)) (name : String) :
    (ofList entries).get? name = (valuesOf name entries).getLast? := by
  induction entries using List.reverseRecOn with
  | nil => rfl
  | append_singleton entries entry ih =>
      obtain ⟨key, value⟩ := entry
      have step : ofList (entries ++ [(key, value)]) = (ofList entries).insert key value := by
        simp [ofList]
      rw [step, get?_insert, valuesOf_append, valuesOf_cons, Fields.valuesOf_nil]
      by_cases same : name = key
      · rw [if_pos same, if_pos same.symm, List.getLast?_concat]
      · rw [if_neg same, if_neg (Ne.symm same), List.append_nil, ih]

theorem valuesOf_of_sorted {entries : List (String × α)}
    (sorted : entries.Pairwise fun first second => first.1 < second.1) (name : String) :
    valuesOf name entries = (lookup name entries).toList := by
  induction entries with
  | nil => rfl
  | cons entry rest ih =>
      obtain ⟨key, value⟩ := entry
      obtain ⟨above, sortedRest⟩ := List.pairwise_cons.mp sorted
      rw [valuesOf_cons, lookup, ih sortedRest]
      by_cases same : key = name
      · subst same
        have once : lookup key rest = none := by
          refine Option.eq_none_iff_forall_ne_some.mpr fun other found => ?_
          exact String.lt_irrefl _ (above (key, other) ((lookup_eq_some_iff sortedRest).mp found))
        rw [if_pos rfl, if_pos rfl, once]
        rfl
      · rw [if_neg same, if_neg same]

/-- **A table has at most one value of a name.** -/
theorem valuesOf_entries (table : NameMap α) (name : String) :
    valuesOf name table.entries = (table.get? name).toList :=
  valuesOf_of_sorted table.sorted name

/-- **A table is made from its entries.** -/
@[simp] theorem ofList_entries (table : NameMap α) : ofList table.entries = table := by
  refine ext_get? fun name => ?_
  rw [get?_ofList, valuesOf_entries]
  cases table.get? name <;> rfl

/-- What is in the table of a list of entries is listed. -/
theorem mem_of_mem_ofList {entries : List (String × α)} {entry : String × α}
    (inside : entry ∈ (ofList entries).entries) : entry ∈ entries := by
  obtain ⟨name, value⟩ := entry
  rw [← get?_eq_some_iff, get?_ofList] at inside
  obtain ⟨⟨key, other⟩, found, rfl⟩ := List.mem_map.mp (List.mem_of_getLast? inside)
  obtain ⟨listed, same⟩ := List.mem_filter.mp found
  obtain rfl : key = name := beq_iff_eq.mp same
  exact listed

/-- What a table is written to has what its values are written to. -/
theorem toJson_eq (encode : α → Json) (table : NameMap α) :
    table.toJson encode = .object (table.map encode).entries := rfl

/-- What a table is written to is exact if what its values are written to is. -/
theorem isExact_toJson {encode : α → Json} {table : NameMap α}
    (exact : ∀ name value, table.get? name = some value → (encode value).isExact = true) :
    (table.toJson encode).isExact = true := by
  rw [toJson_eq, Json.isExact_object, Json.allMembersExact_eq_all, NameMap.map, List.all_map,
    List.all_eq_true]
  exact fun entry listed => exact entry.1 entry.2 (get?_eq_some_iff.mpr listed)

/-- What a table is written to is deeper by one than what its values are written to. -/
theorem depth_toJson_le {encode : α → Json} {table : NameMap α} {limit : Nat}
    (shallow : ∀ value, (encode value).depth ≤ limit) :
    (table.toJson encode).depth ≤ limit + 1 := by
  rw [toJson_eq, Json.depth_object_le, Json.membersDepth_le_iff]
  intro member listed
  obtain ⟨entry, -, rfl⟩ := List.mem_map.mp listed
  exact shallow entry.2

end NameMap

/-! ### Objects -/

namespace Json

theorem normalMembers_eq_map (members : List (String × Json)) :
    normalMembers members = members.map fun member => (member.1, member.2.normal) := by
  induction members with
  | nil => rfl
  | cons member rest ih => rw [normalMembers, List.map_cons, ih]

theorem normalItems_eq_map (items : List Json) : normalItems items = items.map normal := by
  induction items with
  | nil => rfl
  | cons item rest ih => rw [normalItems, List.map_cons, ih]

mutual

/-- **What is readable has a readable normal form.** -/
theorem isReadable_normal : ∀ {json : Json}, json.isReadable = true → json.normal.isReadable = true
  | .null, _ => rfl
  | .bool _, _ => rfl
  | .number _, _ => rfl
  | .string _, _ => rfl
  | .array _, readable => allReadable_normalItems readable
  | .object members, readable => by
      have values := allMembersReadable_normalMembers readable
      rw [allMembersReadable_eq_all, List.all_eq_true] at values
      rw [normal, isReadable, allMembersReadable_eq_all, List.all_eq_true]
      exact fun entry inside => values entry (NameMap.mem_of_mem_ofList inside)

theorem allReadable_normalItems :
    ∀ {items : List Json}, allReadable items = true → allReadable (normalItems items) = true
  | [], _ => rfl
  | _ :: _, readable => by
      obtain ⟨item, rest⟩ := Bool.and_eq_true_iff.mp readable
      exact Bool.and_eq_true_iff.mpr ⟨isReadable_normal item, allReadable_normalItems rest⟩

theorem allMembersReadable_normalMembers : ∀ {members : List (String × Json)},
    allMembersReadable members = true → allMembersReadable (normalMembers members) = true
  | [], _ => rfl
  | _ :: _, readable => by
      obtain ⟨value, rest⟩ := Bool.and_eq_true_iff.mp readable
      exact Bool.and_eq_true_iff.mpr
        ⟨isReadable_normal value, allMembersReadable_normalMembers rest⟩

end

@[simp] theorem normal_string (text : String) : (string text).normal = string text := rfl

@[simp] theorem normal_bool (flag : Bool) : (bool flag).normal = bool flag := rfl

@[simp] theorem normal_ofWord (value : UInt32) : (ofWord value).normal = ofWord value := rfl

@[simp] theorem normal_ofTexts (texts : List String) : (ofTexts texts).normal = ofTexts texts := by
  unfold ofTexts
  rw [normal, normalItems_eq_map, List.map_map]
  rfl

/-- The values of a name, changed. -/
theorem valuesOf_map {node other : Type} (change : node → other) (key : String)
    (members : List (String × node)) :
    valuesOf key (members.map fun member => (member.1, change member.2))
      = (valuesOf key members).map change := by
  induction members with
  | nil => rfl
  | cons member rest ih =>
      rw [List.map_cons, valuesOf_cons, valuesOf_cons, ih]
      by_cases same : member.1 = key
      · rw [if_pos same, if_pos same, List.map_cons]
      · rw [if_neg same, if_neg same]

/-- **An object in normal form has the last value of a name, in normal form.** -/
theorem exists_normal_object (members : List (String × Json)) :
    ∃ others, (object members).normal = .object others ∧
      ∀ key, valuesOf key others = ((valuesOf key members).map normal).getLast?.toList := by
  refine ⟨_, rfl, fun key => ?_⟩
  rw [NameMap.valuesOf_entries, NameMap.get?_ofList, normalMembers_eq_map, valuesOf_map]

/-- **Objects with the same normal form have the same last values.** -/
theorem getLast?_eq_of_normal_eq {members others : List (String × Json)}
    (same : (object members).normal = (object others).normal) (key : String) :
    ((valuesOf key members).map normal).getLast? = ((valuesOf key others).map normal).getLast? := by
  have entries := Json.object.inj same
  have tables := congrArg NameMap.ofList entries
  rw [NameMap.ofList_entries, NameMap.ofList_entries] at tables
  have found := congrArg (NameMap.get? · key) tables
  rw [NameMap.get?_ofList, NameMap.get?_ofList, normalMembers_eq_map, normalMembers_eq_map,
    valuesOf_map, valuesOf_map] at found
  exact found

/-- Names that are all different have one value at most. -/
theorem length_valuesOf_le {members : List (String × Json)}
    (distinct : (members.map Prod.fst).Nodup) (key : String) :
    (valuesOf key members).length ≤ 1 := by
  induction members with
  | nil => exact Nat.zero_le 1
  | cons member rest ih =>
      rw [List.map_cons, List.nodup_cons] at distinct
      rw [valuesOf_cons]
      by_cases same : member.1 = key
      · subst same
        have none : valuesOf member.1 rest = [] := by
          refine List.map_eq_nil_iff.mpr (List.filter_eq_nil_iff.mpr fun other listed named => ?_)
          exact distinct.1 (List.mem_map.mpr ⟨other, listed, beq_iff_eq.mp named⟩)
        rw [if_pos rfl, none]
        exact Nat.le_refl 1
      · rw [if_neg same]
        exact ih distinct.2

end Json

/-- **A table is determined by the normal form of what it is written to**, if its values are
determined by the normal forms of what they are written to. -/
theorem NameMap.eq_of_normal_toJson {α : Type} {encode : α → Json} {good : α → Prop}
    (determined : ∀ value other, good value → good other →
      (encode value).normal = (encode other).normal → value = other) {table others : NameMap α}
    (goodTable : ∀ name value, table.get? name = some value → good value)
    (goodOthers : ∀ name value, others.get? name = some value → good value)
    (same : (table.toJson encode).normal = (others.toJson encode).normal) : table = others := by
  refine NameMap.ext_get? fun name => ?_
  rw [toJson_eq, toJson_eq] at same
  have found := Json.getLast?_eq_of_normal_eq same name
  rw [valuesOf_entries, valuesOf_entries, get?_map, get?_map] at found
  cases first : table.get? name with
  | none =>
      cases second : others.get? name with
      | none => rfl
      | some other => simp [first, second] at found
  | some value =>
      cases second : others.get? name with
      | none => simp [first, second] at found
      | some other =>
          simp only [first, second, Option.map_some, Option.toList_some, List.map_cons,
            List.map_nil, List.getLast?_singleton, Option.some.injEq] at found
          rw [determined value other (goodTable name value first) (goodOthers name other second)
            found]

end InfoModel
