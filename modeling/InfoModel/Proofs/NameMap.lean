/-
**Lookups in tables keyed by name.**

A table is determined by its lookups, and those of a table of named items are its items.

* `get?_eq_some_iff`: a lookup finds the entries, since no name has two;
* `get?_insert`: an added entry is found, every other name is found as before;
* `ext_get?`: two tables with the same lookups are equal, since both list their entries in order;
* `map` changes all values and no name, so it acts on what a lookup finds (`get?_map`);
* `ofDistinct_eq_ok_iff`: items make a table just if their names are distinct, and then the table
  finds these items and nothing else. So the order of the items does not matter:
  `ofDistinct_eq_ok_of_perm`.
-/

import InfoModel.NameMap
import Mathlib.Data.List.Sort

namespace InfoModel.NameMap

variable {α β : Type}

theorem lookup_eq_some_iff {entries : List (String × α)}
    (sorted : entries.Pairwise fun first second => first.1 < second.1) {name : String} {value : α} :
    lookup name entries = some value ↔ (name, value) ∈ entries := by
  induction entries with
  | nil => simp [lookup]
  | cons head rest ih =>
      obtain ⟨key, found⟩ := head
      obtain ⟨above, sortedRest⟩ := List.pairwise_cons.mp sorted
      rw [lookup, List.mem_cons]
      by_cases same : key = name
      · subst same
        rw [if_pos rfl]
        constructor
        · intro equal
          exact Or.inl (by rw [Option.some.inj equal])
        · rintro (equal | later)
          · rw [(Prod.mk.inj equal).2]
          · exact absurd (above _ later) (String.lt_irrefl key)
      · rw [if_neg same, ih sortedRest]
        constructor
        · exact Or.inr
        · rintro (equal | later)
          · exact absurd (Prod.mk.inj equal).1.symm same
          · exact later

/-- **A lookup finds the entries.** -/
theorem get?_eq_some_iff {table : NameMap α} {name : String} {value : α} :
    table.get? name = some value ↔ (name, value) ∈ table.entries :=
  lookup_eq_some_iff table.sorted

@[simp] theorem get?_empty (name : String) : (empty : NameMap α).get? name = none := rfl

/-- Placing an entry takes it for the one of its name and keeps the others. -/
theorem mem_place_iff {entries : List (String × α)}
    (sorted : entries.Pairwise fun first second => first.1 < second.1) {name : String} {value : α}
    {entry : String × α} :
    entry ∈ place name value entries ↔
      entry = (name, value) ∨ (entry ∈ entries ∧ entry.1 ≠ name) := by
  induction entries with
  | nil => simp [place]
  | cons head rest ih =>
      obtain ⟨above, sortedRest⟩ := List.pairwise_cons.mp sorted
      rw [place]
      split
      · rename_i below
        have ne : entry ∈ head :: rest → entry.1 ≠ name := by
          rintro member rfl
          rcases List.mem_cons.mp member with rfl | later
          · exact String.lt_irrefl _ below
          · exact String.lt_irrefl _ (String.lt_trans below (above entry later))
        rw [List.mem_cons]
        exact or_congr_right ⟨fun member => ⟨member, ne member⟩, And.left⟩
      · rename_i notBelow
        split
        · rename_i headBelow
          rw [List.mem_cons, ih sortedRest, List.mem_cons]
          have headNe : entry = head → entry.1 ≠ name := by
            rintro rfl same
            exact String.lt_irrefl _ (same ▸ headBelow)
          constructor
          · rintro (isHead | isNew | ⟨member, ne⟩)
            · exact Or.inr ⟨Or.inl isHead, headNe isHead⟩
            · exact Or.inl isNew
            · exact Or.inr ⟨Or.inr member, ne⟩
          · rintro (isNew | ⟨isHead | member, ne⟩)
            · exact Or.inr (Or.inl isNew)
            · exact Or.inl isHead
            · exact Or.inr (Or.inr ⟨member, ne⟩)
        · rename_i notAbove
          have same : head.1 = name := name_eq_of_not_lt notAbove notBelow
          rw [List.mem_cons, List.mem_cons]
          constructor
          · rintro (isNew | member)
            · exact Or.inl isNew
            · refine Or.inr ⟨Or.inr member, ?_⟩
              rintro rfl
              exact String.lt_irrefl _ (same ▸ above entry member)
          · rintro (isNew | ⟨rfl | member, ne⟩)
            · exact Or.inl isNew
            · exact absurd same ne
            · exact Or.inr member

/-- **An added entry is found, and every other name is found as before.** -/
theorem get?_insert (table : NameMap α) (name other : String) (value : α) :
    (table.insert name value).get? other =
      if other = name then some value else table.get? other := by
  apply Option.ext
  intro found
  rw [get?_eq_some_iff, insert, mem_place_iff table.sorted]
  by_cases same : other = name
  · subst same
    simp [eq_comm]
  · simp [same, get?_eq_some_iff]

/-- **Tables with the same lookups are equal.** -/
theorem ext_get? {first second : NameMap α} (same : ∀ name, first.get? name = second.get? name) :
    first = second := by
  have mem : ∀ entry, entry ∈ first.entries ↔ entry ∈ second.entries := by
    rintro ⟨name, value⟩
    rw [← get?_eq_some_iff, same, get?_eq_some_iff]
  have irrefl : Std.Irrefl fun first second : String × α => first.1 < second.1 :=
    ⟨fun entry => String.lt_irrefl entry.1⟩
  have antisymm : Std.Antisymm fun first second : String × α => first.1 < second.1 :=
    ⟨fun _ _ below above => absurd (String.lt_trans below above) (String.lt_irrefl _)⟩
  have entries : first.entries = second.entries := first.sorted.eq_of_mem_iff second.sorted mem
  obtain ⟨_, _⟩ := first
  obtain ⟨_, _⟩ := second
  cases entries
  rfl

/-- The table with changed values. -/
def map (change : α → β) (table : NameMap α) : NameMap β where
  entries := table.entries.map fun entry => (entry.1, change entry.2)
  sorted := List.pairwise_map.mpr table.sorted

theorem lookup_map (change : α → β) (name : String) (entries : List (String × α)) :
    lookup name (entries.map fun entry => (entry.1, change entry.2))
      = (lookup name entries).map change := by
  induction entries with
  | nil => rfl
  | cons head rest ih =>
      show (if head.1 = name then _ else _) = (if head.1 = name then _ else _ : Option α).map change
      by_cases same : head.1 = name
      · rw [if_pos same, if_pos same]
        rfl
      · rw [if_neg same, if_neg same]
        exact ih

@[simp] theorem get?_map (change : α → β) (table : NameMap α) (name : String) :
    (table.map change).get? name = (table.get? name).map change :=
  lookup_map change name table.entries

/-! ### Tables of named items -/

theorem contains_eq_false_iff {table : NameMap α} {name : String} :
    table.contains name = false ↔ table.get? name = none := by
  simp [contains]

section Added

variable {nameOf : α → String} {item : α} {table : NameMap α}
  (absent : table.get? (nameOf item) = none)

include absent

/-- A new item is found besides what was found before. -/
theorem get?_insert_eq_some_iff {name : String} {value : α} :
    (table.insert (nameOf item) item).get? name = some value ↔
      table.get? name = some value ∨ (value = item ∧ nameOf value = name) := by
  rw [get?_insert]
  by_cases same : name = nameOf item
  · subst same
    rw [if_pos rfl, absent, Option.some.injEq]
    constructor
    · rintro rfl
      exact Or.inr ⟨rfl, rfl⟩
    · rintro (impossible | ⟨rfl, -⟩)
      · cases impossible
      · rfl
  · rw [if_neg same]
    refine ⟨Or.inl, ?_⟩
    rintro (before | ⟨rfl, equal⟩)
    · exact before
    · exact absurd equal.symm same

/-- Further items are new behind a new item just if all of them are new and have distinct names. -/
theorem new_insert_iff {rest : List α} :
    ((rest.map nameOf).Nodup ∧
        ∀ other ∈ rest, (table.insert (nameOf item) item).get? (nameOf other) = none) ↔
      ((item :: rest).map nameOf).Nodup ∧
        ∀ other ∈ item :: rest, table.get? (nameOf other) = none := by
  rw [List.map_cons, List.nodup_cons, List.forall_mem_cons]
  constructor
  · rintro ⟨nodup, new⟩
    refine ⟨⟨fun member => ?_, nodup⟩, absent, fun other inRest => ?_⟩
    · obtain ⟨other, inRest, same⟩ := List.mem_map.mp member
      have missing := new other inRest
      rw [get?_insert, if_pos same] at missing
      cases missing
    · have missing := new other inRest
      rw [get?_insert] at missing
      split at missing
      · cases missing
      · exact missing
  · rintro ⟨⟨once, nodup⟩, -, new⟩
    refine ⟨nodup, fun other inRest => ?_⟩
    have different : nameOf other ≠ nameOf item := fun same =>
      once (List.mem_map.mpr ⟨other, inRest, same⟩)
    rw [get?_insert, if_neg different]
    exact new other inRest

end Added

/-- What it takes to add items to a table, and what is found then. -/
theorem addDistinct_eq_ok_iff {nameOf : α → String} {items : List α} {table result : NameMap α} :
    addDistinct nameOf table items = .ok result ↔
      ((items.map nameOf).Nodup ∧ ∀ item ∈ items, table.get? (nameOf item) = none) ∧
        ∀ name value, result.get? name = some value ↔
          table.get? name = some value ∨ (value ∈ items ∧ nameOf value = name) := by
  induction items generalizing table with
  | nil =>
      rw [addDistinct]
      constructor
      · rintro ⟨⟩
        simp
      · rintro ⟨-, found⟩
        have same : table = result := ext_get? fun name => Option.ext fun value => by
          rw [found]
          simp
        rw [same]
  | cons item rest ih =>
      rw [addDistinct]
      by_cases taken : table.contains (nameOf item) = true
      · rw [if_pos taken]
        constructor
        · rintro ⟨⟩
        · rintro ⟨⟨-, new⟩, -⟩
          have absent := new item List.mem_cons_self
          rw [← contains_eq_false_iff, taken] at absent
          cases absent
      · have absent : table.get? (nameOf item) = none :=
          contains_eq_false_iff.mp (Bool.not_eq_true _ ▸ taken)
        rw [if_neg taken, ih, new_insert_iff absent]
        simp only [get?_insert_eq_some_iff absent, List.mem_cons, or_and_right, or_assoc]

/-- **Items make a table just if their names are distinct, and the table finds just the items.** -/
theorem ofDistinct_eq_ok_iff {nameOf : α → String} {items : List α} {table : NameMap α} :
    ofDistinct nameOf items = .ok table ↔ (items.map nameOf).Nodup ∧
      ∀ name value, table.get? name = some value ↔ value ∈ items ∧ nameOf value = name := by
  unfold ofDistinct
  rw [addDistinct_eq_ok_iff]
  simp

/-- The order of the items does not matter. -/
theorem ofDistinct_eq_ok_of_perm {nameOf : α → String} {items others : List α}
    {table : NameMap α} (perm : items.Perm others) (made : ofDistinct nameOf items = .ok table) :
    ofDistinct nameOf others = .ok table := by
  rw [ofDistinct_eq_ok_iff] at made ⊢
  refine ⟨(perm.map nameOf).nodup_iff.mp made.1, fun name value => ?_⟩
  rw [made.2, perm.mem_iff]

theorem exists_addDistinct_eq_ok {nameOf : α → String} {items : List α} {table : NameMap α}
    (new : (items.map nameOf).Nodup ∧ ∀ item ∈ items, table.get? (nameOf item) = none) :
    ∃ result, addDistinct nameOf table items = .ok result := by
  induction items generalizing table with
  | nil => exact ⟨table, rfl⟩
  | cons item rest ih =>
      have absent := new.2 item List.mem_cons_self
      rw [addDistinct, contains_eq_false_iff.mpr absent, if_neg (Bool.false_ne_true)]
      exact ih ((new_insert_iff absent).mpr new)

/-- **Items with distinct names do make a table.** -/
theorem exists_ofDistinct_eq_ok {nameOf : α → String} {items : List α}
    (distinct : (items.map nameOf).Nodup) : ∃ table, ofDistinct nameOf items = .ok table :=
  exists_addDistinct_eq_ok ⟨distinct, fun _ _ => rfl⟩

end InfoModel.NameMap
