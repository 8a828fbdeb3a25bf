/-
**How deep values are nested.**

A text is looked into down to a limit. What is nested deeper has no value there.

* `depth` counts the arrays and objects of a value that stand inside each other;
* `upTo_eq_self`: down to its depth a value is looked into as a whole. `isReadable_upTo_iff`: down
  to less, something in it is not readable;
* `read_compact`: so an exact value is read from its text if it is not nested too deep.
-/

import InfoModel.Proofs.Json.Compact

namespace InfoModel.Json

mutual

/-- How many arrays and objects stand inside each other. -/
def depth : Json → Nat
  | .array items => itemsDepth items + 1
  | .object members => membersDepth members + 1
  | _ => 0

/-- The depth of the deepest item. -/
def itemsDepth : List Json → Nat
  | [] => 0
  | item :: rest => max item.depth (itemsDepth rest)

/-- The depth of the deepest member. -/
def membersDepth : List (String × Json) → Nat
  | [] => 0
  | (_, value) :: rest => max value.depth (membersDepth rest)

end

/-! ### Bounds -/

theorem itemsDepth_le_iff {items : List Json} {limit : Nat} :
    itemsDepth items ≤ limit ↔ ∀ item ∈ items, item.depth ≤ limit := by
  induction items with
  | nil => simp [itemsDepth]
  | cons item rest ih => rw [itemsDepth, Nat.max_le, ih, List.forall_mem_cons]

theorem membersDepth_le_iff {members : List (String × Json)} {limit : Nat} :
    membersDepth members ≤ limit ↔ ∀ member ∈ members, member.2.depth ≤ limit := by
  induction members with
  | nil => simp [membersDepth]
  | cons member rest ih => rw [membersDepth, Nat.max_le, ih, List.forall_mem_cons]

@[simp] theorem membersDepth_nil : membersDepth [] = 0 := rfl

@[simp] theorem membersDepth_cons (name : String) (value : Json) (rest : List (String × Json)) :
    membersDepth ((name, value) :: rest) = max value.depth (membersDepth rest) := rfl

@[simp] theorem membersDepth_append (members others : List (String × Json)) :
    membersDepth (members ++ others) = max (membersDepth members) (membersDepth others) := by
  induction members with
  | nil => simp
  | cons member rest ih =>
      obtain ⟨name, value⟩ := member
      rw [List.cons_append, membersDepth_cons, membersDepth_cons, ih, Nat.max_assoc]

@[simp] theorem depth_bool (flag : Bool) : (bool flag).depth = 0 := rfl

@[simp] theorem depth_string (text : String) : (string text).depth = 0 := rfl

@[simp] theorem depth_ofWord (value : UInt32) : (ofWord value).depth = 0 := rfl

/-- **The items are less deep than their array.** -/
@[simp] theorem depth_array_le {items : List Json} {limit : Nat} :
    (array items).depth ≤ limit + 1 ↔ ∀ item ∈ items, item.depth ≤ limit := by
  rw [depth, Nat.add_le_add_iff_right, itemsDepth_le_iff]

/-- **The members are less deep than their object.** -/
@[simp] theorem depth_object_le {members : List (String × Json)} {limit : Nat} :
    (object members).depth ≤ limit + 1 ↔ membersDepth members ≤ limit := by
  rw [depth, Nat.add_le_add_iff_right]

@[simp] theorem depth_ofTexts_le (texts : List String) (limit : Nat) :
    (ofTexts texts).depth ≤ limit + 1 := by
  simp [ofTexts]

/-! ### Looking into a value -/

mutual

/-- **Down to its depth a value is looked into as a whole.** -/
theorem upTo_eq_self : ∀ {value : Json} {limit : Nat}, value.depth ≤ limit →
    value.upTo limit = value
  | .array _, _ + 1, shallow => congrArg array (itemsUpTo_eq_self (Nat.le_of_succ_le_succ shallow))
  | .object _, _ + 1, shallow =>
      congrArg object (membersUpTo_eq_self (Nat.le_of_succ_le_succ shallow))
  | .null, limit, _ => by cases limit <;> rfl
  | .bool _, limit, _ => by cases limit <;> rfl
  | .number _, limit, _ => by cases limit <;> rfl
  | .string _, limit, _ => by cases limit <;> rfl
  | .unreadable, limit, _ => by cases limit <;> rfl

theorem itemsUpTo_eq_self : ∀ {items : List Json} {limit : Nat}, itemsDepth items ≤ limit →
    itemsUpTo limit items = items
  | [], _, _ => rfl
  | _ :: _, _, shallow => by
      obtain ⟨item, rest⟩ := Nat.max_le.mp shallow
      rw [itemsUpTo, upTo_eq_self item, itemsUpTo_eq_self rest]

theorem membersUpTo_eq_self : ∀ {members : List (String × Json)} {limit : Nat},
    membersDepth members ≤ limit → membersUpTo limit members = members
  | [], _, _ => rfl
  | (_, _) :: _, _, shallow => by
      obtain ⟨value, rest⟩ := Nat.max_le.mp shallow
      rw [membersUpTo, upTo_eq_self value, membersUpTo_eq_self rest]

end

mutual

/-- **A value is readable down to a limit** if it is readable and no deeper than that. -/
theorem isReadable_upTo_iff : ∀ {value : Json} {limit : Nat},
    (value.upTo limit).isReadable = true ↔ value.isReadable = true ∧ value.depth ≤ limit
  | .array items, 0 => by simp [upTo, isReadable, depth]
  | .object members, 0 => by simp [upTo, isReadable, depth]
  | .array items, limit + 1 => by
      rw [upTo, isReadable, isReadable, allReadable_itemsUpTo_iff, depth, Nat.add_le_add_iff_right]
  | .object members, limit + 1 => by
      rw [upTo, isReadable, isReadable, allMembersReadable_membersUpTo_iff, depth,
        Nat.add_le_add_iff_right]
  | .null, limit => by cases limit <;> simp [upTo, isReadable, depth]
  | .bool _, limit => by cases limit <;> simp [upTo, isReadable, depth]
  | .number _, limit => by cases limit <;> simp [upTo, isReadable, depth]
  | .string _, limit => by cases limit <;> simp [upTo, isReadable, depth]
  | .unreadable, limit => by cases limit <;> simp [upTo, isReadable]

theorem allReadable_itemsUpTo_iff : ∀ {items : List Json} {limit : Nat},
    allReadable (itemsUpTo limit items) = true ↔
      allReadable items = true ∧ itemsDepth items ≤ limit
  | [], _ => by simp [itemsUpTo, allReadable, itemsDepth]
  | item :: rest, limit => by
      rw [itemsUpTo, allReadable, allReadable, Bool.and_eq_true, Bool.and_eq_true,
        isReadable_upTo_iff, allReadable_itemsUpTo_iff, itemsDepth, Nat.max_le]
      exact and_and_and_comm

theorem allMembersReadable_membersUpTo_iff : ∀ {members : List (String × Json)} {limit : Nat},
    allMembersReadable (membersUpTo limit members) = true ↔
      allMembersReadable members = true ∧ membersDepth members ≤ limit
  | [], _ => by simp [membersUpTo, allMembersReadable, membersDepth]
  | (name, value) :: rest, limit => by
      rw [membersUpTo, allMembersReadable, allMembersReadable, Bool.and_eq_true, Bool.and_eq_true,
        isReadable_upTo_iff, allMembersReadable_membersUpTo_iff, membersDepth, Nat.max_le]
      exact and_and_and_comm

end

/-! ### Texts -/

theorem read_of_parse {text : String} {value : Json} (parsed : parse text = .ok value) :
    read text = .ok (value.upTo nestingLimit) := by
  unfold read
  rw [parsed]

/-- **What is printed on one line is read again** if it is not nested too deep. -/
theorem read_compact {json : Json} (exact : json.isExact = true)
    (shallow : json.depth ≤ nestingLimit) : read json.compact = .ok json := by
  rw [read_of_parse (parse_compact exact), upTo_eq_self shallow]

end InfoModel.Json
