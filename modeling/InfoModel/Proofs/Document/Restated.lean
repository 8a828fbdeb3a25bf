/-
**What may be changed in a document without changing the record that is read from it.**

The members of objects may be put in another order, at any depth, and an object that stands for a
record may get members that the record does not have.

* `Json.Shuffled`: a value with the members of its objects in another order;
* `Json.Change`: a relation of a value to what it may become. `Json.Record` is the one of a record
  whose members may change as listed, be it an object or an array, and `Json.ListOf` the one of a
  list. A change is steady if it keeps what is readable readable, and what is null null;
* `Respects`: what a reader reads does not change with its value. The fields of a record follow the
  changes of its members (`Fields.Follows`), one field as its reader does (`follows_field`), and
  fields one behind the other as each of them does (`Follows.seq`);
* `Follows.respects`: so a record is read from the restated value.
-/

import InfoModel.Proofs.Document.Fields
import Mathlib.Data.List.Forall2
import Mathlib.Data.List.Nodup

namespace InfoModel

open Fields (valuesOf)

/-! ### Outcomes -/

/-- Two outcomes fail together, and their results are related. -/
inductive Matches {ε δ α β : Type} (related : α → β → Prop) : Except ε α → Except δ β → Prop where
  | ok {value : α} {other : β} (same : related value other) :
      Matches related (.ok value) (.ok other)
  | error {fault : ε} {other : δ} : Matches related (.error fault) (.error other)

namespace Matches

variable {ε δ α β α' β' : Type}

theorem refl (outcome : Except ε α) : Matches (· = ·) outcome outcome := by
  cases outcome with
  | ok value => exact .ok rfl
  | error fault => exact .error

theorem bind {related : α → β → Prop} {relatedNext : α' → β' → Prop} {first : Except ε α}
    {second : Except δ β} {next : α → Except ε α'} {otherNext : β → Except δ β'}
    (same : Matches related first second)
    (sameNext : ∀ value other, related value other →
      Matches relatedNext (next value) (otherNext other)) :
    Matches relatedNext (first >>= next) (second >>= otherNext) := by
  cases same with
  | ok same => exact sameNext _ _ same
  | error => exact .error

theorem map {related : α → β → Prop} {relatedNext : α' → β' → Prop} {first : Except ε α}
    {second : Except δ β} {make : α → α'} {otherMake : β → β'} (same : Matches related first second)
    (sameMake : ∀ value other, related value other → relatedNext (make value) (otherMake other)) :
    Matches relatedNext (first.map make) (second.map otherMake) := by
  cases same with
  | ok same => exact .ok (sameMake _ _ same)
  | error => exact .error

/-- **Outcomes that fail together have the same results.** -/
theorem eq_ok_iff {first : Except ε α} {second : Except δ α} (same : Matches (· = ·) first second)
    (value : α) : first = .ok value ↔ second = .ok value := by
  cases same with
  | ok same => rw [same, Except.ok.injEq, Except.ok.injEq]
  | error => exact iff_of_false nofun nofun

theorem of_eq_ok_iff {first : Except ε α} {second : Except δ α}
    (same : ∀ value, first = .ok value ↔ second = .ok value) : Matches (· = ·) first second := by
  cases first with
  | ok value =>
      rw [(same value).mp rfl]
      exact .ok rfl
  | error fault =>
      cases second with
      | ok value => cases (same value).mpr rfl
      | error other => exact .error

end Matches

namespace Json

/-! ### Objects in another order -/

/-- The value has neither items nor members. -/
def isLeaf : Json → Bool
  | .array _ | .object _ => false
  | _ => true

/-- **A value with the members of its objects in another order**, at any depth. -/
inductive Shuffled : Json → Json → Prop where
  | leaf {value : Json} (leaf : value.isLeaf = true) : Shuffled value value
  | array {items others : List Json} (same : List.Forall₂ Shuffled items others) :
      Shuffled (.array items) (.array others)
  | object {members kept others : List (String × Json)}
      (names : members.map Prod.fst = kept.map Prod.fst)
      (values : List.Forall₂ Shuffled (members.map Prod.snd) (kept.map Prod.snd))
      (perm : kept.Perm others) : Shuffled (.object members) (.object others)

/-- The order of members has no part in whether they are readable. -/
theorem Shuffled.isReadable_eq {value other : Json} (shuffled : Shuffled value other) :
    value.isReadable = other.isReadable := by
  induction shuffled using Shuffled.rec
    (motive_2 := fun items others _ => items.all isReadable = others.all isReadable) with
  | leaf => rfl
  | array same ih => rw [isReadable, isReadable, allReadable_eq_all, allReadable_eq_all, ih]
  | object names values perm ih =>
      rw [List.all_map, List.all_map] at ih
      rw [isReadable, isReadable, allMembersReadable_eq_all, allMembersReadable_eq_all,
        ← perm.all_eq]
      exact ih
  | nil => rfl
  | cons first rest ihFirst ihRest => rw [List.all_cons, List.all_cons, ihFirst, ihRest]

/-- Nothing has to be put in another order. -/
theorem Shuffled.refl : ∀ value : Json, Shuffled value value
  | .null | .bool _ | .number _ | .string _ | .unreadable => .leaf rfl
  | .array items => .array (items_refl items)
  | .object members => .object rfl (values_refl members) (.refl members)
where
  items_refl : ∀ items : List Json, List.Forall₂ Shuffled items items
    | [] => .nil
    | item :: rest => .cons (refl item) (items_refl rest)
  values_refl : ∀ members : List (String × Json),
      List.Forall₂ Shuffled (members.map Prod.snd) (members.map Prod.snd)
    | [] => .nil
    | (_, value) :: rest => .cons (refl value) (values_refl rest)

/-! ### Changes -/

/-- A relation of a value to what it may become. -/
abbrev Change := Json → Json → Prop

/-- **A steady change** keeps what is readable readable, and what is null null. -/
structure Steady (change : Change) : Prop where
  isReadable_eq : ∀ {value other}, change value other → value.isReadable = other.isReadable
  isNull_eq : ∀ {value other}, change value other → value.isNull = other.isNull

theorem steady_shuffled : Steady Shuffled where
  isReadable_eq := Shuffled.isReadable_eq
  isNull_eq shuffled := by cases shuffled <;> rfl

/-- A list whose items may change. Anything else may only be shuffled. -/
inductive ListOf (change : Change) : Change where
  | array {items others : List Json} (same : List.Forall₂ change items others) :
      ListOf change (.array items) (.array others)
  | object {members : List (String × Json)} {other : Json}
      (shuffled : Shuffled (.object members) other) : ListOf change (.object members) other
  | leaf {value : Json} (leaf : value.isLeaf = true) : ListOf change value value

/-- **What a member of a record may become.** One of the listed names changes as is listed for it,
any other may only be shuffled. -/
structure MemberChanged (parts : List (String × Change)) (member other : String × Json) :
    Prop where
  name : other.1 = member.1
  known : ∀ change, (member.1, change) ∈ parts → change member.2 other.2
  unknown : (∀ change, (member.1, change) ∉ parts) → Shuffled member.2 other.2

/-- **The members of a record, changed, in any order and with others among them.** These have names
that the record does not have, and hold values. -/
inductive Extended (parts : List (String × Change)) :
    List (String × Json) → List (String × Json) → Prop where
  | of_perm {members others : List (String × Json)} (kept added : List (String × Json))
      (changed : List.Forall₂ (MemberChanged parts) members kept)
      (foreign : ∀ member ∈ added, ∀ change, (member.1, change) ∉ parts)
      (readable : ∀ member ∈ added, member.2.isReadable = true)
      (perm : (kept ++ added).Perm others) : Extended parts members others

/-- **The items of a record that is given as a list**, in the order of its members. Items behind
them may only be shuffled. -/
inductive Aligned : List (String × Change) → List Json → List Json → Prop where
  | beyond {items others : List Json} (shuffled : List.Forall₂ Shuffled items others) :
      Aligned [] items others
  | ended (parts : List (String × Change)) : Aligned parts [] []
  | item {name : String} {change : Change} {parts : List (String × Change)} {value other : Json}
      {items others : List Json} (changed : change value other)
      (aligned : Aligned parts items others) :
      Aligned ((name, change) :: parts) (value :: items) (other :: others)

/-- **What the value of a record may become**, whose members may change as listed. -/
inductive Record (parts : List (String × Change)) : Change where
  | object {members others : List (String × Json)} (extended : Extended parts members others) :
      Record parts (.object members) (.object others)
  | array {items others : List Json} (aligned : Aligned parts items others) :
      Record parts (.array items) (.array others)
  | leaf {value : Json} (leaf : value.isLeaf = true) : Record parts value value

/-- A listed name that is listed once changes as its change says. -/
theorem MemberChanged.of_mem {parts : List (String × Change)} {name : String} {change : Change}
    (listed : (name, change) ∈ parts) (once : (parts.map Prod.fst).Nodup) {value other : Json}
    (changed : change value other) : MemberChanged parts (name, value) (name, other) where
  name := rfl
  known again listedAgain := by
    have same := List.inj_on_of_nodup_map once listed listedAgain rfl
    rw [← (Prod.mk.inj same).2]
    exact changed
  unknown absent := absurd listed (absent change)

/-! ### Steady changes -/

theorem all_isReadable_eq {change : Change} (steady : Steady change) {items others : List Json}
    (same : List.Forall₂ change items others) :
    items.all isReadable = others.all isReadable := by
  induction same with
  | nil => rfl
  | cons first _ ih => rw [List.all_cons, List.all_cons, steady.isReadable_eq first, ih]

theorem steady_listOf {change : Change} (steady : Steady change) : Steady (ListOf change) where
  isReadable_eq changed := by
    cases changed with
    | array same =>
        rw [isReadable, isReadable, allReadable_eq_all, allReadable_eq_all,
          all_isReadable_eq steady same]
    | object shuffled => exact shuffled.isReadable_eq
    | leaf => rfl
  isNull_eq changed := by
    cases changed with
    | array => rfl
    | object shuffled => exact steady_shuffled.isNull_eq shuffled
    | leaf => rfl

section Parts

variable {parts : List (String × Change)} (steady : ∀ part ∈ parts, Steady part.2)

include steady

theorem MemberChanged.isReadable_eq {member other : String × Json}
    (changed : MemberChanged parts member other) :
    member.2.isReadable = other.2.isReadable := by
  by_cases known : ∃ change, (member.1, change) ∈ parts
  · obtain ⟨change, listed⟩ := known
    exact (steady _ listed).isReadable_eq (changed.known change listed)
  · exact (changed.unknown (not_exists.mp known)).isReadable_eq

theorem Extended.allMembersReadable_eq {members others : List (String × Json)}
    (extended : Extended parts members others) :
    allMembersReadable members = allMembersReadable others := by
  obtain ⟨_, _, changed, -, readable, perm⟩ := extended
  rw [allMembersReadable_eq_all, allMembersReadable_eq_all, ← perm.all_eq, List.all_append,
    List.all_eq_true.mpr readable, Bool.and_true]
  clear perm
  induction changed with
  | nil => rfl
  | cons first _ ih => rw [List.all_cons, List.all_cons, first.isReadable_eq steady, ih]

theorem Aligned.allReadable_eq {items others : List Json} (aligned : Aligned parts items others) :
    allReadable items = allReadable others := by
  induction aligned with
  | beyond shuffled =>
      rw [allReadable_eq_all, allReadable_eq_all, all_isReadable_eq steady_shuffled shuffled]
  | ended => rfl
  | item changed _ ih =>
      rw [allReadable, allReadable, (steady _ List.mem_cons_self).isReadable_eq changed,
        ih fun part listed => steady part (List.mem_cons_of_mem _ listed)]

theorem steady_record : Steady (Record parts) where
  isReadable_eq changed := by
    cases changed with
    | object extended => exact extended.allMembersReadable_eq steady
    | array aligned => exact aligned.allReadable_eq steady
    | leaf => rfl
  isNull_eq changed := by cases changed <;> rfl

end Parts

/-! ### Values by name -/

/-- Values that are changed and then put in another order. -/
def Varied (change : Change) (values others : List Json) : Prop :=
  ∃ kept, List.Forall₂ change values kept ∧ kept.Perm others

theorem valuesOf_perm {members others : List (String × Json)} (perm : members.Perm others)
    (key : String) : (valuesOf key members).Perm (valuesOf key others) :=
  (perm.filter _).map _

theorem forall₂_valuesOf {parts : List (String × Change)} {members kept : List (String × Json)}
    (changed : List.Forall₂ (MemberChanged parts) members kept) {key : String} {change : Change}
    (listed : (key, change) ∈ parts) :
    List.Forall₂ change (valuesOf key members) (valuesOf key kept) := by
  induction changed with
  | nil => exact .nil
  | @cons member other _ _ first _ ih =>
      obtain ⟨name, value⟩ := member
      obtain ⟨otherName, otherValue⟩ := other
      obtain rfl : otherName = name := first.name
      rw [Fields.valuesOf_cons, Fields.valuesOf_cons]
      by_cases same : otherName = key
      · subst same
        rw [if_pos rfl, if_pos rfl]
        exact .cons (first.known change listed) ih
      · rw [if_neg same, if_neg same]
        exact ih

/-- **The values of a member of a record vary as its change says**: no other member has its name. -/
theorem Extended.varied {parts : List (String × Change)} {members others : List (String × Json)}
    (extended : Extended parts members others) {key : String} {change : Change}
    (listed : (key, change) ∈ parts) :
    Varied change (valuesOf key members) (valuesOf key others) := by
  cases extended with
  | of_perm kept added changed foreign _ perm =>
      have none : valuesOf key added = [] := by
        refine List.map_eq_nil_iff.mpr (List.filter_eq_nil_iff.mpr fun member isAdded same => ?_)
        obtain rfl : member.1 = key := beq_iff_eq.mp same
        exact foreign member isAdded change listed
      have reordered := valuesOf_perm perm key
      rw [Fields.valuesOf_append, none, List.append_nil] at reordered
      exact ⟨valuesOf key kept, forall₂_valuesOf changed listed, reordered⟩

theorem Varied.eq_nil_iff {change : Change} {values others : List Json}
    (varied : Varied change values others) : values = [] ↔ others = [] := by
  obtain ⟨kept, changed, perm⟩ := varied
  rw [← List.length_eq_zero_iff, ← List.length_eq_zero_iff, changed.length_eq, perm.length_eq]

/-- The only value of a name becomes the only value of the name. -/
theorem Varied.exists_of_singleton {change : Change} {value : Json} {others : List Json}
    (varied : Varied change [value] others) : ∃ other, others = [other] ∧ change value other := by
  obtain ⟨kept, changed, perm⟩ := varied
  obtain ⟨other, _, same, nothing, rfl⟩ := List.forall₂_cons_left_iff.mp changed
  obtain rfl := List.forall₂_nil_left_iff.mp nothing
  exact ⟨other, List.perm_singleton.mp perm.symm, same⟩

theorem Varied.exists_of_singleton_right {change : Change} {values : List Json} {other : Json}
    (varied : Varied change values [other]) : ∃ value, values = [value] ∧ change value other := by
  obtain ⟨kept, changed, perm⟩ := varied
  obtain rfl := List.perm_singleton.mp perm
  obtain ⟨value, _, same, nothing, rfl⟩ := List.forall₂_cons_right_iff.mp changed
  obtain rfl := List.forall₂_nil_right_iff.mp nothing
  exact ⟨value, rfl, same⟩

end Json

/-! ### Readers -/

open Json (Change Shuffled Steady Varied Aligned Extended)

/-- **What is read does not change with the value.** -/
def Respects {α : Type} (decode : Json → Except DecodeFault α) (change : Change) : Prop :=
  ∀ value other, change value other → Matches (· = ·) (decode value) (decode other)

/-- **Fields follow the changes of their members**, by name and in a list. -/
structure Fields.Follows {α : Type} (fields : Fields Json α) (parts : List (String × Change)) :
    Prop where
  named : ∀ {members others}, (∀ part ∈ parts,
      Varied part.2 (valuesOf part.1 members) (valuesOf part.1 others)) →
    Matches (· = ·) (fields.named members) (fields.named others)
  positional : ∀ {later items others}, Aligned (parts ++ later) items others →
    Matches (fun result other => result.1 = other.1 ∧ Aligned later result.2 other.2)
      (fields.positional items) (fields.positional others)

section Readers

variable {α β : Type} {decode : Json → Except DecodeFault α} {change : Change}

/-- What is read from leaves only does not change where nothing but the order of members does. -/
theorem respects_shuffled_of_leaf (array : ∀ items, ∃ fault, decode (.array items) = .error fault)
    (object : ∀ members, ∃ fault, decode (.object members) = .error fault) :
    Respects decode Shuffled := by
  intro value other shuffled
  cases shuffled with
  | leaf => exact .refl _
  | @array items others =>
      obtain ⟨_, failed⟩ := array items
      obtain ⟨_, otherFailed⟩ := array others
      rw [failed, otherFailed]
      exact .error
  | @object members _ others =>
      obtain ⟨_, failed⟩ := object members
      obtain ⟨_, otherFailed⟩ := object others
      rw [failed, otherFailed]
      exact .error

theorem respects_text : Respects Document.text Shuffled :=
  respects_shuffled_of_leaf (fun _ => ⟨_, rfl⟩) (fun _ => ⟨_, rfl⟩)

theorem respects_flag : Respects Document.flag Shuffled :=
  respects_shuffled_of_leaf (fun _ => ⟨_, rfl⟩) (fun _ => ⟨_, rfl⟩)

theorem respects_word : Respects Document.word Shuffled :=
  respects_shuffled_of_leaf (fun _ => ⟨_, rfl⟩) (fun _ => ⟨_, rfl⟩)

theorem matches_mapM (respects : Respects decode change) {items others : List Json}
    (same : List.Forall₂ change items others) :
    Matches (· = ·) (items.mapM decode) (others.mapM decode) := by
  induction same with
  | nil => exact .refl _
  | cons first _ ih =>
      rw [List.mapM_cons, List.mapM_cons]
      refine (respects _ _ first).bind fun value _ equal => ?_
      subst equal
      refine ih.bind fun values _ equal => ?_
      subst equal
      exact .refl _

/-- **A list is read as its items are.** -/
theorem respects_listOf (respects : Respects decode change) :
    Respects (Document.listOf decode) (Json.ListOf change) := by
  intro value other changed
  cases changed with
  | array same => exact matches_mapM respects same
  | object shuffled =>
      cases shuffled with
      | leaf leaf => cases leaf
      | object => exact .error
  | leaf => exact .refl _

theorem respects_texts : Respects (Document.listOf Document.text) Shuffled := by
  intro value other shuffled
  refine respects_listOf respects_text _ _ ?_
  cases shuffled with
  | leaf leaf => exact .leaf leaf
  | array same => exact .array same
  | object names values perm => exact .object (.object names values perm)

/-- An optional member is left out just if it was. -/
theorem respects_unlessAbsent (respects : Respects decode change) (steady : Steady change) :
    Respects (Fields.unlessAbsent decode) change := by
  intro value other changed
  unfold Fields.unlessAbsent
  show Matches _ (if value.isNull = true then _ else _) (if other.isNull = true then _ else _)
  rw [← steady.isNull_eq changed]
  by_cases null : value.isNull = true
  · rw [if_pos null, if_pos null]
    exact .refl _
  · rw [if_neg null, if_neg null]
    exact (respects _ _ changed).map fun _ _ equal => congrArg some equal

/-- **What is looked at as plain data** is readable just if what it becomes is. -/
theorem matches_content (steady : Steady change) {value other : Json}
    (changed : change value other) : Matches (fun found again => found = value ∧ again = other)
      (Document.content value) (Document.content other) := by
  show Matches _ (if value.isReadable = true then _ else _)
    (if other.isReadable = true then _ else _)
  rw [← steady.isReadable_eq changed]
  by_cases readable : value.isReadable = true
  · rw [if_pos readable, if_pos readable]
    exact .ok ⟨rfl, rfl⟩
  · rw [if_neg readable, if_neg readable]
    exact .error

/-! ### Fields -/

namespace Fields

/-- **One field follows the change of its member.** -/
theorem follows_field (respects : Respects decode change) (key : String)
    (unnamed unlisted : Option α) :
    Follows (field key decode unnamed unlisted) [(key, change)] where
  named {members others} varied := by
    have varied := varied (key, change) List.mem_cons_self
    refine .of_eq_ok_iff fun value => ?_
    rw [named_field_eq_ok_iff, named_field_eq_ok_iff, varied.eq_nil_iff]
    refine or_congr_right ⟨?_, ?_⟩
    · intro ⟨written, only, read⟩
      rw [only] at varied
      obtain ⟨other, otherOnly, changed⟩ := varied.exists_of_singleton
      exact ⟨other, otherOnly, ((respects _ _ changed).eq_ok_iff value).mp read⟩
    · intro ⟨other, otherOnly, read⟩
      rw [otherOnly] at varied
      obtain ⟨written, only, changed⟩ := varied.exists_of_singleton_right
      exact ⟨written, only, ((respects _ _ changed).eq_ok_iff value).mpr read⟩
  positional {later items others} aligned := by
    cases aligned with
    | ended =>
        unfold field
        dsimp only
        cases unlisted with
        | none => exact .error
        | some value => exact .ok ⟨rfl, .ended later⟩
    | @item _ _ _ value other _ _ changed aligned =>
        unfold field
        dsimp only
        have same := respects _ _ changed
        revert same
        generalize decode value = read
        generalize decode other = otherRead
        intro same
        cases same with
        | ok equal => exact .ok ⟨equal, aligned⟩
        | error => exact .error

theorem follows_required (respects : Respects decode change) (key : String) :
    Follows (required key decode) [(key, change)] :=
  follows_field respects key Option.none Option.none

theorem follows_defaulted (respects : Respects decode change) (key : String) (usual : α) :
    Follows (defaulted key decode usual) [(key, change)] :=
  follows_field respects key (some usual) (some usual)

theorem follows_optional (respects : Respects decode change) (steady : Steady change)
    (key : String) : Follows (optional key decode) [(key, change)] :=
  follows_field (respects_unlessAbsent respects steady) key (some Option.none) Option.none

namespace Follows

variable {parts others : List (String × Change)}

theorem map {fields : Fields Json α} (follows : Follows fields parts) (make : α → β) :
    Follows (make <$> fields) parts where
  named varied := by
    refine .of_eq_ok_iff fun value => ?_
    rw [named_map_eq_ok_iff, named_map_eq_ok_iff]
    exact exists_congr fun read => and_congr_left' ((follows.named varied).eq_ok_iff read)
  positional aligned :=
    (follows.positional aligned).bind fun _ _ same => .ok ⟨congrArg make same.1, same.2⟩

/-- **Fields one behind the other follow the changes of all their members.** -/
theorem seq {first : Fields Json (α → β)} {second : Fields Json α} (front : Follows first parts)
    (back : Follows second others) : Follows (first <*> second) (parts ++ others) where
  named varied := by
    obtain ⟨variedFront, variedBack⟩ := List.forall_mem_append.mp varied
    refine .of_eq_ok_iff fun value => ?_
    rw [named_seq_eq_ok_iff, named_seq_eq_ok_iff]
    simp only [(front.named variedFront).eq_ok_iff, (back.named variedBack).eq_ok_iff]
  positional {later items others} aligned := by
    rw [List.append_assoc] at aligned
    refine (front.positional aligned).bind fun build _ same => ?_
    refine (back.positional same.2).bind fun value _ sameValue => ?_
    exact .ok ⟨by rw [same.1, sameValue.1], sameValue.2⟩

/-- **A record is read from its changed parts.** -/
theorem ofLayout_named {fields : Fields Json α} (follows : Follows fields parts)
    {members others : List (String × Json)} (varied : ∀ part ∈ parts,
      Varied part.2 (valuesOf part.1 members) (valuesOf part.1 others)) :
    Matches (· = ·) (fields.ofLayout (.named members)) (fields.ofLayout (.named others)) := by
  have same := follows.named varied
  unfold Fields.ofLayout
  dsimp only
  revert same
  generalize fields.named members = read
  generalize fields.named others = otherRead
  intro same
  cases same with
  | ok equal => exact .ok equal
  | error => exact .error

theorem ofLayout_positional {fields : Fields Json α} (follows : Follows fields parts)
    {items others : List Json} (aligned : Aligned parts items others) :
    Matches (· = ·) (fields.ofLayout (.positional items))
      (fields.ofLayout (.positional others)) := by
  rw [← List.append_nil parts] at aligned
  have same := follows.positional aligned
  unfold Fields.ofLayout
  dsimp only
  revert same
  generalize fields.positional items = read
  generalize fields.positional others = otherRead
  intro same
  cases same with
  | @ok result other same =>
      obtain ⟨value, rest⟩ := result
      obtain ⟨_, otherRest⟩ := other
      obtain ⟨rfl, beyond⟩ := same
      -- what is left over is shuffled, so nothing is left over just if nothing was
      cases beyond with
      | ended => exact .ok rfl
      | beyond shuffled =>
          cases shuffled with
          | nil => exact .ok rfl
          | cons => exact .error
  | error => exact .error

/-- **A record is read from the restated value.** -/
theorem respects {fields : Fields Json α} (follows : Follows fields parts) :
    Respects fields.decode (Json.Record parts) := by
  intro value other changed
  cases changed with
  | object extended => exact follows.ofLayout_named fun _ listed => extended.varied listed
  | array aligned => exact follows.ofLayout_positional aligned
  | leaf => exact .refl _

end Follows

end Fields

end Readers

end InfoModel
