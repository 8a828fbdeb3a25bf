/-
**Records read by name.**

A record is read from the values that its members have under the names of the fields. The order of
the members has no part in it, nor have members of other names.

* `Fields.valuesOf` lists the values of a name; members that are left out take theirs with them
  (`valuesOf_filter`). `named_field_eq_ok_iff`: a field is read from the only value of its name, or
  left out where there is none;
* `named_seq_eq_ok_iff`: fields one behind the other are read just if each of them is;
* `RoundTrips` says that what is written is read back. Texts, truth values, words and lists of what
  is read back are read back (`roundTrips_text`, `RoundTrips.listOf`), and so is a field of a record
  that has its value under its name (`Reads.required`, `Reads.defaulted`, `Reads.optional`);
* `Json.tagged_object` finds the tag of an object, `Json.tagged_object_eq_error` says when there is
  none.
-/

import InfoModel.Document.Declarations

namespace InfoModel

namespace Fields

variable {node α β : Type} {members : List (String × node)} {key : String}

/-! ### Values by name -/

/-- The values of the members of a name, in order. -/
def valuesOf (key : String) (members : List (String × node)) : List node :=
  (members.filter fun member => member.1 == key).map Prod.snd

@[simp] theorem valuesOf_nil : valuesOf key ([] : List (String × node)) = [] := rfl

@[simp] theorem valuesOf_cons (name : String) (value : node) (rest : List (String × node)) :
    valuesOf key ((name, value) :: rest)
      = if name = key then value :: valuesOf key rest else valuesOf key rest := by
  unfold valuesOf
  by_cases same : name = key
  · rw [List.filter_cons_of_pos (by simpa using same), if_pos same]
    rfl
  · rw [List.filter_cons_of_neg (by simpa using same), if_neg same]

@[simp] theorem valuesOf_append (members others : List (String × node)) :
    valuesOf key (members ++ others) = valuesOf key members ++ valuesOf key others := by
  simp [valuesOf]

/-- A name that no member has is the name of no value. -/
theorem valuesOf_eq_nil_of_notMem (absent : key ∉ members.map Prod.fst) :
    valuesOf key members = [] := by
  refine List.map_eq_nil_iff.mpr (List.filter_eq_nil_iff.mpr fun member listed named => ?_)
  exact absent (List.mem_map.mpr ⟨member, listed, beq_iff_eq.mp named⟩)

/-- Leaving out the members of a name leaves out none where there are none. -/
theorem filter_ne_of_valuesOf_eq_nil (absent : valuesOf key members = []) :
    (members.filter fun member => member.1 != key) = members := by
  refine List.filter_eq_self.mpr fun member listed => bne_iff_ne.mpr fun same => ?_
  have others := List.filter_eq_nil_iff.mp (List.map_eq_nil_iff.mp absent)
  exact others member listed (beq_iff_eq.mpr same)

/-- The values of a kept name are kept. -/
theorem valuesOf_filter (kept : String → Bool) (key : String) (members : List (String × node)) :
    valuesOf key (members.filter fun member => kept member.1)
      = if kept key then valuesOf key members else [] := by
  unfold valuesOf
  rw [List.filter_filter]
  by_cases isKept : kept key = true
  · rw [if_pos isKept]
    congr 1
    refine List.filter_congr fun member _ => ?_
    by_cases same : member.1 = key
    · simp [same, isKept]
    · simp [same]
  · rw [if_neg isKept]
    refine List.map_eq_nil_iff.mpr (List.filter_eq_nil_iff.mpr fun member _ => ?_)
    by_cases same : member.1 = key
    · simp [same, isKept]
    · simp [same]

/-- Leaving out the members of a name keeps the values of other names. -/
theorem valuesOf_filter_ne {tag key : String} (members : List (String × Json)) :
    valuesOf key (members.filter fun member => member.1 != tag)
      = if key = tag then [] else valuesOf key members := by
  rw [valuesOf_filter (fun name => name != tag)]
  by_cases same : key = tag <;> simp [same]

theorem map_snd_found (key : String) (position : Nat) (members : List (String × node)) :
    (found key position members).map Prod.snd = valuesOf key members := by
  induction members generalizing position with
  | nil => rfl
  | cons member rest ih =>
      obtain ⟨name, value⟩ := member
      rw [found, valuesOf_cons]
      by_cases same : name = key
      · rw [if_pos same, if_pos same, List.map_cons, ih]
      · rw [if_neg same, if_neg same, ih]

/-! ### Fields -/

/-- **A field is read from the only value of its name**, or is left out where there is none. -/
theorem named_field_eq_ok_iff {decode : node → Except DecodeFault α} {unnamed unlisted : Option α}
    {value : α} : (field key decode unnamed unlisted).named members = .ok value ↔
      (valuesOf key members = [] ∧ unnamed = some value) ∨
        ∃ written, valuesOf key members = [written] ∧ decode written = .ok value := by
  unfold field
  dsimp only
  rw [← map_snd_found key 0 members]
  generalize found key 0 members = located
  rcases located with _ | ⟨⟨position, written⟩, _ | ⟨⟨later, second⟩, rest⟩⟩
  · cases unnamed <;> simp
  · cases decoded : decode written <;> simp [decoded]
  · cases decoded : decode written <;> simp [decoded]

theorem both_eq_ok_iff {first : Except (Nat × DecodeFault) (α → β)}
    {second : Except (Nat × DecodeFault) α} {result : β} : both first second = .ok result ↔
      ∃ build value, first = .ok build ∧ second = .ok value ∧ build value = result := by
  cases first with
  | ok build => cases second <;> simp [both]
  | error fault =>
      cases second with
      | ok value => simp [both]
      | error other =>
          unfold both
          dsimp only
          split <;> simp

/-- **Fields one behind the other are read just if each of them is.** -/
theorem named_seq_eq_ok_iff {first : Fields node (α → β)} {second : Fields node α} {result : β} :
    (first <*> second).named members = .ok result ↔ ∃ build value,
      first.named members = .ok build ∧ second.named members = .ok value ∧
        build value = result :=
  both_eq_ok_iff

theorem named_map_eq_ok_iff {make : α → β} {fields : Fields node α} {result : β} :
    (make <$> fields).named members = .ok result ↔
      ∃ value, fields.named members = .ok value ∧ make value = result := by
  have steps : (make <$> fields).named members = both (.ok make) (fields.named members) := rfl
  rw [steps, both_eq_ok_iff]
  simp

end Fields

/-! ### Writing and reading -/

/-- **What is written is read back.** -/
def RoundTrips {node α : Type} (encode : α → node) (decode : node → Except DecodeFault α) : Prop :=
  ∀ value, decode (encode value) = .ok value

/-- The fields of a record read a value from its members. -/
def Reads {node α : Type} (fields : Fields node α) (members : List (String × node)) (value : α) :
    Prop :=
  fields.named members = .ok value

namespace Reads

open Fields

variable {node α β : Type} {members : List (String × node)} {key : String}
  {encode : α → node} {decode : node → Except DecodeFault α} {value : α}

theorem map {fields : Fields node α} (reads : Reads fields members value) (make : α → β) :
    Reads (make <$> fields) members (make value) :=
  named_map_eq_ok_iff.mpr ⟨value, reads, rfl⟩

theorem seq {first : Fields node (α → β)} {build : α → β} {second : Fields node α}
    (front : Reads first members build) (back : Reads second members value) :
    Reads (first <*> second) members (build value) :=
  named_seq_eq_ok_iff.mpr ⟨build, value, front, back, rfl⟩

theorem required (trips : RoundTrips encode decode)
    (written : valuesOf key members = [encode value]) :
    Reads (Fields.required key decode) members value :=
  named_field_eq_ok_iff.mpr (Or.inr ⟨_, written, trips value⟩)

theorem defaulted (trips : RoundTrips encode decode) {usual : α}
    (written : valuesOf key members = [encode value]) :
    Reads (Fields.defaulted key decode usual) members value :=
  named_field_eq_ok_iff.mpr (Or.inr ⟨_, written, trips value⟩)

/-- **An optional member is read back**, if nothing that is written marks it as absent. -/
theorem optional [Document node] (trips : RoundTrips encode decode) {value : Option α}
    (present : ∀ item, Document.isAbsent (encode item) = false)
    (written : valuesOf key members = (value.map encode).toList) :
    Reads (Fields.optional key decode) members value := by
  refine named_field_eq_ok_iff.mpr ?_
  cases value with
  | none => exact Or.inl ⟨written, rfl⟩
  | some item =>
      refine Or.inr ⟨encode item, written, ?_⟩
      unfold unlessAbsent
      rw [present item, trips item]
      rfl

end Reads

/-! ### JSON values -/

theorem Json.allReadable_eq_all (items : List Json) : allReadable items = items.all isReadable := by
  induction items with
  | nil => rfl
  | cons item rest ih => rw [allReadable, List.all_cons, ih]

theorem Json.allMembersReadable_eq_all (members : List (String × Json)) :
    allMembersReadable members = members.all fun member => member.2.isReadable := by
  induction members with
  | nil => rfl
  | cons member rest ih => rw [allMembersReadable, List.all_cons, ih]

theorem roundTrips_text : RoundTrips Json.string Document.text := fun _ => rfl

theorem roundTrips_flag : RoundTrips Json.bool Document.flag := fun _ => rfl

theorem roundTrips_word : RoundTrips Json.ofWord Document.word := by
  intro value
  have fits : value.toUInt64.toNat < UInt32.size := by
    rw [UInt32.toNat_toUInt64]
    exact value.toNat_lt_size
  show (if value.toUInt64.toNat < UInt32.size then Except.ok value.toUInt64.toUInt32
    else .error DecodeFault.malformed) = .ok value
  rw [if_pos fits, UInt32.toUInt32_toUInt64]

/-- **What is picked by its name is read back**, if its name is its own. -/
theorem roundTrips_pick {α : Type} {name : α → String} {ofName? : String → Option α}
    (named : ∀ value, ofName? (name value) = some value) :
    RoundTrips (fun value => Json.string (name value)) (Document.pick ofName?) := by
  intro value
  have picked : Document.picked (Json.string (name value)) = .ok (name value) := rfl
  unfold Document.pick
  simp only [picked, bind, Except.bind, named]
  rfl

/-- **A list of what is read back is read back.** -/
theorem RoundTrips.listOf {α : Type} {encode : α → Json} {decode : Json → Except DecodeFault α}
    (trips : RoundTrips encode decode) :
    RoundTrips (fun values => Json.array (values.map encode)) (Document.listOf decode) := by
  intro values
  show (values.map encode).mapM decode = .ok values
  induction values with
  | nil => rfl
  | cons value rest ih =>
      rw [List.map_cons, List.mapM_cons, trips value, ih]
      rfl

theorem roundTrips_texts : RoundTrips Json.ofTexts (Document.listOf Document.text) :=
  roundTrips_text.listOf

/-- An optional member is written under its name. -/
@[simp] theorem Fields.valuesOf_optionalMember {α : Type} {key : String} (name : String)
    (encode : α → Json) (value : Option α) :
    valuesOf key (Json.optionalMember name encode value)
      = if name = key then (value.map encode).toList else [] := by
  cases value <;> simp [Json.optionalMember]

/-- A record is read from its members. -/
theorem Reads.ofLayout {node α : Type} {fields : Fields node α} {members : List (String × node)}
    {value : α} (reads : Reads fields members value) :
    fields.ofLayout (.named members) = .ok value := by
  unfold Reads at reads
  unfold Fields.ofLayout
  simp only [reads]

/-- A record is read from an object by its members. -/
theorem Reads.decode_object {α : Type} {fields : Fields Json α} {members : List (String × Json)}
    {value : α} (reads : Reads fields members value) :
    fields.decode (.object members) = .ok value :=
  reads.ofLayout

/-- A record that is read from an object is read from its members. -/
theorem Reads.of_decode_object {α : Type} {fields : Fields Json α} {members : List (String × Json)}
    {value : α} (decoded : fields.decode (.object members) = .ok value) :
    Reads fields members value := by
  have outcome : fields.ofLayout (.named members) = .ok value := decoded
  unfold Fields.ofLayout at outcome
  unfold Reads
  cases read : fields.named members with
  | ok other => simpa [read] using outcome
  | error fault => simp [read] at outcome

/-- **The tag of an object** is the text under its name, and the other members are the parts. -/
theorem Json.tagged_object {numbered : List String} {tag kind : String}
    {members : List (String × Json)} (written : Fields.valuesOf tag members = [.string kind]) :
    Json.tagged numbered tag (.object members)
      = .ok (kind, .named (members.filter fun member => member.1 != tag)) := by
  unfold Fields.valuesOf at written
  obtain ⟨⟨name, value⟩, only, text⟩ := List.map_eq_singleton_iff.mp written
  obtain rfl : value = .string kind := text
  unfold Json.tagged
  simp only [only, Json.tagName?]

/-- An object without a single text for its tag has none. -/
theorem Json.tagged_object_eq_error {tag : String} {members : List (String × Json)}
    (noText : ∀ kind, Fields.valuesOf tag members ≠ [.string kind]) :
    Json.tagged [] tag (.object members) = .error .malformed := by
  unfold Fields.valuesOf at noText
  unfold Json.tagged
  dsimp only
  cases found : members.filter fun member => member.1 == tag with
  | nil => simp only
  | cons first rest =>
      obtain ⟨name, value⟩ := first
      cases rest with
      | cons second rest => simp only
      | nil =>
          simp only
          rw [found] at noText
          cases value with
          | string kind => exact absurd rfl (noText kind)
          | number number => cases number <;> rfl
          | _ => rfl

end InfoModel
