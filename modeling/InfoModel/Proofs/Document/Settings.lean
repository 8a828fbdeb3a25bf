/-
**Stored settings overlay the usual ones.**

Settings are read from an object that holds some of their members. The members that it holds are
those of the settings, and all others are the usual ones.

* `Json.restricted` leaves out the members of an object that are not kept;
* `Settings.overlaid` takes the kept members from some settings and the others from the usual ones;
* `Settings.decode_restricted`: this is what is read from the kept members. A table of scalar kinds
  is read back as it was (`Settings.roundTrips_scalarMappings`);
* `Settings.stored_overlay` says so of the text as well, of all members, of none, and of a table.
-/

import InfoModel.Document.Settings
import InfoModel.Proofs.Document.Normal

namespace InfoModel

open Fields (valuesOf named_field_eq_ok_iff)

/-! ### Kept members -/

/-- The object with the members of the kept names. -/
def Json.restricted (kept : String → Bool) : Json → Json
  | .object members => .object (members.filter fun member => kept member.1)
  | value => value

/-- **A field is read if it is kept**, and else has its usual value. -/
theorem Reads.defaulted_restricted {α : Type} {encode : α → Json}
    {decode : Json → Except DecodeFault α} (trips : RoundTrips encode decode) {key : String}
    {members : List (String × Json)} {value : α} (kept : String → Bool) (usual : α)
    (written : valuesOf key members = [encode value]) :
    Reads (Fields.defaulted key decode usual) (members.filter fun member => kept member.1)
      (if kept key then value else usual) := by
  refine named_field_eq_ok_iff.mpr ?_
  rw [Fields.valuesOf_filter, written]
  by_cases isKept : kept key = true
  · rw [if_pos isKept, if_pos isKept]
    exact Or.inr ⟨_, rfl, trips value⟩
  · rw [if_neg isKept, if_neg isKept]
    exact Or.inl ⟨rfl, rfl⟩

/-- Members that are left out leave the others exact. -/
theorem Json.isExact_restricted {value : Json} (exact : value.isExact = true)
    (kept : String → Bool) : (value.restricted kept).isExact = true := by
  cases value with
  | object members =>
      rw [isExact_object, allMembersExact_eq_all, List.all_eq_true] at exact
      unfold restricted
      rw [isExact_object, allMembersExact_eq_all, List.all_eq_true]
      intro member listed
      exact exact member (List.mem_filter.mp listed).1
  | _ => exact exact

/-- Members that are left out leave the others as deep as they are. -/
theorem Json.depth_restricted_le (value : Json) (kept : String → Bool) :
    (value.restricted kept).depth ≤ value.depth := by
  cases value with
  | object members =>
      refine Nat.succ_le_succ (membersDepth_le_iff.mpr fun member listed => ?_)
      exact membersDepth_le_iff.mp (Nat.le_refl _) member (List.mem_filter.mp listed).1
  | _ => exact Nat.le_refl _

/-! ### Names and tables -/

theorem ScalarKind.ofName?_name (kind : ScalarKind) : ofName? kind.name = some kind := by
  cases kind <;> rfl

theorem UnmappedTypes.ofName?_name (policy : UnmappedTypes) :
    ofName? policy.name = some policy := by
  cases policy <;> rfl

namespace Settings

/-- **A table of scalar kinds is read back as it was.** -/
theorem roundTrips_scalarMappings :
    RoundTrips (NameMap.toJson fun kind : ScalarKind => .string kind.name)
      decodeScalarMappings := by
  intro table
  have entries : ∀ entries : List (String × ScalarKind),
      (entries.map fun entry => (entry.1, Json.string entry.2.name)).mapM decodeScalarMapping
        = .ok entries := by
    intro entries
    induction entries with
    | nil => rfl
    | cons entry rest ih =>
        have first : decodeScalarMapping (entry.1, Json.string entry.2.name) = .ok entry := by
          unfold decodeScalarMapping
          rw [roundTrips_pick ScalarKind.ofName?_name entry.2]
          rfl
        rw [List.map_cons, List.mapM_cons, first, ih]
        rfl
  show ((table.entries.map fun entry => (entry.1, Json.string entry.2.name)).mapM
    decodeScalarMapping >>= fun entries => pure (NameMap.ofList entries)) = Except.ok table
  rw [entries]
  exact congrArg Except.ok table.ofList_entries

theorem isExact_toJson (settings : Settings) : settings.toJson.isExact = true := by
  have table : (settings.scalarMappings.toJson fun kind => .string kind.name).isExact = true :=
    NameMap.isExact_toJson fun _ _ _ => rfl
  simp [toJson, table]

theorem depth_toJson_le (settings : Settings) : settings.toJson.depth ≤ 2 := by
  have table : (settings.scalarMappings.toJson fun kind => .string kind.name).depth ≤ 1 :=
    NameMap.depth_toJson_le fun _ => Nat.le_refl 0
  simp [toJson, table]

/-! ### Settings -/

/-- **The kept members, and the usual ones otherwise.** -/
def overlaid (settings : Settings) (kept : String → Bool) : Settings :=
  let usual : Settings := {}
  { geometryPrefix :=
      if kept "geometryPrefix" then settings.geometryPrefix else usual.geometryPrefix
    stringSupertype :=
      if kept "stringSupertype" then settings.stringSupertype else usual.stringSupertype
    defaultSrid := if kept "defaultSrid" then settings.defaultSrid else usual.defaultSrid
    scalarMappings :=
      if kept "scalarMappings" then settings.scalarMappings else usual.scalarMappings
    unmappedTypes := if kept "unmappedTypes" then settings.unmappedTypes else usual.unmappedTypes
    includeInherited :=
      if kept "includeInherited" then settings.includeInherited else usual.includeInherited }

/-- **Kept members are read over the usual ones.** -/
theorem decode_restricted (settings : Settings) (kept : String → Bool) :
    decode (settings.toJson.restricted kept) = .ok (settings.overlaid kept) := by
  refine Reads.decode_object
    (Reads.map (.defaulted_restricted roundTrips_text kept _ ?geometryPrefix) _
    |>.seq (.defaulted_restricted roundTrips_text kept _ ?stringSupertype)
    |>.seq (.defaulted_restricted roundTrips_word kept _ ?defaultSrid)
    |>.seq (.defaulted_restricted roundTrips_scalarMappings kept _ ?scalarMappings)
    |>.seq (.defaulted_restricted (roundTrips_pick UnmappedTypes.ofName?_name) kept _
      ?unmappedTypes)
    |>.seq (.defaulted_restricted roundTrips_flag kept _ ?includeInherited))
  all_goals simp

/-- Settings are read from any text that has the value. -/
theorem ofJsonText_of_read {text : String} {value : Json} {settings : Settings}
    (read : Json.read text = .ok value) (decoded : decode value = .ok settings) :
    ofJsonText text = .ok settings := by
  unfold ofJsonText Json.decodeText
  rw [read]
  exact decoded

/-- **Stored settings overlay the usual ones.** From any of the members that settings are written
to, and from the text of these, the settings with the other members as usual are read: all of them
from all members, and the usual ones from none. A table of scalar kinds takes the place of the usual
one. -/
theorem stored_overlay (settings : Settings) (kept : String → Bool) :
    decode (settings.toJson.restricted kept) = .ok (settings.overlaid kept) ∧
    ofJsonText (settings.toJson.restricted kept).compact = .ok (settings.overlaid kept) ∧
    decode settings.toJson = .ok settings ∧
    decode (Json.object []) = .ok {} ∧
    decode (Json.object [("scalarMappings",
        settings.scalarMappings.toJson fun kind => .string kind.name)])
      = .ok { scalarMappings := settings.scalarMappings } := by
  have whole : settings.toJson.restricted (fun _ => true) = settings.toJson := by
    simp [toJson, Json.restricted]
  have none : settings.toJson.restricted (fun _ => false) = .object [] := by
    simp [toJson, Json.restricted]
  have table : settings.toJson.restricted (· == "scalarMappings") = .object
      [("scalarMappings", settings.scalarMappings.toJson fun kind => .string kind.name)] := by
    simp [toJson, Json.restricted]
  refine ⟨decode_restricted settings kept, ?_, ?_, ?_, ?_⟩
  · have exact := Json.isExact_restricted settings.isExact_toJson kept
    have shallow := (settings.toJson.depth_restricted_le kept).trans settings.depth_toJson_le
    exact ofJsonText_of_read (Json.read_compact exact (shallow.trans (by decide)))
      (decode_restricted settings kept)
  · rw [← whole]
    exact decode_restricted settings _
  · rw [← none]
    exact decode_restricted settings _
  · rw [← table]
    exact decode_restricted settings _

end Settings

end InfoModel
