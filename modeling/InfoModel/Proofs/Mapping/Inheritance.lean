/-
**What an object type takes over.**

An object type takes over the members of its lineage. Under every name it keeps the property of the
first type of the lineage that declares the name, its first declarer, and there is no other outcome
than that or a fault.

* `inherit_eq_ok_iff`: one type of the lineage adds just the names that are not there yet, and fails
  just if one that is there is kept by a type that does not derive from it;
* `flatten_eq_ok_iff`: a lineage is taken over just if the members of all its types can be mapped
  and the first declarer of every name is a subtype of its other declarers (`Pass.Clashless`); then
  the first declarers' properties are kept (`Pass.taken`);
* `objectType_eq_ok_iff` says the same of the finished object type, name by name;
* `duplicateProperty_of_flatten`: where all members can be mapped, a failure is a repeated property.
-/

import InfoModel.Proofs.Mapping.Emission

namespace InfoModel

namespace Pass

variable {pass : Pass} {objectType declarer : String}

/-! ### Kept properties -/

theorem keeper?_append (kept more : List Declared) (name : String) :
    keeper? (kept ++ more) name = (keeper? kept name).or (keeper? more name) := by
  unfold keeper?
  rw [List.find?_append]
  cases kept.find? fun declared => declared.property.name == name <;> rfl

/-- A keeper is the declarer of a property of the name that is kept. -/
theorem mem_of_keeper?_eq_some {kept : List Declared} {name keeper : String}
    (found : keeper? kept name = some keeper) :
    ∃ declared ∈ kept, declared.declarer = keeper ∧ declared.property.name = name := by
  obtain ⟨declared, first, same⟩ := Option.map_eq_some_iff.mp found
  exact ⟨declared, List.mem_of_find?_eq_some first, same, by simpa using List.find?_some first⟩

/-- The properties of a type under names that are not kept yet. -/
def fresh (kept : List Declared) (declarer : String) (properties : List Property) : List Declared :=
  (properties.filter fun property => (keeper? kept property.name).isNone).map fun property =>
    ⟨declarer, property⟩

theorem keeper?_map (declarer name : String) (properties : List Property) :
    keeper? (properties.map fun property => ⟨declarer, property⟩) name =
      if name ∈ properties.map Property.name then some declarer else none := by
  induction properties with
  | nil => rfl
  | cons head rest ih =>
      unfold keeper? at ih ⊢
      rw [List.map_cons, List.find?_cons]
      by_cases same : head.name = name
      · simp [same]
      · simp only [beq_eq_false_iff_ne.mpr same, ih, List.map_cons, List.mem_cons, Ne.symm same,
          false_or]

/-- The keepers after a type of the lineage: the ones before, and that type for its other names. -/
theorem keeper?_append_fresh (kept : List Declared) (declarer name : String)
    (properties : List Property) :
    keeper? (kept ++ fresh kept declarer properties) name = (keeper? kept name).or
      (if name ∈ properties.map Property.name then some declarer else none) := by
  rw [keeper?_append, fresh, keeper?_map]
  cases found : keeper? kept name with
  | some keeper => rfl
  | none =>
      have same : name ∈ (properties.filter fun property =>
            (keeper? kept property.name).isNone).map Property.name
          ↔ name ∈ properties.map Property.name := by
        simp only [List.mem_map, List.mem_filter]
        constructor
        · rintro ⟨property, ⟨member, -⟩, rfl⟩
          exact ⟨property, member, rfl⟩
        · rintro ⟨property, member, rfl⟩
          exact ⟨property, ⟨member, by rw [found]; rfl⟩, rfl⟩
      simp only [same]

/-- A property more does not change who keeps the other names. -/
theorem keeper?_append_singleton_of_ne (kept : List Declared) {property : Property} {name : String}
    (different : property.name ≠ name) :
    keeper? (kept ++ [⟨declarer, property⟩]) name = keeper? kept name := by
  have none : keeper? [⟨declarer, property⟩] name = none := by simp [keeper?, different]
  rw [keeper?_append, none, Option.or_none]

/-- A property whose name is kept already is not new. -/
theorem fresh_cons_of_kept {kept : List Declared} {property : Property} {rest : List Property}
    {keeper : String} (found : keeper? kept property.name = some keeper) :
    fresh kept declarer (property :: rest) = fresh kept declarer rest := by
  unfold fresh
  rw [List.filter_cons_of_neg (by rw [found]; simp)]

/-- A property whose name is not kept is new, and then its name is kept. -/
theorem append_fresh_cons_of_new {kept : List Declared} {property : Property} {rest : List Property}
    (found : keeper? kept property.name = none)
    (once : property.name ∉ rest.map Property.name) :
    kept ++ fresh kept declarer (property :: rest)
      = (kept ++ [⟨declarer, property⟩]) ++
        fresh (kept ++ [⟨declarer, property⟩]) declarer rest := by
  have names : rest.filter (fun later =>
      (keeper? (kept ++ [⟨declarer, property⟩]) later.name).isNone)
      = rest.filter fun later => (keeper? kept later.name).isNone := by
    refine List.filter_congr fun later member => ?_
    have different : property.name ≠ later.name := fun same =>
      once (same ▸ List.mem_map_of_mem member)
    rw [keeper?_append_singleton_of_ne kept different]
  unfold fresh
  rw [List.filter_cons_of_pos (by rw [found]; rfl), names, List.map_cons, List.append_assoc]
  rfl

/-! ### One type of the lineage -/

/-- **One type adds its new names**, and fails just if one of its names is kept by a type that does
not derive from it. -/
theorem inherit_eq_ok_iff {kept result : List Declared} {properties : List Property}
    (distinct : (properties.map Property.name).Nodup) :
    (pass.inherit objectType declarer kept properties).outcome = .ok result ↔
      (∀ property ∈ properties, ∀ keeper, keeper? kept property.name = some keeper →
        pass.catalogue.objectTypeHierarchy.isSubtype keeper declarer = true) ∧
      result = kept ++ fresh kept declarer properties := by
  induction properties generalizing kept with
  | nil =>
      rw [inherit, Recorded.done, Except.ok.injEq, fresh, List.filter_nil, List.map_nil,
        List.append_nil, eq_comm]
      simp
  | cons property rest ih =>
      rw [List.map_cons, List.nodup_cons] at distinct
      rw [inherit]
      cases found : keeper? kept property.name with
      | none =>
          have others : ∀ later ∈ rest,
              keeper? (kept ++ [⟨declarer, property⟩]) later.name = keeper? kept later.name :=
            fun later member => keeper?_append_singleton_of_ne kept fun same =>
              distinct.1 (same ▸ List.mem_map_of_mem member)
          show (pass.inherit objectType declarer (kept ++ [⟨declarer, property⟩]) rest).outcome
            = .ok result ↔ _
          rw [append_fresh_cons_of_new found distinct.1, ih distinct.2, List.forall_mem_cons, found]
          refine and_congr_left fun _ => ?_
          constructor
          · intro yields
            refine ⟨nofun, fun later member keeper keeps => ?_⟩
            exact yields later member keeper (by rw [others later member, keeps])
          · rintro ⟨-, yields⟩ later member keeper keeps
            exact yields later member keeper (by rw [← others later member, keeps])
      | some keeper =>
          rw [fresh_cons_of_kept found, List.forall_mem_cons, found]
          simp only [Option.some.injEq]
          by_cases below :
              pass.catalogue.objectTypeHierarchy.isSubtype keeper declarer = true
          · rw [if_pos below, Recorded.outcome_bind_eq_ok_iff]
            constructor
            · rintro ⟨_, -, succeeds⟩
              obtain ⟨yields, result⟩ := (ih distinct.2).mp succeeds
              exact ⟨⟨fun _ is => is ▸ below, yields⟩, result⟩
            · rintro ⟨⟨-, yields⟩, result⟩
              exact ⟨(), rfl, (ih distinct.2).mpr ⟨yields, result⟩⟩
          · rw [if_neg below]
            constructor
            · rintro ⟨⟩
            · rintro ⟨⟨yields, -⟩, -⟩
              exact absurd (yields keeper rfl) below

/-- A failure is a repeated property of the object type. -/
theorem duplicateProperty_of_inherit {kept : List Declared} {properties : List Property}
    {fault : MappingFault}
    (failed : (pass.inherit objectType declarer kept properties).outcome = .error fault) :
    ∃ name, fault = .duplicateProperty objectType name := by
  induction properties generalizing kept with
  | nil => cases failed
  | cons property rest ih =>
      rw [inherit] at failed
      split at failed
      · exact ih failed
      · split at failed
        · rename_i keeper _ below
          rw [Recorded.outcome_bind] at failed
          exact ih failed
        · cases failed
          exact ⟨property.name, rfl⟩

/-! ### The lineage -/

/-- The properties that a type declares itself, as far as they can be mapped. -/
def ownProperties (pass : Pass) (declared : ObjectTypeDeclaration) : List Property :=
  match (pass.members declared.name declared.members).outcome with
  | .ok properties => properties
  | .error _ => []

/-- The members of a type can be mapped. -/
def MapsMembers (pass : Pass) (declared : ObjectTypeDeclaration) : Prop :=
  ∃ properties, (pass.members declared.name declared.members).outcome = .ok properties

theorem members_eq_ok_iff_ownProperties {declared : ObjectTypeDeclaration}
    {properties : List Property} :
    (pass.members declared.name declared.members).outcome = .ok properties ↔
      pass.MapsMembers declared ∧ properties = pass.ownProperties declared := by
  unfold MapsMembers ownProperties
  cases (pass.members declared.name declared.members).outcome <;> simp [eq_comm]

/-- The first type of a lineage that declares a name. -/
def firstDeclarer? (pass : Pass) (lineage : List ObjectTypeDeclaration) (name : String) :
    Option ObjectTypeDeclaration :=
  lineage.find? fun declared => name ∈ pass.memberNames declared.members

/-- The type that holds a name: the one that keeps it already, else the first that declares it. -/
def holder? (pass : Pass) (kept : List Declared) (lineage : List ObjectTypeDeclaration)
    (name : String) : Option String :=
  (keeper? kept name).or ((pass.firstDeclarer? lineage name).map ObjectTypeDeclaration.name)

/-- The properties taken over from a lineage: each type's under the names that it holds. -/
def taken (pass : Pass) (kept : List Declared) (lineage : List ObjectTypeDeclaration) :
    List Declared :=
  lineage.flatMap fun declared =>
    ((pass.ownProperties declared).filter fun property =>
      pass.holder? kept lineage property.name = some declared.name).map fun property =>
        ⟨declared.name, property⟩

/-- **No clash**: the holder of a name derives from all other types of the lineage that declare the
name. -/
def Clashless (pass : Pass) (kept : List Declared) (lineage : List ObjectTypeDeclaration) : Prop :=
  ∀ name holder, pass.holder? kept lineage name = some holder →
    ∀ declared ∈ lineage, name ∈ pass.memberNames declared.members → declared.name ≠ holder →
      pass.catalogue.objectTypeHierarchy.isSubtype holder declared.name = true

theorem map_name_ownProperties {declared : ObjectTypeDeclaration}
    (maps : pass.MapsMembers declared) :
    (pass.ownProperties declared).map Property.name = pass.memberNames declared.members :=
  map_name_of_members (members_eq_ok_iff_ownProperties.mpr ⟨maps, rfl⟩)

/-- A type that declares a name has a property of that name. -/
theorem exists_ownProperty {declared : ObjectTypeDeclaration} (maps : pass.MapsMembers declared)
    {name : String} (named : name ∈ pass.memberNames declared.members) :
    ∃ property ∈ pass.ownProperties declared, property.name = name := by
  rw [← map_name_ownProperties maps] at named
  exact List.mem_map.mp named

theorem nodup_map_name_ownProperties {declared : ObjectTypeDeclaration}
    (maps : pass.MapsMembers declared) :
    ((pass.ownProperties declared).map Property.name).Nodup := by
  obtain ⟨properties, mapped⟩ := maps
  rw [map_name_ownProperties ⟨properties, mapped⟩]
  exact (members_eq_ok_iff.mp mapped).1

section Step

variable {kept : List Declared} {declared : ObjectTypeDeclaration}
  {rest : List ObjectTypeDeclaration}

theorem holder?_cons_of_mem {name : String} (member : name ∈ pass.memberNames declared.members) :
    pass.holder? kept (declared :: rest) name
      = (keeper? kept name).or (some declared.name) := by
  unfold holder? firstDeclarer?
  rw [List.find?_cons_of_pos (by simpa using member)]
  rfl

/-- Taking over the first type does not change who holds a name. -/
theorem holder?_step (maps : pass.MapsMembers declared) (name : String) :
    pass.holder? (kept ++ fresh kept declared.name (pass.ownProperties declared)) rest name
      = pass.holder? kept (declared :: rest) name := by
  by_cases member : name ∈ pass.memberNames declared.members
  · rw [holder?_cons_of_mem member, holder?, keeper?_append_fresh, map_name_ownProperties maps,
      if_pos member]
    cases keeper? kept name <;> rfl
  · unfold holder? firstDeclarer?
    rw [keeper?_append_fresh, map_name_ownProperties maps, if_neg member, Option.or_none,
      List.find?_cons_of_neg (by simpa using member)]

/-- The first type takes over its names that are not kept yet, the others go on from there. -/
theorem taken_step (maps : pass.MapsMembers declared)
    (unkept : ∀ entry ∈ kept, entry.declarer ≠ declared.name) :
    pass.taken kept (declared :: rest) =
      fresh kept declared.name (pass.ownProperties declared) ++
        pass.taken (kept ++ fresh kept declared.name (pass.ownProperties declared)) rest := by
  have head : (pass.ownProperties declared).filter (fun property =>
        pass.holder? kept (declared :: rest) property.name = some declared.name)
      = (pass.ownProperties declared).filter fun property =>
        (keeper? kept property.name).isNone := by
    refine List.filter_congr fun property member => ?_
    have named : property.name ∈ pass.memberNames declared.members := by
      rw [← map_name_ownProperties maps]
      exact List.mem_map_of_mem member
    rw [holder?_cons_of_mem named]
    cases found : keeper? kept property.name with
    | none => simp
    | some keeper =>
        obtain ⟨entry, inKept, same, -⟩ := mem_of_keeper?_eq_some found
        have ne : keeper ≠ declared.name := same ▸ unkept entry inKept
        simp [ne]
  unfold taken
  rw [List.flatMap_cons, head]
  simp only [holder?_step maps]
  rfl

/-- The first type clashes with nothing kept, and the others do not clash from there. -/
theorem clashless_step (maps : pass.MapsMembers declared)
    (unkept : ∀ entry ∈ kept, entry.declarer ≠ declared.name) :
    pass.Clashless kept (declared :: rest) ↔
      (∀ property ∈ pass.ownProperties declared, ∀ keeper,
        keeper? kept property.name = some keeper →
          pass.catalogue.objectTypeHierarchy.isSubtype keeper declared.name = true) ∧
      pass.Clashless (kept ++ fresh kept declared.name (pass.ownProperties declared)) rest := by
  unfold Clashless
  simp only [holder?_step maps, List.forall_mem_cons]
  constructor
  · intro clashless
    refine ⟨?_, fun name holder holds => (clashless name holder holds).2⟩
    intro property member keeper keeps
    have named : property.name ∈ pass.memberNames declared.members := by
      rw [← map_name_ownProperties maps]
      exact List.mem_map_of_mem member
    have holds : pass.holder? kept (declared :: rest) property.name = some keeper := by
      rw [holder?_cons_of_mem named, keeps]
      rfl
    obtain ⟨entry, inKept, same, -⟩ := mem_of_keeper?_eq_some keeps
    exact (clashless _ _ holds).1 named (same ▸ (unkept entry inKept).symm)
  · rintro ⟨yields, clashless⟩ name holder holds
    refine ⟨fun named ne => ?_, clashless name holder holds⟩
    rw [holder?_cons_of_mem named] at holds
    cases keeps : keeper? kept name with
    | none =>
        rw [keeps] at holds
        exact absurd (Option.some.inj holds) ne
    | some keeper =>
        rw [keeps] at holds
        obtain rfl := Option.some.inj holds
        obtain ⟨property, member, rfl⟩ := exists_ownProperty maps named
        exact yields property member keeper keeps

end Step

/-- **A lineage is taken over just if its members can be mapped and do not clash**, and every name
goes to its holder. -/
theorem flatten_eq_ok_iff {kept result : List Declared} {lineage : List ObjectTypeDeclaration}
    (nodup : (lineage.map ObjectTypeDeclaration.name).Nodup)
    (unkept : ∀ entry ∈ kept, ∀ declared ∈ lineage, entry.declarer ≠ declared.name) :
    (pass.flatten objectType kept lineage).outcome = .ok result ↔
      (∀ declared ∈ lineage, pass.MapsMembers declared) ∧ pass.Clashless kept lineage ∧
        result = kept ++ pass.taken kept lineage := by
  induction lineage generalizing kept with
  | nil =>
      rw [flatten, Recorded.done, Except.ok.injEq, taken, List.flatMap_nil, List.append_nil,
        eq_comm]
      simp [Clashless]
  | cons declared rest ih =>
      rw [List.map_cons, List.nodup_cons] at nodup
      have unkeptHead : ∀ entry ∈ kept, entry.declarer ≠ declared.name :=
        fun entry member => unkept entry member declared List.mem_cons_self
      -- what is kept never stems from a type still to come, since lineages list a type once
      have unkeptRest : ∀ entry ∈ kept ++ fresh kept declared.name (pass.ownProperties declared),
          ∀ later ∈ rest, entry.declarer ≠ later.name := by
        intro entry member later inRest same
        rcases List.mem_append.mp member with before | now
        · exact unkept entry before later (List.mem_cons_of_mem _ inRest) same
        · obtain ⟨property, -, rfl⟩ := List.mem_map.mp now
          have : declared.name = later.name := same
          exact nodup.1 (this ▸ List.mem_map_of_mem inRest)
      rw [flatten, Recorded.outcome_bind_eq_ok_iff, List.forall_mem_cons]
      constructor
      · rintro ⟨properties, mapped, further⟩
        obtain ⟨maps, rfl⟩ := members_eq_ok_iff_ownProperties.mp mapped
        obtain ⟨next, inherited, flattened⟩ := Recorded.outcome_bind_eq_ok_iff.mp further
        obtain ⟨yields, rfl⟩ := (inherit_eq_ok_iff (nodup_map_name_ownProperties maps)).mp inherited
        obtain ⟨mapsRest, clashless, same⟩ := (ih nodup.2 unkeptRest).mp flattened
        refine ⟨⟨maps, mapsRest⟩, (clashless_step maps unkeptHead).mpr ⟨yields, clashless⟩, ?_⟩
        rw [same, taken_step maps unkeptHead, List.append_assoc]
      · rintro ⟨⟨maps, mapsRest⟩, clashless, same⟩
        obtain ⟨yields, clashlessRest⟩ := (clashless_step maps unkeptHead).mp clashless
        refine ⟨_, members_eq_ok_iff_ownProperties.mpr ⟨maps, rfl⟩,
          Recorded.outcome_bind_eq_ok_iff.mpr ⟨_,
            (inherit_eq_ok_iff (nodup_map_name_ownProperties maps)).mpr ⟨yields, rfl⟩, ?_⟩⟩
        rw [ih nodup.2 unkeptRest]
        refine ⟨mapsRest, clashlessRest, ?_⟩
        rw [same, taken_step maps unkeptHead, List.append_assoc]

/-- Where all members can be mapped, a failure is a repeated property of the object type. -/
theorem duplicateProperty_of_flatten {kept : List Declared}
    {lineage : List ObjectTypeDeclaration} {fault : MappingFault}
    (maps : ∀ declared ∈ lineage, pass.MapsMembers declared)
    (failed : (pass.flatten objectType kept lineage).outcome = .error fault) :
    ∃ name, fault = .duplicateProperty objectType name := by
  induction lineage generalizing kept with
  | nil => cases failed
  | cons declared rest ih =>
      obtain ⟨properties, mapped⟩ := maps declared List.mem_cons_self
      rw [flatten, Recorded.outcome_bind, mapped] at failed
      have failed : (pass.inherit objectType declared.name kept properties >>= fun next =>
          pass.flatten objectType next rest).outcome = .error fault := failed
      rw [Recorded.outcome_bind] at failed
      cases inherited : (pass.inherit objectType declared.name kept properties).outcome with
      | error other =>
          rw [inherited] at failed
          cases failed
          exact duplicateProperty_of_inherit inherited
      | ok next =>
          rw [inherited] at failed
          exact ih (fun later member => maps later (List.mem_cons_of_mem _ member)) failed

/-! ### The object type -/

section Taken

variable {lineage : List ObjectTypeDeclaration}

theorem holder?_nil (pass : Pass) (lineage : List ObjectTypeDeclaration) (name : String) :
    pass.holder? [] lineage name
      = (pass.firstDeclarer? lineage name).map ObjectTypeDeclaration.name := rfl

theorem firstDeclarer?_eq_some {name : String} {declared : ObjectTypeDeclaration}
    (first : pass.firstDeclarer? lineage name = some declared) :
    declared ∈ lineage ∧ name ∈ pass.memberNames declared.members :=
  ⟨List.mem_of_find?_eq_some first, by simpa using List.find?_some first⟩

/-- The first declarers of a lineage hold its names. -/
theorem holder?_nil_eq_some_iff (nodup : (lineage.map ObjectTypeDeclaration.name).Nodup)
    {declared : ObjectTypeDeclaration} (member : declared ∈ lineage) {name : String} :
    pass.holder? [] lineage name = some declared.name ↔
      pass.firstDeclarer? lineage name = some declared := by
  rw [holder?_nil, Option.map_eq_some_iff]
  constructor
  · rintro ⟨other, first, same⟩
    rw [← List.inj_on_of_nodup_map nodup (firstDeclarer?_eq_some first).1 member same]
    exact first
  · exact fun first => ⟨declared, first, rfl⟩

/-- The properties taken over from a lineage are those of the first declarers. -/
theorem mem_taken_iff (nodup : (lineage.map ObjectTypeDeclaration.name).Nodup) {entry : Declared} :
    entry ∈ pass.taken [] lineage ↔ ∃ declared,
      pass.firstDeclarer? lineage entry.property.name = some declared ∧
        entry.property ∈ pass.ownProperties declared ∧ entry.declarer = declared.name := by
  unfold taken
  simp only [List.mem_flatMap, List.mem_map, List.mem_filter, decide_eq_true_eq]
  constructor
  · rintro ⟨declared, member, property, ⟨own, holds⟩, rfl⟩
    exact ⟨declared, (holder?_nil_eq_some_iff nodup member).mp holds, own, rfl⟩
  · rintro ⟨declared, first, own, same⟩
    have member := (firstDeclarer?_eq_some first).1
    refine ⟨declared, member, entry.property, ⟨own, ?_⟩, same ▸ rfl⟩
    exact (holder?_nil_eq_some_iff nodup member).mpr first

/-- The properties taken over, by name. -/
theorem mem_map_property_taken_iff (nodup : (lineage.map ObjectTypeDeclaration.name).Nodup)
    {name : String} {property : Property} :
    (property ∈ (pass.taken [] lineage).map Declared.property ∧ property.name = name) ↔
      ∃ declarer, pass.firstDeclarer? lineage name = some declarer ∧
        property ∈ pass.ownProperties declarer ∧ property.name = name := by
  constructor
  · rintro ⟨member, rfl⟩
    obtain ⟨entry, inTaken, rfl⟩ := List.mem_map.mp member
    obtain ⟨declarer, first, own, -⟩ := (mem_taken_iff nodup).mp inTaken
    exact ⟨declarer, first, own, rfl⟩
  · rintro ⟨declarer, first, own, rfl⟩
    have inTaken : ⟨declarer.name, property⟩ ∈ pass.taken [] lineage :=
      (mem_taken_iff nodup).mpr ⟨declarer, first, own, rfl⟩
    exact ⟨List.mem_map.mpr ⟨_, inTaken, rfl⟩, rfl⟩

/-- No name is taken over twice. -/
theorem nodup_map_name_taken (nodup : (lineage.map ObjectTypeDeclaration.name).Nodup)
    (maps : ∀ declared ∈ lineage, pass.MapsMembers declared) :
    (((pass.taken [] lineage).map Declared.property).map Property.name).Nodup := by
  unfold taken
  simp only [List.map_flatMap, List.map_map]
  rw [List.nodup_flatMap]
  constructor
  · intro declared member
    exact (nodup_map_name_ownProperties (maps declared member)).sublist
      (List.filter_sublist.map Property.name)
  · refine (List.pairwise_map.mp nodup).imp fun different => ?_
    intro name inFirst inSecond
    obtain ⟨first, firstMember, rfl⟩ := List.mem_map.mp inFirst
    obtain ⟨second, secondMember, same⟩ := List.mem_map.mp inSecond
    have firstHolds := (List.mem_filter.mp firstMember).2
    have secondHolds := (List.mem_filter.mp secondMember).2
    have same : second.name = first.name := same
    rw [decide_eq_true_eq] at firstHolds secondHolds
    rw [same, firstHolds] at secondHolds
    exact different (Option.some.inj secondHolds)

end Taken

/-- The types that an object type takes members from, the object type first. -/
def lineage (pass : Pass) (declared : ObjectTypeDeclaration) : List ObjectTypeDeclaration :=
  pass.catalogue.lineage declared pass.mapper.settings.includeInherited

theorem outcome_objectType (pass : Pass) (declared : ObjectTypeDeclaration) :
    (pass.objectType declared).outcome =
      (pass.flatten declared.name [] (pass.lineage declared)).outcome >>= fun kept =>
        ObjectType.Draft.build
          ⟨declared.name, declared.supertypes, kept.map Declared.property⟩ := by
  unfold Pass.objectType
  simp only [Recorded.outcome_bind, Recorded.outcome_report, Recorded.outcome_reportAll,
    Recorded.outcome_ofExcept]
  rfl

section Finished

variable {declared : ObjectTypeDeclaration}
  (nodup : ((pass.lineage declared).map ObjectTypeDeclaration.name).Nodup)

include nodup

theorem flatten_lineage_eq_ok_iff {kept : List Declared} :
    (pass.flatten declared.name [] (pass.lineage declared)).outcome = .ok kept ↔
      ((∀ declarer ∈ pass.lineage declared, pass.MapsMembers declarer) ∧
        pass.Clashless [] (pass.lineage declared)) ∧
        kept = pass.taken [] (pass.lineage declared) := by
  rw [flatten_eq_ok_iff nodup (by simp), and_assoc, List.nil_append]

/-- **A finished object type** carries the properties of the first declarers; it takes that all
members of its lineage can be mapped and do not clash. -/
theorem objectType_eq_ok_iff {result : ObjectType} :
    (pass.objectType declared).outcome = .ok result ↔
      ((∀ declarer ∈ pass.lineage declared, pass.MapsMembers declarer) ∧
        pass.Clashless [] (pass.lineage declared)) ∧
        result.name = declared.name ∧ result.supertypes = declared.supertypes ∧
        ∀ name property, result.property? name = some property ↔ ∃ declarer,
          pass.firstDeclarer? (pass.lineage declared) name = some declarer ∧
            property ∈ pass.ownProperties declarer ∧ property.name = name := by
  rw [outcome_objectType]
  cases flattened : (pass.flatten declared.name [] (pass.lineage declared)).outcome with
  | error fault =>
      constructor
      · rintro ⟨⟩
      · rintro ⟨accepted, -⟩
        rw [(flatten_lineage_eq_ok_iff nodup).mpr ⟨accepted, rfl⟩] at flattened
        cases flattened
  | ok kept =>
      obtain ⟨accepted, rfl⟩ := (flatten_lineage_eq_ok_iff nodup).mp flattened
      constructor
      · intro built
        obtain ⟨-, name, supertypes, found⟩ := ObjectType.Draft.build_eq_ok_iff.mp built
        exact ⟨accepted, name, supertypes, fun other property =>
          (found other property).trans (mem_map_property_taken_iff nodup)⟩
      · rintro ⟨-, name, supertypes, found⟩
        exact ObjectType.Draft.build_eq_ok_iff.mpr
          ⟨nodup_map_name_taken nodup accepted.1, name, supertypes, fun other property =>
            (found other property).trans (mem_map_property_taken_iff nodup).symm⟩

/-- **An object type is emitted** just if its members can all be mapped and do not clash. -/
theorem exists_objectType_eq_ok_iff :
    (∃ result, (pass.objectType declared).outcome = .ok result) ↔
      (∀ declarer ∈ pass.lineage declared, pass.MapsMembers declarer) ∧
        pass.Clashless [] (pass.lineage declared) := by
  constructor
  · rintro ⟨result, succeeds⟩
    exact ((objectType_eq_ok_iff nodup).mp succeeds).1
  · intro accepted
    obtain ⟨table, made⟩ :=
      NameMap.exists_ofDistinct_eq_ok (nodup_map_name_taken nodup accepted.1)
    refine ⟨⟨declared.name, declared.supertypes, table⟩, ?_⟩
    rw [outcome_objectType, (flatten_lineage_eq_ok_iff nodup).mpr ⟨accepted, rfl⟩]
    show ObjectType.Draft.build _ = _
    unfold ObjectType.Draft.build
    rw [made]

/-- **Where all members can be mapped, an object type that is not emitted repeats a property.** -/
theorem exists_duplicateProperty_iff
    (maps : ∀ declarer ∈ pass.lineage declared, pass.MapsMembers declarer) :
    (∃ name, (pass.objectType declared).outcome = .error (.duplicateProperty declared.name name)) ↔
      ¬ pass.Clashless [] (pass.lineage declared) := by
  constructor
  · rintro ⟨name, failed⟩ clashless
    obtain ⟨result, succeeds⟩ := (exists_objectType_eq_ok_iff nodup).mpr ⟨maps, clashless⟩
    rw [failed] at succeeds
    cases succeeds
  · intro clash
    rw [outcome_objectType]
    cases flattened : (pass.flatten declared.name [] (pass.lineage declared)).outcome with
    | error fault =>
        obtain ⟨name, rfl⟩ := duplicateProperty_of_flatten maps flattened
        exact ⟨name, rfl⟩
    | ok kept => exact absurd ((flatten_lineage_eq_ok_iff nodup).mp flattened).1.2 clash

end Finished

end Pass

/-- No two types of a lineage have the same name. -/
theorem Mapper.nodup_map_name_lineage (mapper : Mapper) (model : InformationModel)
    (declared : ObjectTypeDeclaration) :
    (((mapper.passOver model).lineage declared).map ObjectTypeDeclaration.name).Nodup :=
  InformationModel.nodup_lineage declared mapper.settings.includeInherited

end InfoModel
