/-
**The order of the alternatives of a choice.**

A choice that is not all geometries is resolved if its alternatives share their topmost supertype,
and then its first alternative is resolved for all. Datatypes with one topmost supertype can have
different value types: an enumeration below a number is a text, the number itself is none.

* `Resolver.rule` is what decides the value type of a datatype, and `Resolver.ruleName?` what this
  comes to over a topmost supertype (`valueTypeName_eq_ok_iff`);
* `Resolver.Alike` goes through the pairs of rules: which two give the same name over one topmost
  supertype (`ruleName?_eq_iff_alike`);
* `choice_order_idle_iff`: the order is of no account just if all alternatives are geometries, two
  of them have different topmost supertypes, or the rules of any two are alike.
-/

import InfoModel.Proofs.Mapping.Faults

namespace InfoModel.Resolver

variable {resolver : Resolver} {member name datatype : String} {alternatives : List String}

/-! ### Rules -/

/-- What decides the value type of a datatype. -/
inductive Rule where
  /-- It is a text by its declaration or by one of its supertypes. -/
  | text
  /-- It is a geometry by its name. -/
  | geometry
  /-- It is what its topmost supertype is. -/
  | base

/-- The rule that a datatype is resolved by. -/
def rule (resolver : Resolver) (datatype : String) : Rule :=
  if resolver.isDeclaredText datatype ||
      resolver.catalogue.datatypeHierarchy.isSubtype datatype resolver.settings.stringSupertype then
    .text
  else if resolver.settings.isGeometryName datatype then .geometry
  else .base

/-- The name of the value type of a topmost supertype, unless the settings say to stop. -/
def baseName? (resolver : Resolver) (base : String) : Option String :=
  match resolver.settings.scalarKind? base, resolver.settings.unmappedTypes with
  | some kind, _ => some kind.name
  | none, .passThrough => some base
  | none, .fail => none

/-- The name of the value type that a rule gives to datatypes with this topmost supertype. -/
def ruleName? (resolver : Resolver) (base : String) : Rule → Option String
  | .text => some ScalarKind.string.name
  | .geometry => some ScalarKind.geometry.name
  | .base => resolver.baseName? base

theorem baseOutcome_eq_ok_iff_baseName? {base : String} :
    resolver.settings.baseOutcome datatype base = .ok name ↔
      resolver.baseName? base = some name := by
  unfold Settings.baseOutcome baseName?
  cases resolver.settings.scalarKind? base with
  | some kind => simp
  | none => cases resolver.settings.unmappedTypes <;> simp

/-- **The value type of a datatype is what its rule gives over its topmost supertype.** -/
theorem valueTypeName_eq_ok_iff : (resolver.valueTypeName datatype).outcome = .ok name ↔
    resolver.ruleName? (resolver.base datatype) (resolver.rule datatype) = some name := by
  have done (other : String) : (Except.ok other : Except MappingFault String) = .ok name ↔
      some other = some name :=
    ⟨fun same => congrArg some (Except.ok.inj same), fun same => congrArg _ (Option.some.inj same)⟩
  rw [outcome_valueTypeName]
  unfold rule
  simp only [Bool.or_eq_true]
  by_cases text : resolver.isDeclaredText datatype = true ∨
      resolver.catalogue.datatypeHierarchy.isSubtype datatype
        resolver.settings.stringSupertype = true
  · rw [if_pos text, if_pos text]
    exact done _
  rw [if_neg text, if_neg text]
  by_cases geometry : resolver.settings.isGeometryName datatype = true
  · rw [if_pos geometry, if_pos geometry]
    exact done _
  rw [if_neg geometry, if_neg geometry]
  exact baseOutcome_eq_ok_iff_baseName?

/-- **Two rules give the same name over a topmost supertype.** A text is no geometry; the topmost
supertype may happen to be either. -/
def Alike (resolver : Resolver) (base : String) : Rule → Rule → Prop
  | .text, .text | .geometry, .geometry | .base, .base => True
  | .text, .geometry | .geometry, .text => False
  | .text, .base | .base, .text => resolver.baseName? base = some ScalarKind.string.name
  | .geometry, .base | .base, .geometry => resolver.baseName? base = some ScalarKind.geometry.name

theorem ruleName?_eq_iff_alike (base : String) (first second : Rule) :
    resolver.ruleName? base first = resolver.ruleName? base second ↔
      resolver.Alike base first second := by
  have distinct : some ScalarKind.string.name ≠ some ScalarKind.geometry.name := by decide
  cases first <;> cases second <;> simp only [ruleName?, Alike]
  case text.geometry => exact iff_of_false distinct id
  case geometry.text => exact iff_of_false distinct.symm id
  case text.base | geometry.base => exact eq_comm

/-- Datatypes with one topmost supertype are resolved alike just if their rules are alike. -/
theorem valueTypeName_iff_alike {first second : String}
    (agree : resolver.base first = resolver.base second) :
    (∀ name, (resolver.valueTypeName first).outcome = .ok name ↔
        (resolver.valueTypeName second).outcome = .ok name) ↔
      resolver.Alike (resolver.base first) (resolver.rule first) (resolver.rule second) := by
  rw [← ruleName?_eq_iff_alike, Option.ext_iff]
  refine forall_congr' fun name => ?_
  rw [valueTypeName_eq_ok_iff, valueTypeName_eq_ok_iff, ← agree]

/-! ### Choices -/

theorem allEqual_map_iff {α : Type} {items : List α} {value : α → String} :
    allEqual (items.map value) = true ↔ ∀ first ∈ items, ∀ second ∈ items,
      value first = value second := by
  constructor
  · cases items with
    | nil => exact fun _ _ member => nomatch member
    | cons head tail =>
        intro equal
        have toHead : ∀ item ∈ head :: tail, value item = value head := by
          simpa [allEqual] using equal
        exact fun first member second among =>
          (toHead first member).trans (toHead second among).symm
  · intro agree
    by_contra different
    obtain ⟨first, member, second, among, ne⟩ :=
      exists_ne_of_allEqual_eq_false (Bool.not_eq_true _ ▸ different)
    exact ne (agree first member second among)

/-- All alternatives are geometries. -/
def Geometries (resolver : Resolver) (alternatives : List String) : Prop :=
  ∀ alternative ∈ alternatives, resolver.settings.isGeometryName alternative = true

/-- All alternatives have the same topmost supertype. -/
def Agree (resolver : Resolver) (alternatives : List String) : Prop :=
  ∀ first ∈ alternatives, ∀ second ∈ alternatives, resolver.base first = resolver.base second

theorem choice_of_geometries (geometries : resolver.Geometries alternatives) :
    resolver.choice member alternatives = .done ScalarKind.geometry.name :=
  if_pos (List.all_eq_true.mpr geometries)

/-- Alternatives with different topmost supertypes are not resolved. -/
theorem choice_of_not_agree (geometries : ¬ resolver.Geometries alternatives)
    (agree : ¬ resolver.Agree alternatives) :
    resolver.choice member alternatives = .fail (.unsupportedChoice member alternatives) := by
  unfold choice
  rw [if_neg (mt List.all_eq_true.mp geometries)]
  cases alternatives with
  | nil => rfl
  | cons first others => exact if_neg (mt allEqual_map_iff.mp agree)

/-- **The first alternative is resolved for all.** -/
theorem choice_of_agree {first : String} {others : List String}
    (geometries : ¬ resolver.Geometries (first :: others))
    (agree : resolver.Agree (first :: others)) :
    resolver.choice member (first :: others) = resolver.valueTypeName first := by
  unfold choice
  rw [if_neg (mt List.all_eq_true.mp geometries)]
  exact if_pos (allEqual_map_iff.mpr agree)

/-! ### Reordered choices -/

variable {reordered : List String}

theorem geometries_reordered (permuted : reordered.Perm alternatives) :
    resolver.Geometries reordered ↔ resolver.Geometries alternatives :=
  forall_congr' fun _ => by rw [permuted.mem_iff]

theorem agree_reordered (permuted : reordered.Perm alternatives) :
    resolver.Agree reordered ↔ resolver.Agree alternatives :=
  forall_congr' fun _ => by simp only [permuted.mem_iff]

/-- **What a choice comes to in any order.** Only where the alternatives share their topmost
supertype does the order come in: the alternative that stands first is resolved for all. -/
theorem outcome_choice_reordered (permuted : reordered.Perm alternatives) :
    (resolver.Geometries alternatives →
      (resolver.choice member reordered).outcome = .ok ScalarKind.geometry.name) ∧
    (¬ resolver.Geometries alternatives → ¬ resolver.Agree alternatives →
      (resolver.choice member reordered).outcome = .error (.unsupportedChoice member reordered)) ∧
    (¬ resolver.Geometries alternatives → resolver.Agree alternatives →
      ∃ first others, reordered = first :: others ∧
        (resolver.choice member reordered).outcome = (resolver.valueTypeName first).outcome) := by
  rw [← geometries_reordered permuted, ← agree_reordered permuted]
  refine ⟨fun geometries => by rw [choice_of_geometries geometries]; rfl,
    fun geometries agree => by rw [choice_of_not_agree geometries agree]; rfl,
    fun geometries agree => ?_⟩
  cases reordered with
  | nil => exact absurd (fun _ member => nomatch member) geometries
  | cons first others => exact ⟨first, others, rfl, by rw [choice_of_agree geometries agree]⟩

/-- Any alternative can be put first. -/
theorem exists_reordered_choice (member : String) (geometries : ¬ resolver.Geometries alternatives)
    (agree : resolver.Agree alternatives) (among : datatype ∈ alternatives) :
    ∃ reordered, reordered.Perm alternatives ∧
      resolver.choice member reordered = resolver.valueTypeName datatype := by
  have permuted := (List.perm_cons_erase among).symm
  exact ⟨_, permuted, choice_of_agree (mt (geometries_reordered permuted).mp geometries)
    ((agree_reordered permuted).mpr agree)⟩

/-- **When the order of alternatives is of no account**: no order is resolved to what another one is
not, just if all alternatives are geometries, or two of them have different topmost supertypes, or
the rules of any two give the same name over their topmost supertype. -/
theorem choice_order_idle_iff (resolver : Resolver) (member : String)
    (alternatives : List String) :
    (∀ reordered, reordered.Perm alternatives → ∀ name,
      (resolver.choice member reordered).outcome = .ok name ↔
        (resolver.choice member alternatives).outcome = .ok name) ↔
    resolver.Geometries alternatives ∨ ¬ resolver.Agree alternatives ∨
      ∀ first ∈ alternatives, ∀ second ∈ alternatives,
        resolver.Alike (resolver.base first) (resolver.rule first) (resolver.rule second) := by
  by_cases geometries : resolver.Geometries alternatives
  · refine iff_of_true (fun reordered permuted name => ?_) (Or.inl geometries)
    rw [(outcome_choice_reordered permuted).1 geometries,
      (outcome_choice_reordered (.refl _)).1 geometries]
  by_cases agree : resolver.Agree alternatives
  · rw [or_iff_right geometries, or_iff_right (not_not.mpr agree)]
    constructor
    · -- Either of two alternatives can be put first, so both have the value type of the choice.
      intro idle first isFirst second isSecond
      obtain ⟨led, permuted, leads⟩ := exists_reordered_choice member geometries agree isFirst
      obtain ⟨followed, moved, follows⟩ :=
        exists_reordered_choice member geometries agree isSecond
      refine (valueTypeName_iff_alike (agree first isFirst second isSecond)).mp fun name => ?_
      rw [← leads, ← follows, idle led permuted name, idle followed moved name]
    · intro alike reordered permuted name
      obtain ⟨first, others, rfl, leads⟩ :=
        (outcome_choice_reordered permuted).2.2 geometries agree
      obtain ⟨second, rest, rfl, follows⟩ :=
        (outcome_choice_reordered (.refl _)).2.2 geometries agree
      have isFirst := permuted.mem_iff.mp List.mem_cons_self
      have isSecond : second ∈ second :: rest := List.mem_cons_self
      rw [leads, follows]
      exact (valueTypeName_iff_alike (agree first isFirst second isSecond)).mpr
        (alike first isFirst second isSecond) name
  · refine iff_of_true (fun reordered permuted name => ?_) (Or.inr (Or.inl agree))
    rw [(outcome_choice_reordered permuted).2.1 geometries agree,
      (outcome_choice_reordered (.refl _)).2.1 geometries agree]
    exact iff_of_false (by rintro ⟨⟩) (by rintro ⟨⟩)

/-! ### An enumeration of numbers -/

/-- Grades are an enumeration below the integers. -/
def grades : InformationModel where
  name := "M"
  packages := [{
    name := "P"
    datatypes := [
      { name := "Grade", supertypes := ["Integer"], form := .enumeration ["1", "2"] }] }]

/-- **The order of alternatives can decide their value type**: a grade is a text, an integer is
none. -/
theorem choice_order_decides_value_type : ∃ catalogue,
    (Catalogue.build grades).outcome = .ok catalogue ∧
      ["Grade", "Integer"].Perm ["Integer", "Grade"] ∧
      ((⟨catalogue, {}⟩ : Resolver).choice "score" ["Grade", "Integer"]).outcome = .ok "String" ∧
      ((⟨catalogue, {}⟩ : Resolver).choice "score" ["Integer", "Grade"]).outcome
        = .ok "Integer" :=
  ⟨_, rfl, .swap _ _ _, rfl, rfl⟩

end InfoModel.Resolver
