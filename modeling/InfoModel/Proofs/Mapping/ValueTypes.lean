/-
**What the value type of a datatype is.**

The rules of the value types, read off the first declarations of a model.

* `InformationModel.IsText`, `InformationModel.IsBase`: which datatypes are texts, and which topmost
  type counts for a datatype. `InformationModel.MapsBase`: which scalar kind the table of the
  settings gives it. `InformationModel.TypesAs` is the list of the rules in their order;
* `typesAs_iff`: a datatype has the value type that the rules give;
* `agreeOn_above`: models with the same declarations of a datatype and the types above it agree on
  what is above it;
* `valueTypeName_exact` says both of a model that has a catalogue.
-/

import InfoModel.Proofs.Hierarchy.Topmost
import InfoModel.Proofs.Mapping.Extension

open Relation

namespace InfoModel

/-- **The forms of texts**: the enumerations, the code lists, and the primitives with a pattern that
is not blank. -/
inductive DatatypeForm.Textual : DatatypeForm → Prop where
  | enumeration {values : List String} : Textual (.enumeration values)
  | codeList {location : Option String} : Textual (.codeList location)
  | pattern {pattern : String} (visible : ∃ char ∈ pattern.toList, Text.isBlank char = false) :
      Textual (.primitive (some pattern))

namespace InformationModel

/-! ### The rules -/

/-- The declaration of a datatype that counts, which is the first one of its name. -/
def firstDatatype? (model : InformationModel) (name : String) : Option Datatype :=
  model.datatypes.find? fun declared => declared.name == name

/-- The first declaration of a datatype names a type as supertype. -/
def NamesSupertype (model : InformationModel) (name supertype : String) : Prop :=
  ∃ declared, model.firstDatatype? name = some declared ∧ supertype ∈ declared.supertypes

/-- **The datatype is a text**, by its form or because it derives from the settings' text type. -/
def IsText (model : InformationModel) (settings : Settings) (datatype : String) : Prop :=
  (∃ declared, model.firstDatatype? datatype = some declared ∧ declared.form.Textual) ∨
    TransGen model.NamesSupertype datatype settings.stringSupertype

/-- The settings' geometry prefix stands in front of the name. -/
def IsGeometry (settings : Settings) (datatype : String) : Prop :=
  settings.geometryPrefix.toList <+: datatype.toList

/-- **The topmost type that counts for a datatype**: the nearest one, and of several the one that a
breadth-first walk meets first. -/
def IsBase (model : InformationModel) (datatype base : String) : Prop :=
  Hierarchy.NearestTopmost model.NamesSupertype
    (datatype :: model.datatypeHierarchy.supertypes datatype true) datatype base

/-- The table of the settings lists a scalar kind for a type. -/
def MapsBase (settings : Settings) (base : String) (kind : ScalarKind) : Prop :=
  (base, kind) ∈ settings.scalarMappings.entries

/-- **The rules of the value types**, the first that applies. -/
inductive TypesAs (model : InformationModel) (settings : Settings) (datatype : String) :
    Except MappingFault String → Prop where
  | text (isText : model.IsText settings datatype) :
      TypesAs model settings datatype (.ok ScalarKind.string.name)
  | geometry (noText : ¬ model.IsText settings datatype)
      (isGeometry : IsGeometry settings datatype) :
      TypesAs model settings datatype (.ok ScalarKind.geometry.name)
  | mapped {base : String} {kind : ScalarKind} (noText : ¬ model.IsText settings datatype)
      (noGeometry : ¬ IsGeometry settings datatype) (isBase : model.IsBase datatype base)
      (maps : MapsBase settings base kind) :
      TypesAs model settings datatype (.ok kind.name)
  | passedThrough {base : String} (noText : ¬ model.IsText settings datatype)
      (noGeometry : ¬ IsGeometry settings datatype) (isBase : model.IsBase datatype base)
      (unmapped : ∀ kind, ¬ MapsBase settings base kind)
      (policy : settings.unmappedTypes = .passThrough) :
      TypesAs model settings datatype (.ok base)
  | unresolvable {base : String} (noText : ¬ model.IsText settings datatype)
      (noGeometry : ¬ IsGeometry settings datatype) (isBase : model.IsBase datatype base)
      (unmapped : ∀ kind, ¬ MapsBase settings base kind)
      (policy : settings.unmappedTypes = .fail) :
      TypesAs model settings datatype (.error (.unresolvableType datatype base))

variable {model other : InformationModel} {settings : Settings} {datatype : String}

/-! ### The resolver follows the rules -/

theorem isGeometryName_iff :
    settings.isGeometryName datatype = true ↔ IsGeometry settings datatype :=
  List.isPrefixOf_iff_prefix

theorem scalarKind?_eq_some_iff {base : String} {kind : ScalarKind} :
    settings.scalarKind? base = some kind ↔ MapsBase settings base kind :=
  NameMap.get?_eq_some_iff

theorem scalarKind?_eq_none_iff {base : String} :
    settings.scalarKind? base = none ↔ ∀ kind, ¬ MapsBase settings base kind := by
  rw [Option.eq_none_iff_forall_ne_some]
  exact forall_congr' fun kind => not_congr scalarKind?_eq_some_iff

theorem textual_iff {form : DatatypeForm} : form.Textual ↔
    match form with
    | .enumeration _ | .codeList _ => True
    | .primitive (some pattern) => Text.allBlank pattern = false
    | .primitive none | .structured _ | .referenceList => False := by
  constructor
  · intro textual
    cases textual with
    | enumeration => trivial
    | codeList => trivial
    | pattern visible =>
        obtain ⟨char, member, visible⟩ := visible
        exact List.all_eq_false.mpr ⟨char, member, by simp [visible]⟩
  · intro isText
    cases form with
    | enumeration => exact .enumeration
    | codeList => exact .codeList
    | primitive pattern =>
        cases pattern with
        | none => exact isText.elim
        | some pattern =>
            obtain ⟨char, member, visible⟩ := List.all_eq_false.mp isText
            exact .pattern ⟨char, member, by simpa using visible⟩
    | structured | referenceList => exact isText.elim

theorem isDeclaredText_iff : (Resolver.mk model.catalogue settings).isDeclaredText datatype = true ↔
    ∃ declared, model.firstDatatype? datatype = some declared ∧ declared.form.Textual := by
  unfold Resolver.isDeclaredText
  rw [datatype?_eq_find?]
  show _ ↔ ∃ declared, model.datatypes.find? _ = some declared ∧ _
  cases model.datatypes.find? fun declared => declared.name == datatype with
  | none => simp
  | some declared =>
      simp only [Option.some.injEq, exists_eq_left', textual_iff]
      cases form : declared.form with
      | primitive pattern => cases pattern <;> simp [Datatype.hasPattern, form]
      | enumeration | codeList | structured | referenceList => simp

theorem extends_datatypeHierarchy (model : InformationModel) :
    model.datatypeHierarchy.Extends = model.NamesSupertype := by
  funext name supertype
  unfold Hierarchy.Extends NamesSupertype firstDatatype?
  rw [direct_datatypeHierarchy, datatype?_eq_find?]
  cases model.datatypes.find? fun declared => declared.name == name <;> simp

section Acyclic

variable (acyclic : model.Acyclic)

include acyclic

theorem isText_iff : model.IsText settings datatype ↔
    (Resolver.mk model.catalogue settings).isDeclaredText datatype = true ∨
      model.datatypeHierarchy.isSubtype datatype settings.stringSupertype = true := by
  unfold IsText
  rw [isDeclaredText_iff, Hierarchy.isSubtype_iff model.closed_datatypeHierarchy,
    ← extends_datatypeHierarchy]
  refine or_congr_right (and_iff_right_of_imp fun derives same => ?_).symm
  exact acyclic.1 datatype (same ▸ derives)

/-- **The topmost type that counts is the root.** -/
theorem isBase_iff {base : String} :
    model.IsBase datatype base ↔ base = model.datatypeHierarchy.root datatype := by
  have closed := model.closed_datatypeHierarchy
  have isRoot : model.IsBase datatype (model.datatypeHierarchy.root datatype) := by
    unfold IsBase
    rw [← extends_datatypeHierarchy]
    exact Hierarchy.root_nearestTopmost closed acyclic.1 datatype
  constructor
  · intro isBase
    refine isBase.unique (fun above reached => ?_) isRoot
    rw [← extends_datatypeHierarchy] at reached
    exact (Hierarchy.mem_cons_ancestors_iff closed).mpr reached
  · rintro rfl
    exact isRoot

theorem outcome_of_text (isText : model.IsText settings datatype) :
    ((Resolver.mk model.catalogue settings).valueTypeName datatype).outcome
      = .ok ScalarKind.string.name :=
  Resolver.outcome_valueTypeName.trans (if_pos ((isText_iff acyclic).mp isText))

theorem outcome_of_geometry (noText : ¬ model.IsText settings datatype)
    (isGeometry : IsGeometry settings datatype) :
    ((Resolver.mk model.catalogue settings).valueTypeName datatype).outcome
      = .ok ScalarKind.geometry.name :=
  (Resolver.outcome_valueTypeName.trans (if_neg (mt (isText_iff acyclic).mpr noText))).trans
    (if_pos (isGeometryName_iff.mpr isGeometry))

theorem outcome_of_base {base : String} (noText : ¬ model.IsText settings datatype)
    (noGeometry : ¬ IsGeometry settings datatype) (isBase : model.IsBase datatype base) :
    ((Resolver.mk model.catalogue settings).valueTypeName datatype).outcome
      = settings.baseOutcome datatype base := by
  obtain rfl := (isBase_iff acyclic).mp isBase
  exact (Resolver.outcome_valueTypeName.trans (if_neg (mt (isText_iff acyclic).mpr noText))).trans
    (if_neg (mt isGeometryName_iff.mp noGeometry))

/-- **A datatype has the value type that the rules give.** -/
theorem typesAs_iff {outcome : Except MappingFault String} :
    model.TypesAs settings datatype outcome ↔
      ((Resolver.mk model.catalogue settings).valueTypeName datatype).outcome = outcome := by
  constructor
  · intro types
    cases types with
    | text isText => exact outcome_of_text acyclic isText
    | geometry noText isGeometry => exact outcome_of_geometry acyclic noText isGeometry
    | mapped noText noGeometry isBase maps =>
        rw [outcome_of_base acyclic noText noGeometry isBase]
        exact Settings.baseOutcome_eq_ok_iff.mpr
          (Or.inl ⟨_, scalarKind?_eq_some_iff.mpr maps, rfl⟩)
    | passedThrough noText noGeometry isBase unmapped policy =>
        rw [outcome_of_base acyclic noText noGeometry isBase]
        exact Settings.baseOutcome_eq_ok_iff.mpr
          (Or.inr ⟨scalarKind?_eq_none_iff.mpr unmapped, policy, rfl⟩)
    | unresolvable noText noGeometry isBase unmapped policy =>
        rw [outcome_of_base acyclic noText noGeometry isBase]
        exact Settings.baseOutcome_eq_error_iff.mpr
          ⟨scalarKind?_eq_none_iff.mpr unmapped, policy, rfl⟩
  · rintro rfl
    by_cases isText : model.IsText settings datatype
    · rw [outcome_of_text acyclic isText]
      exact .text isText
    by_cases isGeometry : IsGeometry settings datatype
    · rw [outcome_of_geometry acyclic isText isGeometry]
      exact .geometry isText isGeometry
    have isBase : model.IsBase datatype (model.datatypeHierarchy.root datatype) :=
      (isBase_iff acyclic).mpr rfl
    rw [outcome_of_base acyclic isText isGeometry isBase]
    cases made : settings.baseOutcome datatype (model.datatypeHierarchy.root datatype) with
    | ok name =>
        rcases Settings.baseOutcome_eq_ok_iff.mp made with
          ⟨kind, maps, rfl⟩ | ⟨unmapped, policy, rfl⟩
        · exact .mapped isText isGeometry isBase (scalarKind?_eq_some_iff.mp maps)
        · exact .passedThrough isText isGeometry isBase (scalarKind?_eq_none_iff.mp unmapped) policy
    | error fault =>
        obtain ⟨unmapped, policy, rfl⟩ := Settings.baseOutcome_eq_error_iff.mp made
        exact .unresolvable isText isGeometry isBase (scalarKind?_eq_none_iff.mp unmapped) policy

end Acyclic

/-! ### Declarations further away -/

/-- **Models with the same declarations of a datatype and of all types above it** agree on what is
above it. -/
theorem agreeOn_above (same : ∀ name, ReflTransGen model.NamesSupertype datatype name →
      other.firstDatatype? name = model.firstDatatype? name) :
    Hierarchy.AgreeOn (ReflTransGen model.NamesSupertype datatype) model.datatypeHierarchy
      other.datatypeHierarchy where
  direct name above := by
    rw [direct_datatypeHierarchy, direct_datatypeHierarchy, datatype?_eq_find?, datatype?_eq_find?]
    exact congrArg (fun found : Option Datatype => found.toList.flatMap Datatype.supertypes)
      (same name above).symm
  inside name above supertype edge := by
    refine above.tail ?_
    rw [← extends_datatypeHierarchy]
    exact edge

theorem valueTypeName_of_same_above
    (same : ∀ name, ReflTransGen model.NamesSupertype datatype name →
      other.firstDatatype? name = model.firstDatatype? name) :
    (Resolver.mk other.catalogue settings).valueTypeName datatype
      = (Resolver.mk model.catalogue settings).valueTypeName datatype := by
  have agree := agreeOn_above same
  have closed := model.closed_datatypeHierarchy
  have declared : other.catalogue.datatype? datatype = model.catalogue.datatype? datatype := by
    rw [datatype?_eq_find?, datatype?_eq_find?]
    exact same datatype .refl
  refine Resolver.valueTypeName_congr rfl ?_ (fun ancestor => ?_) ?_
  · unfold Resolver.isDeclaredText
    simp only [declared]
  · exact (agree.isSubtype closed other.closed_datatypeHierarchy .refl ancestor).symm
  · exact (agree.root closed other.closed_datatypeHierarchy .refl).symm

end InformationModel

open InformationModel in
/-- **The value type of a datatype is what the rules give**, and only the first declarations of the
datatype and of the types above it count for it. -/
theorem Resolver.valueTypeName_exact {model : InformationModel} {catalogue : Catalogue}
    (built : (Catalogue.build model).outcome = .ok catalogue) (settings : Settings)
    (datatype : String) :
    (∀ outcome, ((Resolver.mk catalogue settings).valueTypeName datatype).outcome = outcome ↔
      model.TypesAs settings datatype outcome) ∧
    ∀ other otherCatalogue, (Catalogue.build other).outcome = .ok otherCatalogue →
      (∀ name, ReflTransGen model.NamesSupertype datatype name →
        other.firstDatatype? name = model.firstDatatype? name) →
      (Resolver.mk otherCatalogue settings).valueTypeName datatype
        = (Resolver.mk catalogue settings).valueTypeName datatype := by
  obtain ⟨acyclic, rfl⟩ := Catalogue.build_eq_ok_iff.mp built
  refine ⟨fun outcome => (typesAs_iff acyclic).symm, fun other otherCatalogue otherBuilt same => ?_⟩
  obtain ⟨-, rfl⟩ := Catalogue.build_eq_ok_iff.mp otherBuilt
  exact valueTypeName_of_same_above same

/-! ### Lengths -/

/-- Lengths are measures and have a unit; other datatypes may be declared behind them. -/
def InformationModel.quantities (further : List Datatype) : InformationModel where
  name := "M"
  packages := [{
    name := "P"
    datatypes :=
      { name := "Length", supertypes := ["Measure", "Unit"], form := .primitive (some " ") } ::
        { name := "Measure", supertypes := ["Decimal"], form := .primitive none } :: further }]

open InformationModel in
/-- Measures are decimals, which the usual table lists as doubles. The unit is nearer than the
decimals, so lengths are not resolved, whatever else is declared and even if lengths are declared
again. -/
theorem Resolver.valueTypeName_exact_length : ∃ catalogue otherCatalogue,
    (Catalogue.build (quantities [])).outcome = .ok catalogue ∧
    (Catalogue.build (quantities [⟨"Colour", ["Length"], .codeList none⟩,
      ⟨"Length", [], .enumeration []⟩])).outcome = .ok otherCatalogue ∧
    MapsBase {} "Decimal" .double ∧
    (quantities []).TypesAs {} "Measure" (.ok ScalarKind.double.name) ∧
    (quantities []).TypesAs {} "Length" (.error (.unresolvableType "Length" "Unit")) ∧
    ((Resolver.mk otherCatalogue {}).valueTypeName "Length").outcome
      = .error (.unresolvableType "Length" "Unit") := by
  obtain ⟨otherCatalogue, otherBuilt⟩ : ∃ catalogue,
      (Catalogue.build (quantities [⟨"Colour", ["Length"], .codeList none⟩,
        ⟨"Length", [], .enumeration []⟩])).outcome = .ok catalogue := ⟨_, rfl⟩
  have built : (Catalogue.build (quantities [])).outcome = .ok (quantities []).catalogue := rfl
  have maps : MapsBase {} "Decimal" .double := NameMap.get?_eq_some_iff.mp rfl
  have measures := ((valueTypeName_exact built {} "Measure").1 _).mp rfl
  obtain ⟨reads, unaware⟩ := valueTypeName_exact built {} "Length"
  have lengths := (reads _).mp rfl
  refine ⟨_, otherCatalogue, built, otherBuilt, maps, measures, lengths, ?_⟩
  rw [unaware _ _ otherBuilt fun name above => ?_]
  · exact (reads _).mpr lengths
  · rw [← extends_datatypeHierarchy] at above
    have isListed := (Hierarchy.mem_cons_ancestors_iff (closed_datatypeHierarchy _)).mpr above
    have ancestors : (quantities []).datatypeHierarchy.ancestors "Length"
        = ["Measure", "Unit", "Decimal"] := by decide
    rw [ancestors] at isListed
    clear above
    revert name
    decide

end InfoModel
