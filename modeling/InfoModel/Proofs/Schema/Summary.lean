/-
**What the summary of a model tells.**

With names of ASCII letters, digits and underscores, and an alias on one line, a summary tells the
alias, the object types with their supertypes, and of each property all but the options of its value
type and its cardinality as seen from the target. `Model.overview` is what it tells.

* `legible_range`, `legible_cardinality`, `legible_ending`: the parts of a line can be told apart;
* `legible_property`, `legible_supertypes`, `legible_objectType`: so can lines and blocks;
* `Model.summary_eq_iff`: two models have the same summary exactly if they have the same overview.
-/

import InfoModel.Proofs.Text.Legible
import InfoModel.Proofs.Text.Numeral
import InfoModel.Schema.Summary

namespace InfoModel

open Text

/-! ### Plain names -/

/-- An ASCII letter, a digit or an underscore. -/
def isNameChar (char : Char) : Bool :=
  char.isAlphanum || char == '_'

/-- A name of ASCII letters, digits and underscores. -/
def PlainName (name : String) : Prop :=
  ∀ char ∈ name.toList, isNameChar char = true

instance (name : String) : Decidable (PlainName name) :=
  List.decidableBAll _ _

/-- A type of the host has a plain name. -/
def ValueType.PlainlyNamed : ValueType → Prop
  | .custom name _ => PlainName name
  | _ => True

instance : DecidablePred ValueType.PlainlyNamed
  | .custom name _ => inferInstanceAs (Decidable (PlainName name))
  | .string | .integer | .float | .double | .boolean | .geometry _ => isTrue trivial

/-- The names in a property are plain. -/
def Property.PlainlyNamed : Property → Prop
  | .ofAttribute value => PlainName value.name ∧ value.valueType.PlainlyNamed
  | .ofRelation relation =>
    PlainName relation.name ∧ PlainName relation.target ∧
      ∀ name ∈ relation.inverseName, PlainName name

instance : DecidablePred Property.PlainlyNamed
  | .ofAttribute _ => inferInstanceAs (Decidable (_ ∧ _))
  | .ofRelation _ => inferInstanceAs (Decidable (_ ∧ _ ∧ _))

/-- The names in an object type are plain. -/
structure ObjectType.PlainlyNamed (objectType : ObjectType) : Prop where
  name : PlainName objectType.name
  supertypes : ∀ supertype ∈ objectType.supertypes, PlainName supertype
  properties : ∀ property ∈ objectType.properties.values, property.PlainlyNamed

instance (objectType : ObjectType) : Decidable objectType.PlainlyNamed :=
  decidable_of_iff (_ ∧ _ ∧ _)
    ⟨fun ⟨name, supertypes, properties⟩ => ⟨name, supertypes, properties⟩,
      fun ⟨name, supertypes, properties⟩ => ⟨name, supertypes, properties⟩⟩

/-- The names in a model are plain, and its alias stands on one line. -/
structure Model.PlainlyNamed (model : Model) : Prop where
  aliasName : ∀ aliasName ∈ model.aliasName, '\n' ∉ aliasName.toList
  objectTypes : ∀ objectType ∈ model.objectTypes.values, objectType.PlainlyNamed

instance (model : Model) : Decidable model.PlainlyNamed :=
  decidable_of_iff (_ ∧ _)
    ⟨fun ⟨aliasName, objectTypes⟩ => ⟨aliasName, objectTypes⟩,
      fun ⟨aliasName, objectTypes⟩ => ⟨aliasName, objectTypes⟩⟩

/-! ### Overviews -/

/-- What a property holds: values of a type, or objects. -/
inductive Property.Range where
  | valueType (text : String)
  | target (name : String)
deriving DecidableEq

/-- The range of a property. -/
def Property.range : Property → Property.Range
  | .ofAttribute value => .valueType value.valueType.text
  | .ofRelation relation => .target relation.target

/-- The name of a property as seen from its target. -/
def Property.inverseName? : Property → Option String
  | .ofAttribute _ => none
  | .ofRelation relation => relation.inverseName

/-- What a summary tells of a property. -/
structure Property.Overview where
  name : String
  range : Property.Range
  cardinality : Cardinality
  inverseName : Option String
  identifier : Bool
deriving DecidableEq

/-- The overview of a property. -/
def Property.overview (property : Property) : Property.Overview where
  name := property.name
  range := property.range
  cardinality := property.cardinality
  inverseName := property.inverseName?
  identifier := property.isIdentifier

/-- What a summary tells of an object type. -/
structure ObjectType.Overview where
  name : String
  supertypes : List String
  properties : List Property.Overview
deriving DecidableEq

/-- The overview of an object type. -/
def ObjectType.overview (objectType : ObjectType) : ObjectType.Overview where
  name := objectType.name
  supertypes := objectType.supertypes
  properties := objectType.properties.values.map Property.overview

/-- What a summary tells of a model. -/
structure Model.Overview where
  aliasName : Option String
  objectTypes : List ObjectType.Overview
deriving DecidableEq

/-- The overview of a model. -/
def Model.overview (model : Model) : Model.Overview where
  aliasName := model.aliasName
  objectTypes := model.objectTypes.values.map ObjectType.overview

/-! ### The parts of a line -/

theorem legible_name : Legible isNameChar PlainName String.toList id :=
  legible_toList isNameChar id

theorem PlainName.blank_notMem {name : String} (plain : PlainName name) : ' ' ∉ name.toList :=
  fun member => absurd (plain ' ' member) (by decide)

/-- A value type is shown without blanks. -/
theorem ValueType.PlainlyNamed.blank_notMem {valueType : ValueType}
    (plain : valueType.PlainlyNamed) : ' ' ∉ valueType.text.toList := by
  cases valueType with
  | custom name options => exact PlainName.blank_notMem plain
  | geometry srid =>
      have digits : ' ' ∉ Nat.toDigits 10 srid.toNat := fun member =>
        absurd (Numeral.isDigit_of_mem_toDigits member) (by decide)
      simpa [ValueType.text] using digits
  | string | integer | float | double | boolean => decide

namespace Property

/-- A range as a line shows it. -/
def Range.text : Range → List Char
  | .valueType text => ':' :: ' ' :: text.toList
  | .target name => ' ' :: '-' :: '>' :: ' ' :: name.toList

/-- The text of a range is one word. -/
def Range.BlankFree : Range → Prop
  | .valueType text => ' ' ∉ text.toList
  | .target name => ' ' ∉ name.toList

theorem Range.ends_text (range : Range) (rest : List Char) :
    Ends isNameChar (range.text ++ rest) := by
  cases range <;> exact ends_cons.mpr rfl

variable {property : Property}

theorem PlainlyNamed.plainName (plain : property.PlainlyNamed) : PlainName property.name := by
  cases property with
  | ofAttribute value => exact plain.1
  | ofRelation relation => exact plain.1

theorem PlainlyNamed.range_blankFree (plain : property.PlainlyNamed) :
    property.range.BlankFree := by
  cases property with
  | ofAttribute value => exact plain.2.blank_notMem
  | ofRelation relation => exact plain.2.1.blank_notMem

theorem PlainlyNamed.plain_inverseName (plain : property.PlainlyNamed) :
    ∀ name ∈ property.inverseName?, PlainName name := by
  cases property with
  | ofAttribute value => simp [inverseName?]
  | ofRelation relation => exact plain.2.2

end Property

/-- **A range is legible** in front of a blank. -/
theorem legible_range :
    Legible (· != ' ') Property.Range.BlankFree Property.Range.text id := by
  have word : Legible (· != ' ') (fun text : String => ' ' ∉ text.toList) String.toList id :=
    legible_toList_ne ' ' id
  intro first second free free' rest other ends endsOther same
  cases first <;> cases second <;>
    simp only [Property.Range.text, List.cons_append, List.cons.injEq, true_and] at same
  case valueType.valueType text text' =>
    obtain ⟨rfl, behind⟩ := word text text' free free' rest other ends endsOther same
    exact ⟨rfl, behind⟩
  case target.target name name' =>
    obtain ⟨rfl, behind⟩ := word name name' free free' rest other ends endsOther same
    exact ⟨rfl, behind⟩
  all_goals exact absurd same.1 (by decide)

theorem Cardinality.text_injective : Function.Injective Cardinality.text := by
  intro first second same
  cases first <;> cases second <;> first | rfl | exact absurd same (by decide)

/-- **A cardinality is legible** in front of its bracket. -/
theorem legible_cardinality :
    Legible (· != ')') (fun _ => True) (fun cardinality : Cardinality => cardinality.text.toList)
      id := by
  have noBracket : ∀ cardinality : Cardinality, ')' ∉ cardinality.text.toList := by
    intro cardinality
    cases cardinality <;> decide
  intro first second _ _ rest other ends endsOther same
  obtain ⟨texts, behind⟩ := legible_toList_ne ')' Cardinality.text first second
    (noBracket first) (noBracket second) rest other ends endsOther same
  exact ⟨Cardinality.text_injective texts, behind⟩

/-- What stands behind the cardinality of a property: its name as seen from the target and the mark
of identifying properties. -/
def ending (inverseName : Option String) (identifier : Bool) : List Char :=
  (match inverseName with
    | some name => " <- " ++ name
    | none => "").toList ++
    ((identifierMark identifier).toList ++ ['\n'])

theorem identifierMark_inj {first second : Bool} {rest other : List Char}
    (same : (identifierMark first).toList ++ '\n' :: rest =
      (identifierMark second).toList ++ '\n' :: other) : first = second ∧ rest = other := by
  cases first <;> cases second <;> simp [identifierMark] at same <;> exact ⟨rfl, same⟩

/-- A mark or the end of a line does not go on as a name does. -/
theorem ends_identifierMark (identifier : Bool) (rest : List Char) :
    Ends isNameChar ((identifierMark identifier).toList ++ '\n' :: rest) := by
  cases identifier <;> exact ends_cons.mpr (by decide)

/-- **The end of a line is legible**, whatever stands behind it. -/
theorem legible_ending :
    Legible (fun _ => false) (fun parts : Option String × Bool => ∀ name ∈ parts.1, PlainName name)
      (fun parts => ending parts.1 parts.2) id := by
  rintro ⟨inverse, identifier⟩ ⟨inverse', identifier'⟩ plain plain' rest other - - same
  cases inverse with
  | none =>
      cases inverse' with
      | none =>
          obtain ⟨rfl, behind⟩ := identifierMark_inj (by simpa [ending] using same)
          exact ⟨rfl, behind⟩
      | some name => cases identifier <;> simp [ending, identifierMark] at same
  | some name =>
      cases inverse' with
      | none => cases identifier' <;> simp [ending, identifierMark] at same
      | some name' =>
          simp only [ending, String.toList_append, List.append_assoc, List.append_cancel_left_eq,
            List.singleton_append] at same
          obtain ⟨rfl, marks⟩ := legible_name name name' (plain name rfl) (plain' name' rfl) _ _
            (ends_identifierMark identifier rest) (ends_identifierMark identifier' other) same
          obtain ⟨rfl, behind⟩ := identifierMark_inj marks
          exact ⟨rfl, behind⟩

/-! ### Lines and blocks -/

/-- The line of a property, part by part. -/
def Property.Overview.text (overview : Property.Overview) : List Char :=
  ' ' :: ' ' :: (overview.name.toList ++ (overview.range.text ++
    ' ' :: '(' :: (overview.cardinality.text.toList ++
      ')' :: ending overview.inverseName overview.identifier)))

theorem Property.toList_summary (property : Property) :
    property.summary.toList = property.overview.text := by
  cases property with
  | ofAttribute value =>
      simp [Property.summary, Attribute.summary, overview, Overview.text, ending, name, range,
        Range.text, cardinality, inverseName?, isIdentifier]
  | ofRelation relation =>
      cases inverse : relation.inverseName <;>
        simp [Property.summary, Relation.summary, overview, Overview.text, ending, name, range,
          Range.text, cardinality, inverseName?, isIdentifier, inverse]

/-- **A line is legible**, whatever stands behind it. -/
theorem legible_property :
    Legible (fun _ => false) Property.PlainlyNamed (fun property => property.overview.text)
      Property.overview := by
  intro first second plain plain' rest other _ _ same
  simp only [Property.Overview.text, Property.overview, List.cons_append, List.append_assoc,
    List.cons.injEq, true_and] at same
  obtain ⟨names, same⟩ := legible_name _ _ plain.plainName plain'.plainName _ _
    (Property.Range.ends_text _ _) (Property.Range.ends_text _ _) same
  obtain ⟨ranges, same⟩ := legible_range _ _ plain.range_blankFree plain'.range_blankFree _ _
    (ends_cons.mpr rfl) (ends_cons.mpr rfl) same
  simp only [List.cons.injEq, true_and] at same
  obtain ⟨cardinalities, same⟩ := legible_cardinality _ _ trivial trivial _ _
    (ends_cons.mpr rfl) (ends_cons.mpr rfl) same
  obtain ⟨endings, behind⟩ := legible_ending (first.inverseName?, first.isIdentifier)
    (second.inverseName?, second.isIdentifier) plain.plain_inverseName plain'.plain_inverseName
    rest other (fun _ _ => rfl) (fun _ _ => rfl) (List.cons.inj same).2
  obtain ⟨inverses, identifiers⟩ := Prod.mk.inj endings
  simp only [id] at names ranges cardinalities inverses identifiers
  simp only [Property.overview, names, ranges, cardinalities, inverses, identifiers, behind,
    and_self]

/-- The supertypes of an object type, as the first line of its block shows them. -/
def supertypesText (supertypes : List String) : List Char :=
  (if supertypes.isEmpty then "" else " : " ++ String.intercalate ", " supertypes).toList

/-- A name in a list behind others. -/
def listed (name : String) : List Char :=
  ',' :: ' ' :: name.toList

/-- Names with commas between them, with a comma in front of the first one as well. -/
theorem listed_append_intercalate (name : String) (names : List String) :
    ',' :: ' ' :: (String.intercalate ", " (name :: names)).toList =
      (name :: names).flatMap listed := by
  induction names generalizing name with
  | nil => simp [listed]
  | cons next names ih =>
      rw [List.flatMap_cons, ← ih next]
      simp [String.toList_intercalate, listed]

theorem supertypesText_cons (name : String) (names : List String) :
    supertypesText (name :: names) =
      ' ' :: ':' :: ' ' :: (name.toList ++ names.flatMap listed) := by
  have items := listed_append_intercalate name names
  simp only [List.flatMap_cons, listed, List.cons_append, List.cons.injEq, true_and] at items
  simp [supertypesText, -String.toList_intercalate, items]

/-- The supertypes end before the end of the line. -/
theorem ends_supertypesText (supertypes : List String) (rest : List Char) :
    Ends isNameChar (supertypesText supertypes ++ '\n' :: rest) := by
  cases supertypes with
  | nil => exact ends_cons.mpr (by decide)
  | cons name names =>
      rw [supertypesText_cons]
      exact ends_cons.mpr (by decide)

/-- Listed names are legible one behind the other. -/
theorem legible_listed :
    Legible (fun char => isNameChar char || char == ',')
      (fun names : List String => ∀ name ∈ names, PlainName name) (List.flatMap listed)
      (List.map id) := by
  have one : Legible isNameChar PlainName listed id := by
    intro first second plain plain' rest other ends endsOther same
    simp only [listed, List.cons_append, List.cons.injEq, true_and] at same
    exact legible_name first second plain plain' rest other ends endsOther same
  exact one.flatMap ',' (fun name => ⟨_, rfl⟩) (by decide)

/-- **The supertypes are legible** in front of the end of the line. -/
theorem legible_supertypes :
    Legible (· != '\n') (fun supertypes => ∀ supertype ∈ supertypes, PlainName supertype)
      supertypesText id := by
  have shorter : ∀ rest : List Char, Ends (· != '\n') rest →
      Ends (fun char => isNameChar char || char == ',') rest := by
    intro rest ends char isHead
    obtain rfl : char = '\n' := by simpa using ends char isHead
    decide
  intro first second plain plain' rest other ends endsOther same
  cases first with
  | nil =>
      cases second with
      | nil => exact ⟨rfl, same⟩
      | cons name names =>
          rw [supertypesText_cons] at same
          obtain rfl : rest = _ := same
          exact absurd (ends_cons.mp ends) (by decide)
  | cons name names =>
      cases second with
      | nil =>
          rw [supertypesText_cons] at same
          obtain rfl : _ = other := same
          exact absurd (ends_cons.mp endsOther) (by decide)
      | cons name' names' =>
          have items : (name :: names).flatMap listed ++ rest =
              (name' :: names').flatMap listed ++ other := by
            simpa [supertypesText_cons, listed] using same
          simpa using legible_listed _ _ plain plain' rest other (shorter rest ends)
            (shorter other endsOther) items

/-- The block of an object type, part by part. -/
def ObjectType.Overview.text (overview : ObjectType.Overview) : List Char :=
  '\n' :: (overview.name.toList ++ (supertypesText overview.supertypes ++
    '\n' :: overview.properties.flatMap Property.Overview.text))

theorem ObjectType.toList_summary (objectType : ObjectType) :
    objectType.summary.toList = objectType.overview.text := by
  simp [ObjectType.summary, overview, Overview.text, supertypesText, List.flatMap_map,
    Property.toList_summary]

/-- **A block is legible** in front of a line that is not a property's. -/
theorem legible_objectType :
    Legible (· == ' ') ObjectType.PlainlyNamed (fun objectType => objectType.overview.text)
      ObjectType.overview := by
  have lines := legible_property.flatMap ' ' (fun property => ⟨_, rfl⟩) rfl
  intro first second plain plain' rest other ends endsOther same
  simp only [ObjectType.Overview.text, ObjectType.overview, List.cons_append, List.append_assoc,
    List.cons.injEq, true_and, List.flatMap_map] at same
  obtain ⟨names, same⟩ := legible_name _ _ plain.name plain'.name _ _
    (ends_supertypesText _ _) (ends_supertypesText _ _) same
  obtain ⟨supertypes, same⟩ := legible_supertypes _ _ plain.supertypes plain'.supertypes _ _
    (ends_cons.mpr rfl) (ends_cons.mpr rfl) same
  obtain ⟨properties, behind⟩ := lines _ _ plain.properties plain'.properties rest other ends
    endsOther (List.cons.inj same).2
  simp only [id] at names supertypes
  simp only [ObjectType.overview, names, supertypes, properties, behind, and_self]

/-! ### Models -/

/-- The first line of a summary. -/
def aliasLine (aliasName : Option String) : List Char :=
  (match aliasName with
    | some aliasName => "Model '" ++ aliasName ++ "'\n"
    | none => "Model\n").toList

/-- **The first line is legible**, whatever stands behind it. -/
theorem legible_aliasLine :
    Legible (fun _ => false) (fun aliasName => ∀ text ∈ aliasName, '\n' ∉ text.toList) aliasLine
      id := by
  have line : Legible (· != '\n') (fun text : String => '\n' ∉ text.toList)
      (fun text => (text ++ "'").toList) (fun text => text ++ "'") := by
    refine (legible_toList_ne '\n' fun text => text ++ "'").mono fun text oneLine => ?_
    simpa using oneLine
  intro first second oneLine oneLine' rest other _ _ same
  cases first with
  | none =>
      cases second with
      | none => exact ⟨rfl, by simpa [aliasLine] using same⟩
      | some text => simp [aliasLine] at same
  | some text =>
      cases second with
      | none => simp [aliasLine] at same
      | some text' =>
          obtain ⟨quoted, behind⟩ := line text text' (oneLine text rfl) (oneLine' text' rfl)
            ('\n' :: rest) ('\n' :: other) (ends_cons.mpr rfl) (ends_cons.mpr rfl)
            (by simpa [aliasLine] using same)
          obtain rfl : text = text' := by simpa [← String.toList_inj] using quoted
          exact ⟨rfl, (List.cons.inj behind).2⟩

/-- The summary of a model, part by part. -/
def Model.Overview.text (overview : Model.Overview) : List Char :=
  aliasLine overview.aliasName ++ ("Object types: ".toList ++
    (Nat.toDigits 10 overview.objectTypes.length ++
      '\n' :: overview.objectTypes.flatMap ObjectType.Overview.text))

theorem Model.toList_summary (model : Model) : model.summary.toList = model.overview.text := by
  have count : (toString model.size).toList =
      Nat.toDigits 10 model.overview.objectTypes.length := by
    simp [size, overview, NameMap.size, NameMap.values]
  have blocks : (model.objectTypes.values.map ObjectType.summary).flatMap String.toList =
      model.overview.objectTypes.flatMap ObjectType.Overview.text := by
    simp [overview, List.flatMap_map, ObjectType.toList_summary]
  simp only [Model.summary, Overview.text, String.toList_append, String.toList_join, blocks, count,
    aliasLine, List.append_assoc]
  rfl

/-- **A summary tells the overview of its model**, and nothing else. -/
theorem Model.summary_eq_iff {first second : Model} (plain : first.PlainlyNamed)
    (plain' : second.PlainlyNamed) :
    first.summary = second.summary ↔ first.overview = second.overview := by
  have blocks := legible_objectType.flatMap '\n' (fun objectType => ⟨_, rfl⟩) rfl
  have digits : ∀ number, ∀ char ∈ Nat.toDigits 10 number, Numeral.isDigit char = true :=
    fun _ _ member => Numeral.isDigit_of_mem_toDigits member
  rw [← String.toList_inj, toList_summary, toList_summary]
  refine ⟨fun same => ?_, congrArg _⟩
  simp only [Overview.text, overview, List.flatMap_map] at same
  obtain ⟨aliases, same⟩ := legible_aliasLine _ _ plain.aliasName plain'.aliasName _ _
    (fun _ _ => rfl) (fun _ _ => rfl) same
  obtain ⟨-, same⟩ := legible_run Numeral.isDigit _ _ (digits _) (digits _) _ _
    (ends_cons.mpr rfl) (ends_cons.mpr rfl) (List.append_cancel_left same)
  obtain ⟨objectTypes, -⟩ := blocks _ _ plain.objectTypes plain'.objectTypes [] []
    (ends_nil _) (ends_nil _) (by simpa using same)
  simp only [id] at aliases
  simp only [overview, aliases, objectTypes]

/-- A shop whose bicycles have a frame number of some type and a brand. -/
def bikeShop (valueType : ValueType) (inverse : Option Cardinality) : Model where
  aliasName := some "winkel"
  objectTypes := NameMap.empty.insert "Fiets"
    { name := "Fiets"
      supertypes := ["Product", "Voertuig"]
      properties := (NameMap.empty.insert "framenummer"
        (.ofAttribute ⟨"framenummer", true, valueType, .required⟩)).insert "merk"
        (.ofRelation ⟨"merk", false, "Merk", .optional, some "fietsen", inverse⟩) }

/-- The summary does not tell a text from a type of the host that is called like it, nor how many
bicycles a brand has, but it tells a text from a geometry. -/
theorem Model.summary_eq_iff_bikeShop :
    (bikeShop .string (some .multi)).summary = (bikeShop (.custom "String" .empty) none).summary ∧
      (bikeShop .string none).summary ≠ (bikeShop (.geometry 28992) none).summary := by
  refine ⟨(Model.summary_eq_iff (by decide) (by decide)).mpr (by decide), fun same => ?_⟩
  exact absurd ((Model.summary_eq_iff (by decide) (by decide)).mp same) (by decide)

end InfoModel
