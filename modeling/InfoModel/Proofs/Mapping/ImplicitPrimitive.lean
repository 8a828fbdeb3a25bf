/-
**Datatypes that are not declared.**

A datatype that a model mentions without declaring it is a primitive one. So it makes no difference
to declare it as a primitive datatype that has neither supertypes nor a pattern.

* `InformationModel.InsertsDatatype` adds one more datatype to a model, at some place;
* `datatype?_inserted`: the datatype is found under its own name, and nothing else changes;
* `agreeOn_inserted`: a datatype without supertypes leaves all derivations as they are, whether the
  others mention it or not;
* `emit_inserted`: so every declaration of the model is mapped alike, and the new one becomes
  nothing;
* `outcome_map_inserted`: where there is no cycle, the two mappings have the same outcome.
-/

import InfoModel.Proofs.Mapping.Acceptance
import InfoModel.Proofs.Mapping.Extension

namespace InfoModel

/-! ### One datatype more -/

/-- **A primitive datatype that says nothing about itself**: it has neither supertypes nor a
pattern. -/
def Datatype.plain (name : String) : Datatype where
  name := name
  form := .primitive none

/-- **A model with one more datatype**, at some place of one of its packages. -/
inductive InformationModel.InsertsDatatype (model : InformationModel) (datatype : Datatype) :
    InformationModel → Prop where
  | place {front back : List Package} {package : Package} {before after : List Datatype}
      (packages : model.packages = front ++ package :: back)
      (datatypes : package.datatypes = before ++ after) :
      model.InsertsDatatype datatype
        { model with
          packages := front ++ { package with datatypes := before ++ datatype :: after } :: back }

namespace InformationModel.InsertsDatatype

variable {model other : InformationModel} {datatype : Datatype} {name : String}

theorem objectTypes_eq (inserts : model.InsertsDatatype datatype other) :
    other.objectTypes = model.objectTypes := by
  cases inserts with
  | place packages datatypes =>
      unfold objectTypes
      rw [packages]
      simp only [List.flatMap_append, List.flatMap_cons]

/-- The datatypes are the ones before and the new one, at its place. -/
theorem exists_datatypes_eq (inserts : model.InsertsDatatype datatype other) :
    ∃ before after, model.datatypes = before ++ after ∧
      other.datatypes = before ++ datatype :: after := by
  cases inserts with
  | @place front back package before after packages datatypes =>
      refine ⟨front.flatMap Package.datatypes ++ before,
        after ++ back.flatMap Package.datatypes, ?_, ?_⟩
      · unfold InformationModel.datatypes
        rw [packages, List.flatMap_append, List.flatMap_cons, datatypes]
        simp only [List.append_assoc]
      · simp [InformationModel.datatypes]

/-- The declarations are the ones before and the new one, at its place. -/
theorem exists_declarations_eq (inserts : model.InsertsDatatype datatype other) :
    ∃ before after, model.declarations = before ++ after ∧
      other.declarations = before ++ .datatype datatype :: after := by
  cases inserts with
  | @place front back package before after packages datatypes =>
      refine ⟨front.flatMap Package.declarations ++ (package.objectTypes.map .objectType ++
          package.datagroupTypes.map .datagroupType ++ before.map .datatype),
        after.map .datatype ++ back.flatMap Package.declarations, ?_, ?_⟩
      · unfold declarations
        rw [packages, List.flatMap_append, List.flatMap_cons]
        simp [Package.declarations, datatypes]
      · simp [declarations, Package.declarations]

/-- **A new datatype is found under its name, which was not declared before**, and every other name
is found as before. -/
theorem datatype?_inserted (inserts : model.InsertsDatatype datatype other)
    (undeclared : datatype.name ∉ model.datatypes.map Datatype.name) (name : String) :
    other.catalogue.datatype? name = model.catalogue.datatype? name ∨
      name = datatype.name ∧ model.catalogue.datatype? name = none ∧
        other.catalogue.datatype? name = some datatype := by
  obtain ⟨before, after, split, inserted⟩ := inserts.exists_datatypes_eq
  rw [datatype?_eq_find?, datatype?_eq_find?, inserted]
  by_cases same : name = datatype.name
  · subst same
    have none : model.datatypes.find? (fun other => other.name == datatype.name) = none := by
      refine List.find?_eq_none.mpr fun other member found => undeclared ?_
      have equal : other.name = datatype.name := by simpa using found
      rw [← equal]
      exact List.mem_map_of_mem member
    refine Or.inr ⟨rfl, none, ?_⟩
    rw [split, List.find?_append, Option.or_eq_none_iff] at none
    rw [List.find?_append, none.1, List.find?_cons_of_pos (by simp)]
    rfl
  · rw [split, List.find?_append, List.find?_append,
      List.find?_cons_of_neg (by simpa using Ne.symm same)]
    exact Or.inl rfl

/-! ### The catalogue -/

theorem objectTypesOf_inserted (inserts : model.InsertsDatatype datatype other) :
    Catalogue.objectTypesOf other = Catalogue.objectTypesOf model := by
  unfold Catalogue.objectTypesOf
  rw [inserts.objectTypes_eq]

theorem objectTypeHierarchy_inserted (inserts : model.InsertsDatatype datatype other) :
    other.objectTypeHierarchy = model.objectTypeHierarchy := by
  unfold objectTypeHierarchy
  rw [inserts.objectTypesOf_inserted]

section Plain

variable (inserts : model.InsertsDatatype (.plain name) other)
  (undeclared : name ∉ model.datatypes.map Datatype.name)

include inserts undeclared

/-- **A datatype without supertypes leaves all derivations as they are.** Its name may have been
mentioned as a supertype before: it had none of its own then, and has none now. -/
theorem agreeOn_inserted : Hierarchy.AgreeOn (fun _ => True) model.datatypeHierarchy
    other.datatypeHierarchy where
  direct mentioned _ := by
    rw [direct_datatypeHierarchy, direct_datatypeHierarchy]
    rcases inserts.datatype?_inserted undeclared mentioned with same | ⟨-, absent, found⟩
    · rw [same]
    · rw [absent, found]
      rfl
  inside _ _ _ _ := trivial

theorem acyclic_inserted_iff : other.Acyclic ↔ model.Acyclic := by
  have agree := inserts.agreeOn_inserted undeclared
  have back : Hierarchy.AgreeOn (fun _ => True) other.datatypeHierarchy
      model.datatypeHierarchy :=
    ⟨fun mentioned here => (agree.direct mentioned here).symm, fun _ _ _ _ => trivial⟩
  unfold Acyclic
  rw [inserts.objectTypeHierarchy_inserted]
  exact and_congr_left fun _ => ⟨agree.acyclic fun _ _ _ => trivial,
    back.acyclic fun _ _ _ => trivial⟩

end Plain

end InformationModel.InsertsDatatype

/-! ### The two mappings -/

namespace Mapper

open InformationModel

variable {mapper : Mapper} {model other : InformationModel} {name : String}
  {aliasName : Option String} (inserts : model.InsertsDatatype (.plain name) other)
  (undeclared : name ∉ model.datatypes.map Datatype.name)

include inserts undeclared

/-- What the two passes find under the name of a datatype. -/
theorem datatype?_passOver_inserted (mapper : Mapper) (mentioned : String) :
    (mapper.passOver other).resolver.catalogue.datatype? mentioned
        = (mapper.passOver model).resolver.catalogue.datatype? mentioned ∨
      mentioned = name ∧ (mapper.passOver model).resolver.catalogue.datatype? mentioned = none ∧
        (mapper.passOver other).resolver.catalogue.datatype? mentioned = some (.plain name) :=
  inserts.datatype?_inserted undeclared mentioned

/-- **Declaring an undeclared datatype as a plain primitive does not change what is asked of it**:
its values are scalars, its declaration makes it no text, and it derives from nothing. -/
theorem agrees_inserted (mapper : Mapper) :
    (mapper.passOver model).Agrees (mapper.passOver other) where
  mapper := rfl
  scalarLike mentioned := by
    unfold Resolver.isScalarLike
    rcases datatype?_passOver_inserted inserts undeclared mapper mentioned with
      same | ⟨-, absent, found⟩
    · rw [same]
    · rw [absent, found]
      rfl
  declaredText mentioned := by
    unfold Resolver.isDeclaredText
    rcases datatype?_passOver_inserted inserts undeclared mapper mentioned with
      same | ⟨-, absent, found⟩
    · rw [same]
    · rw [absent, found]
      rfl
  base mentioned := (inserts.agreeOn_inserted undeclared).root model.closed_datatypeHierarchy
    other.closed_datatypeHierarchy trivial
  isSubtype mentioned ancestor := (inserts.agreeOn_inserted undeclared).isSubtype
    model.closed_datatypeHierarchy other.closed_datatypeHierarchy trivial ancestor
  known mentioned := by
    show (model.catalogue.objectType? mentioned).isSome
      = (other.catalogue.objectType? mentioned).isSome
    rw [objectType?_eq_find?, objectType?_eq_find?, inserts.objectTypes_eq]

/-- Every declaration is mapped alike. -/
theorem emit_inserted (declaration : Declaration) :
    (mapper.passOver model).emit declaration = (mapper.passOver other).emit declaration :=
  Pass.emit_congr (agrees_inserted inserts undeclared mapper) inserts.objectTypesOf_inserted.symm
    inserts.objectTypeHierarchy_inserted.symm declaration

/-- **Where there is no cycle, the two mappings have the same outcome.** -/
theorem outcome_map_inserted (acyclic : model.Acyclic) :
    (mapper.map model aliasName).outcome = (mapper.map other aliasName).outcome := by
  have otherAcyclic := (inserts.acyclic_inserted_iff undeclared).mpr acyclic
  have same : (mapper.passOver model).emit = (mapper.passOver other).emit :=
    funext (emit_inserted inserts undeclared)
  have silent : ((mapper.passOver other).emit (.datatype (.plain name))).outcome = .ok none := rfl
  obtain ⟨before, after, split, inserted⟩ := inserts.exists_declarations_eq
  rw [outcome_map_of_acyclic acyclic, outcome_map_of_acyclic otherAcyclic, split, inserted, same,
    Recorded.outcome_mapM_insert_none silent]

/-- **Declaring an implicit primitive changes nothing.** A model is mapped alike, whether it leaves
a datatype undeclared or declares it as a primitive without supertypes and pattern, at any place:
both mappings succeed with the same result, or both fail with the same fault, except that two
reports on cycles may name different types. -/
theorem plain_declaration_idle (mapper : Mapper) (aliasName : Option String) :
    (∃ result, (mapper.map model aliasName).outcome = .ok result ∧
      (mapper.map other aliasName).outcome = .ok result) ∨
    ∃ fault otherFault, (mapper.map model aliasName).outcome = .error fault ∧
      (mapper.map other aliasName).outcome = .error otherFault ∧
      (fault = otherFault ∨ ∃ typeName otherName, fault = .supertypeCycle typeName ∧
        otherFault = .supertypeCycle otherName) := by
  by_cases acyclic : model.Acyclic
  · have same : (mapper.map model aliasName).outcome = (mapper.map other aliasName).outcome :=
      outcome_map_inserted inserts undeclared acyclic
    cases outcome : (mapper.map model aliasName).outcome with
    | ok result => exact Or.inl ⟨result, rfl, same ▸ outcome⟩
    | error fault => exact Or.inr ⟨fault, fault, rfl, same ▸ outcome, Or.inl rfl⟩
  · have otherCyclic : ¬ other.Acyclic := mt (inserts.acyclic_inserted_iff undeclared).mp acyclic
    obtain ⟨typeName, failed⟩ : ∃ typeName,
        (mapper.map model aliasName).outcome = .error (.supertypeCycle typeName) :=
      exists_map_eq_supertypeCycle acyclic
    obtain ⟨otherName, otherFailed⟩ : ∃ otherName,
        (mapper.map other aliasName).outcome = .error (.supertypeCycle otherName) :=
      exists_map_eq_supertypeCycle otherCyclic
    exact Or.inr ⟨_, _, failed, otherFailed, Or.inr ⟨typeName, otherName, rfl, rfl⟩⟩

/-! ### Signs and their codes -/

omit inserts undeclared

/-- Signs with a code or any other text, with some datatypes more. The usual text type is a
supertype and an alternative here. -/
def signs (further : List Datatype) : InformationModel where
  name := "M"
  packages := [{
    name := "P"
    objectTypes := [
      { name := "Sign",
        members := {
          attributes := [{ name := "label", choice := some ["Code", characterString] }] } }]
    datatypes := [{ name := "Code", supertypes := [characterString], form := .primitive none }] ++
      further ++ [{ name := "Kind", form := .codeList none }] }]

/-- The text type, declared between two others. -/
theorem plain_declaration_idle_signs :
    (signs []).InsertsDatatype (.plain characterString) (signs [.plain characterString]) ∧
      characterString ∉ (signs []).datatypes.map Datatype.name ∧
      ∃ result sign, (map {} (signs []) none).outcome = .ok result ∧
        (map {} (signs [.plain characterString]) none).outcome = .ok result ∧
        result.objectType? "Sign" = some sign := by
  have inserts : (signs []).InsertsDatatype (.plain characterString)
      (signs [.plain characterString]) :=
    @InformationModel.InsertsDatatype.place (signs []) (.plain characterString) [] [] _
      [{ name := "Code", supertypes := [characterString], form := .primitive none }]
      [{ name := "Kind", form := .codeList none }] rfl rfl
  have undeclared : characterString ∉ (signs []).datatypes.map Datatype.name := by decide
  obtain ⟨result, sign, mapped, found⟩ : ∃ result sign,
      (map {} (signs []) none).outcome = .ok result ∧
        result.objectType? "Sign" = some sign := ⟨_, _, rfl, rfl⟩
  refine ⟨inserts, undeclared, result, sign, mapped, ?_, found⟩
  rcases plain_declaration_idle inserts undeclared {} none with
    ⟨same, first, second⟩ | ⟨fault, -, failed, -⟩
  · exact second.trans (first.symm.trans mapped)
  · exact nomatch failed.symm.trans mapped

end Mapper

end InfoModel
