/-
**Names that are declared again.**

Of several declarations of one name, the first counts for the hierarchies and for the types of
members. The declarations behind it are mapped all the same.

* `InformationModel.Redeclares` adds one more object type or datatype to a model, at some place
  behind the declaration of its name;
* `Redeclares.catalogue_eq`: that leaves the catalogue as it was, so all declarations are mapped as
  before;
* `map_redeclared_of_silent`: a declaration that becomes no object type changes nothing;
* `map_redeclared_of_emits`: one that does becomes an object type of its own, unless another
  declaration of the name has become one.
-/

import InfoModel.Proofs.Mapping.Emission

namespace InfoModel

open scoped List

/-! ### One declaration more -/

/-- **A model declares a name again**: there is one more object type or datatype, at some place
behind the declaration of its name. -/
inductive InformationModel.Redeclares (model : InformationModel) :
    Declaration → InformationModel → Prop where
  | objectType {front back : List Package} {package : Package}
      {before after : List ObjectTypeDeclaration} {declared : ObjectTypeDeclaration}
      (packages : model.packages = front ++ package :: back)
      (objectTypes : package.objectTypes = before ++ after)
      (known : declared.name ∈
        (front.flatMap Package.objectTypes ++ before).map ObjectTypeDeclaration.name) :
      model.Redeclares (.objectType declared)
        { model with
          packages := front ++ { package with objectTypes := before ++ declared :: after } :: back }
  | datatype {front back : List Package} {package : Package}
      {before after : List Datatype} {declared : Datatype}
      (packages : model.packages = front ++ package :: back)
      (datatypes : package.datatypes = before ++ after)
      (known : declared.name ∈
        (front.flatMap Package.datatypes ++ before).map Datatype.name) :
      model.Redeclares (.datatype declared)
        { model with
          packages := front ++ { package with datatypes := before ++ declared :: after } :: back }

/-- One item more in one part is one item more in all parts together. -/
theorem perm_flatMap_cons {α β : Type} {part : α → List β} {changed original : α} {item : β}
    (more : (part changed).Perm (item :: part original)) (front back : List α) :
    ((front ++ changed :: back).flatMap part).Perm
      (item :: (front ++ original :: back).flatMap part) := by
  rw [List.flatMap_append, List.flatMap_append, List.flatMap_cons, List.flatMap_cons]
  calc front.flatMap part ++ (part changed ++ back.flatMap part)
      ~ front.flatMap part ++ (item :: part original ++ back.flatMap part) :=
        (more.append_right _).append_left _
    _ ~ item :: (front.flatMap part ++ (part original ++ back.flatMap part)) := List.perm_middle

/-- An item behind the first of its name leaves the first items as they are. -/
theorem firstsFrom_flatMap_known {α β : Type} {nameOf : β → String} {part : α → List β}
    {changed original : α} {before after : List β} {item : β} {front : List α} (back : List α)
    (originalPart : part original = before ++ after)
    (changedPart : part changed = before ++ item :: after)
    (known : nameOf item ∈ (front.flatMap part ++ before).map nameOf) :
    firstsFrom nameOf [] ((front ++ changed :: back).flatMap part)
      = firstsFrom nameOf [] ((front ++ original :: back).flatMap part) := by
  have ignored := @firstsFrom_append_known _ _ [] _ (after ++ back.flatMap part) item
    (Or.inr known)
  rw [List.flatMap_append, List.flatMap_append, List.flatMap_cons, List.flatMap_cons,
    originalPart, changedPart]
  simpa using ignored

namespace InformationModel.Redeclares

variable {model other : InformationModel} {declaration : Declaration}

/-- The declarations are the ones before and the new one. -/
theorem perm_declarations (redeclares : model.Redeclares declaration other) :
    other.declarations.Perm (declaration :: model.declarations) := by
  cases redeclares with
  | @objectType front back package before after declared packages objectTypes known =>
      unfold InformationModel.declarations
      rw [packages]
      refine perm_flatMap_cons ?_ front back
      unfold Package.declarations
      rw [objectTypes, List.map_append, List.map_append, List.map_cons, List.append_assoc,
        List.append_assoc, List.append_assoc, List.append_assoc]
      exact List.perm_middle
  | @datatype front back package before after declared packages datatypes known =>
      unfold InformationModel.declarations
      rw [packages]
      refine perm_flatMap_cons ?_ front back
      unfold Package.declarations
      rw [datatypes, List.map_append, List.map_append, List.map_cons, ← List.append_assoc,
        ← List.append_assoc]
      exact List.perm_middle

theorem objectTypesOf_eq (redeclares : model.Redeclares declaration other) :
    Catalogue.objectTypesOf other = Catalogue.objectTypesOf model := by
  unfold Catalogue.objectTypesOf InformationModel.objectTypes
  cases redeclares with
  | @objectType front back package before after declared packages objectTypes known =>
      rw [packages]
      exact firstsFrom_flatMap_known back objectTypes rfl known
  | datatype packages datatypes known =>
      rw [packages]
      simp only [List.flatMap_append, List.flatMap_cons]

theorem datatypesOf_eq (redeclares : model.Redeclares declaration other) :
    Catalogue.datatypesOf other = Catalogue.datatypesOf model := by
  unfold Catalogue.datatypesOf InformationModel.datatypes
  cases redeclares with
  | objectType packages objectTypes known =>
      rw [packages]
      simp only [List.flatMap_append, List.flatMap_cons]
  | @datatype front back package before after declared packages datatypes known =>
      rw [packages]
      exact firstsFrom_flatMap_known back datatypes rfl known

/-- **A declaration of a name that is declared already leaves the catalogue as it is.** -/
theorem catalogue_eq (redeclares : model.Redeclares declaration other) :
    other.catalogue = model.catalogue := by
  unfold InformationModel.catalogue datatypeHierarchy objectTypeHierarchy
  rw [redeclares.objectTypesOf_eq, redeclares.datatypesOf_eq]

theorem outcome_build_eq (redeclares : model.Redeclares declaration other) :
    (Catalogue.build other).outcome = (Catalogue.build model).outcome := by
  unfold Catalogue.build
  simp only [Recorded.outcome_bind, Recorded.outcome_reportAll, Recorded.outcome_ofExcept,
    Recorded.outcome_report, redeclares.objectTypesOf_eq, redeclares.datatypesOf_eq]

theorem acyclic_iff (redeclares : model.Redeclares declaration other) :
    other.Acyclic ↔ model.Acyclic := by
  unfold Acyclic datatypeHierarchy objectTypeHierarchy
  rw [redeclares.objectTypesOf_eq, redeclares.datatypesOf_eq]

end InformationModel.Redeclares

/-! ### The mapping -/

namespace Mapper

variable {mapper : Mapper} {model other : InformationModel} {declaration : Declaration}
  {aliasName : Option String} {result : Model}

section Redeclared

variable (redeclares : model.Redeclares declaration other)

include redeclares

theorem passOver_eq (mapper : Mapper) : mapper.passOver other = mapper.passOver model := by
  unfold passOver
  rw [redeclares.catalogue_eq]

/-- The model with the new declaration is mapped by the same pass, on one declaration more. -/
theorem map_redeclared_eq_ok_iff :
    (mapper.map other aliasName).outcome = .ok result ↔ model.Acyclic ∧
      (∀ existing ∈ declaration :: model.declarations, (mapper.passOver model).Maps existing) ∧
      (((declaration :: model.declarations).filter Declaration.emits).map
        Declaration.name).Nodup ∧
      result.aliasName = aliasName ∧
      ∀ name objectType, result.objectType? name = some objectType ↔
        ∃ existing ∈ declaration :: model.declarations, existing.name = name ∧
          ((mapper.passOver model).emit existing).outcome = .ok (some objectType) := by
  have perm := redeclares.perm_declarations
  rw [map_eq_ok_iff, redeclares.acyclic_iff, passOver_eq redeclares,
    ((perm.filter Declaration.emits).map Declaration.name).nodup_iff]
  simp only [perm.mem_iff]

/-- **A new declaration that becomes no object type changes nothing.** -/
theorem map_redeclared_of_silent (silent : declaration.emits = false) :
    (mapper.map other aliasName).outcome = .ok result ↔
      (mapper.map model aliasName).outcome = .ok result := by
  have mapped : ((mapper.passOver model).emit declaration).outcome = .ok none :=
    Pass.emit_eq_ok_none_iff.mpr silent
  rw [map_redeclared_eq_ok_iff redeclares, map_eq_ok_iff,
    List.filter_cons_of_neg (by simp [silent]), List.forall_mem_cons]
  refine and_congr_right fun _ => and_congr (and_iff_right ⟨none, mapped⟩) ?_
  refine and_congr_right fun _ => and_congr_right fun _ => ?_
  refine forall_congr' fun name => forall_congr' fun objectType => iff_congr Iff.rfl ?_
  simp [mapped]

omit redeclares in
/-- What the declarations become together with a new one whose name no other has become. -/
theorem exists_emit_cons_iff (mapped : (mapper.map model aliasName).outcome = .ok result)
    {objectType : ObjectType}
    (emitted : ((mapper.passOver model).emit declaration).outcome = .ok (some objectType))
    (alone : ∀ existing ∈ model.declarations, existing.name = declaration.name →
      existing.emits = false) (name : String) (found : ObjectType) :
    (∃ existing ∈ declaration :: model.declarations, existing.name = name ∧
        ((mapper.passOver model).emit existing).outcome = .ok (some found)) ↔
      (if name = declaration.name then some objectType else result.objectType? name)
        = some found := by
  obtain ⟨-, -, -, -, carried⟩ := map_eq_ok_iff.mp mapped
  by_cases same : name = declaration.name
  · subst same
    rw [if_pos rfl]
    constructor
    · rintro ⟨existing, member, sameName, becomes⟩
      -- an earlier declaration of the name becomes nothing, so this is the new one
      rcases List.mem_cons.mp member with rfl | before
      · exact Except.ok.inj (emitted.symm.trans becomes)
      · have silent := alone existing before sameName
        rw [Pass.emits_of_emit becomes] at silent
        cases silent
    · rintro ⟨⟩
      exact ⟨declaration, List.mem_cons_self, rfl, emitted⟩
  · rw [if_neg same, carried]
    constructor
    · rintro ⟨existing, member, rfl, becomes⟩
      rcases List.mem_cons.mp member with rfl | before
      · exact absurd rfl same
      · exact ⟨existing, before, rfl, becomes⟩
    · rintro ⟨existing, before, sameName, becomes⟩
      exact ⟨existing, List.mem_cons_of_mem _ before, sameName, becomes⟩

/-- **A new declaration that becomes an object type** is mapped just if no declaration of the name
has become one; then the model has this object type besides those it had. -/
theorem map_redeclared_of_emits (emits : declaration.emits = true) {extended : Model} :
    (mapper.map other aliasName).outcome = .ok extended ↔ ∃ result objectType,
      (mapper.map model aliasName).outcome = .ok result ∧
      ((mapper.passOver model).emit declaration).outcome = .ok (some objectType) ∧
      (∀ existing ∈ model.declarations, existing.name = declaration.name →
        existing.emits = false) ∧
      extended.aliasName = result.aliasName ∧
      ∀ name, extended.objectType? name =
        if name = declaration.name then some objectType else result.objectType? name := by
  have names : (((declaration :: model.declarations).filter Declaration.emits).map
      Declaration.name).Nodup ↔
        (∀ existing ∈ model.declarations, existing.name = declaration.name →
          existing.emits = false) ∧
        ((model.declarations.filter Declaration.emits).map Declaration.name).Nodup := by
    rw [List.filter_cons_of_pos emits, List.map_cons, List.nodup_cons]
    refine and_congr_left fun _ => ?_
    simp only [List.mem_map, List.mem_filter, not_exists, not_and, and_imp]
    refine forall₂_congr fun existing _ => ?_
    cases existing.emits <;> simp
  rw [map_redeclared_eq_ok_iff redeclares, names, List.forall_mem_cons]
  constructor
  · rintro ⟨acyclic, ⟨⟨_ | objectType, emitted⟩, maps⟩, ⟨alone, distinct⟩, sameAlias, found⟩
    · rw [Pass.emit_eq_ok_none_iff.mp emitted] at emits
      cases emits
    · obtain ⟨result, mapped⟩ := exists_map_eq_ok_iff.mpr ⟨acyclic, maps, distinct⟩
      refine ⟨result, objectType, mapped, emitted, alone, ?_,
        fun name => Option.ext fun other => ?_⟩
      · rw [sameAlias, (map_eq_ok_iff.mp mapped).2.2.2.1]
      · exact (found name other).trans (exists_emit_cons_iff mapped emitted alone name other)
  · rintro ⟨result, objectType, mapped, emitted, alone, sameAlias, found⟩
    obtain ⟨acyclic, maps, distinct, resultAlias, -⟩ := map_eq_ok_iff.mp mapped
    refine ⟨acyclic, ⟨⟨_, emitted⟩, maps⟩, ⟨alone, distinct⟩, sameAlias.trans resultAlias,
      fun name other => ?_⟩
    rw [found, exists_emit_cons_iff mapped emitted alone]

/-- **A redeclaration is ignored or becomes an object type of its own.** It is ignored just if it is
an abstract object type or a datatype that is not structured. Any other one becomes an object type
that the model did not have; it takes that all earlier declarations of the name became none. -/
theorem redeclaration_ignored_iff_silent :
    (Catalogue.build other).outcome = (Catalogue.build model).outcome ∧
      (declaration.emits = false → ∀ result,
        (mapper.map other aliasName).outcome = .ok result ↔
          (mapper.map model aliasName).outcome = .ok result) ∧
      (declaration.emits = true → ∀ extended,
        (mapper.map other aliasName).outcome = .ok extended ↔ ∃ result objectType,
          (mapper.map model aliasName).outcome = .ok result ∧
          ((mapper.passOver model).emit declaration).outcome = .ok (some objectType) ∧
          (∀ existing ∈ model.declarations, existing.name = declaration.name →
            existing.emits = false) ∧
          extended.aliasName = result.aliasName ∧
          ∀ name, extended.objectType? name =
            if name = declaration.name then some objectType else result.objectType? name) ∧
      ∀ extended, (mapper.map other aliasName).outcome = .ok extended →
        ((mapper.map model aliasName).outcome = .ok extended ↔ declaration.emits = false) := by
  refine ⟨redeclares.outcome_build_eq, fun silent _ => map_redeclared_of_silent redeclares silent,
    fun emits _ => map_redeclared_of_emits redeclares emits, fun extended mapped => ?_⟩
  cases emits : declaration.emits with
  | false => simpa using (map_redeclared_of_silent redeclares emits).mp mapped
  | true =>
      obtain ⟨result, objectType, before, -, alone, -, found⟩ :=
        (map_redeclared_of_emits redeclares emits).mp mapped
      refine iff_of_false (fun same => ?_) (by simp)
      have carried : extended.objectType? declaration.name = some objectType := by
        rw [found, if_pos rfl]
      obtain ⟨existing, member, named, becomes⟩ :=
        ((map_eq_ok_iff.mp same).2.2.2.2 declaration.name objectType).mp carried
      have silent := alone existing member named
      rw [Pass.emits_of_emit becomes] at silent
      cases silent

end Redeclared

/-! ### A name that only its second declaration maps -/

/-- The model with one package of these declarations. -/
def listing (objectTypes : List ObjectTypeDeclaration) (datatypes : List Datatype) :
    InformationModel where
  name := "M"
  packages := [{ name := "P", objectTypes := objectTypes, datatypes := datatypes }]

/-- A code list, declared again as a structured datatype. -/
theorem redeclaration_ignored_iff_silent_structured :
    (listing [] [⟨"D", [], .codeList none⟩]).Redeclares (.datatype ⟨"D", [], .structured []⟩)
        (listing [] [⟨"D", [], .codeList none⟩, ⟨"D", [], .structured []⟩]) ∧
      ∃ result objectType extended,
        (map {} (listing [] [⟨"D", [], .codeList none⟩]) none).outcome = .ok result ∧
        (map {} (listing [] [⟨"D", [], .codeList none⟩, ⟨"D", [], .structured []⟩]) none).outcome
          = .ok extended ∧
        extended.objectType? "D" = some objectType := by
  have redeclares : (listing [] [⟨"D", [], .codeList none⟩]).Redeclares
      (.datatype ⟨"D", [], .structured []⟩)
      (listing [] [⟨"D", [], .codeList none⟩, ⟨"D", [], .structured []⟩]) :=
    @InformationModel.Redeclares.datatype (listing [] [⟨"D", [], .codeList none⟩]) [] [] _
      [⟨"D", [], .codeList none⟩] [] ⟨"D", [], .structured []⟩ rfl rfl List.mem_cons_self
  obtain ⟨extended, mapped⟩ : ∃ extended, (map {} (listing [] [⟨"D", [], .codeList none⟩,
      ⟨"D", [], .structured []⟩]) none).outcome = .ok extended := ⟨_, rfl⟩
  obtain ⟨result, objectType, before, -, -, -, found⟩ :=
    ((redeclaration_ignored_iff_silent redeclares).2.2.1 rfl extended).mp mapped
  refine ⟨redeclares, result, objectType, extended, before, mapped, ?_⟩
  rw [found]
  rfl

/-- **A redeclaration can add an object type**: a concrete one, where the first declaration of the
name is abstract. -/
theorem redeclaration_adds_object_type :
    (listing [{ name := "A", isAbstract := true }] []).Redeclares (.objectType { name := "A" })
        (listing [{ name := "A", isAbstract := true }, { name := "A" }] []) ∧
      (map {} (listing [{ name := "A", isAbstract := true }] []) none).outcome.map Model.size
        = .ok 0 ∧
      (map {} (listing [{ name := "A", isAbstract := true }, { name := "A" }] [])
        none).outcome.map Model.size = .ok 1 :=
  ⟨@InformationModel.Redeclares.objectType
    (listing [{ name := "A", isAbstract := true }] []) [] [] _
    [{ name := "A", isAbstract := true }] [] { name := "A" } rfl rfl List.mem_cons_self, rfl, rfl⟩

end Mapper

end InfoModel
