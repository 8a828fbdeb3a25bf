/-
**Models with the same declarations.**

Two models rearrange each other if they have the same declarations up to order: spread over packages
in another way, listed in another order, and with the members of an element in another order. Lists
of supertypes and choices stay as they are.

* `Regrouped` relates two lists whose items are related one to one, in whatever order;
* `InformationModel.Rearranged` is the relation, which is symmetric (`Rearranged.symm`);
* where names are distinct, rearranged models find related declarations under every name
  (`Regrouped.find?`), and their hierarchies have the same supertypes
  (`Rearranged.alike_objectTypeHierarchy`), so neither or both have cycles.
-/

import InfoModel.Proofs.Catalogue

namespace InfoModel

/-! ### Lists -/

/-- **The items of two lists are related one to one**, in whatever order they are listed. -/
def Regrouped {α β : Type} (related : α → β → Prop) (items : List α) (others : List β) : Prop :=
  ∃ middle, items.Perm middle ∧ List.Forall₂ related middle others

namespace Regrouped

variable {α β γ : Type} {related : α → α → Prop} {items others : List α}

theorem symm (symmetric : ∀ {item other}, related item other → related other item)
    (regrouped : Regrouped related items others) : Regrouped related others items := by
  obtain ⟨middle, perm, pairs⟩ := regrouped
  obtain ⟨back, backPairs, backPerm⟩ := List.perm_comp_forall₂ perm pairs
  exact ⟨back, backPerm.symm, (backPairs.imp fun _ _ => symmetric).flip⟩

/-- What related items have in common, both lists have up to order. -/
theorem perm_map {key : α → γ} (keeps : ∀ item other, related item other → key item = key other)
    (regrouped : Regrouped related items others) : (items.map key).Perm (others.map key) := by
  obtain ⟨middle, perm, pairs⟩ := regrouped
  have same : middle.map key = others.map key := by
    rw [← List.forall₂_eq_eq_eq, List.forall₂_map_left_iff, List.forall₂_map_right_iff]
    exact pairs.imp keeps
  exact same ▸ perm.map key

theorem map {target : γ → γ → Prop} {change : α → γ}
    (keeps : ∀ item other, related item other → target (change item) (change other))
    (regrouped : Regrouped related items others) :
    Regrouped target (items.map change) (others.map change) := by
  obtain ⟨middle, perm, pairs⟩ := regrouped
  refine ⟨middle.map change, perm.map change, ?_⟩
  rw [List.forall₂_map_left_iff, List.forall₂_map_right_iff]
  exact pairs.imp keeps

theorem append {more furthers : List α} (first : Regrouped related items others)
    (second : Regrouped related more furthers) :
    Regrouped related (items ++ more) (others ++ furthers) := by
  obtain ⟨firstMiddle, firstPerm, firstPairs⟩ := first
  obtain ⟨secondMiddle, secondPerm, secondPairs⟩ := second
  exact ⟨firstMiddle ++ secondMiddle, firstPerm.append secondPerm,
    List.rel_append firstPairs secondPairs⟩

theorem of_perm {first second : List α} (firstPerm : first.Perm items)
    (secondPerm : others.Perm second) (regrouped : Regrouped related items others) :
    Regrouped related first second := by
  obtain ⟨middle, perm, pairs⟩ := regrouped
  have swapped : List.Forall₂ (fun other item => related item other) others middle := pairs.flip
  obtain ⟨back, backPairs, backPerm⟩ := List.perm_comp_forall₂ secondPerm.symm swapped
  exact ⟨back, (firstPerm.trans perm).trans backPerm.symm, backPairs.flip⟩

/-- **Related items are found under every name**, where names are distinct. -/
theorem find? {nameOf : α → String}
    (keeps : ∀ item other, related item other → nameOf item = nameOf other)
    (distinct : (items.map nameOf).Nodup) (regrouped : Regrouped related items others)
    (name : String) :
    Option.Rel related (items.find? fun item => nameOf item == name)
      (others.find? fun item => nameOf item == name) := by
  obtain ⟨middle, perm, pairs⟩ := regrouped
  have distinctMiddle : (middle.map nameOf).Nodup := (perm.map nameOf).nodup_iff.mp distinct
  have same : (items.find? fun item => nameOf item == name)
      = middle.find? fun item => nameOf item == name := Option.ext fun item => by
    rw [find?_name_eq_some_iff distinct, find?_name_eq_some_iff distinctMiddle, perm.mem_iff]
  rw [same]
  -- names need not be distinct from here on, the two lists have their items at the same places
  clear perm distinct same distinctMiddle
  induction pairs with
  | nil => exact Option.Rel.none
  | @cons item other _ _ one _ ih =>
      rw [List.find?_cons, List.find?_cons, keeps item other one]
      cases nameOf other == name with
      | true => exact Option.Rel.some one
      | false => exact ih

end Regrouped

/-- An item of the second of two related lists is related to one of the first. -/
theorem exists_related_of_mem {α β : Type} {related : α → β → Prop} {items : List α}
    {others : List β} (pairs : List.Forall₂ related items others) {other : β}
    (member : other ∈ others) : ∃ item ∈ items, related item other := by
  induction pairs with
  | nil => cases member
  | @cons item head _ _ one _ ih =>
      rcases List.mem_cons.mp member with rfl | later
      · exact ⟨item, List.mem_cons_self, one⟩
      · obtain ⟨found, inRest, same⟩ := ih later
        exact ⟨found, List.mem_cons_of_mem _ inRest, same⟩

/-! ### Declarations -/

/-- The same members in another order. -/
structure Members.Rearranged (members other : Members) : Prop where
  attributes : members.attributes.Perm other.attributes
  relations : members.relations.Perm other.relations
  datagroups : members.datagroups.Perm other.datagroups

/-- The same object type with its members in another order. -/
structure ObjectTypeDeclaration.Rearranged (declared other : ObjectTypeDeclaration) : Prop where
  name : declared.name = other.name
  isAbstract : declared.isAbstract = other.isAbstract
  supertypes : declared.supertypes = other.supertypes
  members : declared.members.Rearranged other.members

/-- The same datagroup type with its members in another order. -/
structure DatagroupTypeDeclaration.Rearranged (declared other : DatagroupTypeDeclaration) :
    Prop where
  name : declared.name = other.name
  members : declared.members.Rearranged other.members

/-- The same form, with data elements in another order. -/
inductive DatatypeForm.Rearranged : DatatypeForm → DatatypeForm → Prop where
  | same (form : DatatypeForm) : Rearranged form form
  | structured {elements others : List DataElement} (perm : elements.Perm others) :
      Rearranged (.structured elements) (.structured others)

/-- The same datatype with its data elements in another order. -/
structure Datatype.Rearranged (declared other : Datatype) : Prop where
  name : declared.name = other.name
  supertypes : declared.supertypes = other.supertypes
  form : declared.form.Rearranged other.form

/-- **Models with the same declarations**, up to their order and their packages. -/
structure InformationModel.Rearranged (model other : InformationModel) : Prop where
  objectTypes : Regrouped ObjectTypeDeclaration.Rearranged model.objectTypes other.objectTypes
  datagroupTypes :
    Regrouped DatagroupTypeDeclaration.Rearranged model.datagroupTypes other.datagroupTypes
  datatypes : Regrouped Datatype.Rearranged model.datatypes other.datatypes

theorem Members.Rearranged.symm {members other : Members} (rearranged : members.Rearranged other) :
    other.Rearranged members :=
  ⟨rearranged.attributes.symm, rearranged.relations.symm, rearranged.datagroups.symm⟩

theorem ObjectTypeDeclaration.Rearranged.symm {declared other : ObjectTypeDeclaration}
    (rearranged : declared.Rearranged other) : other.Rearranged declared :=
  ⟨rearranged.name.symm, rearranged.isAbstract.symm, rearranged.supertypes.symm,
    rearranged.members.symm⟩

theorem DatagroupTypeDeclaration.Rearranged.symm {declared other : DatagroupTypeDeclaration}
    (rearranged : declared.Rearranged other) : other.Rearranged declared :=
  ⟨rearranged.name.symm, rearranged.members.symm⟩

theorem DatatypeForm.Rearranged.symm {form other : DatatypeForm}
    (rearranged : form.Rearranged other) : other.Rearranged form := by
  cases rearranged with
  | same => exact .same form
  | structured perm => exact .structured perm.symm

theorem Datatype.Rearranged.symm {declared other : Datatype}
    (rearranged : declared.Rearranged other) : other.Rearranged declared :=
  ⟨rearranged.name.symm, rearranged.supertypes.symm, rearranged.form.symm⟩

/-- The order of data elements does not decide what the values of a datatype are. -/
theorem Datatype.Rearranged.isScalarLike {declared other : Datatype}
    (rearranged : declared.Rearranged other) : declared.isScalarLike = other.isScalarLike := by
  obtain ⟨_, _, form⟩ := declared
  obtain ⟨_, _, otherForm⟩ := other
  cases rearranged.form <;> rfl

/-- The data elements stay the same up to order. -/
theorem Datatype.Rearranged.dataElements?_rel {declared other : Datatype}
    (rearranged : declared.Rearranged other) :
    Option.Rel List.Perm declared.dataElements? other.dataElements? := by
  obtain ⟨_, _, form⟩ := declared
  obtain ⟨_, _, otherForm⟩ := other
  cases rearranged.form with
  | structured perm => exact Option.Rel.some perm
  | same =>
      cases form with
      | structured elements => exact Option.Rel.some (List.Perm.refl elements)
      | enumeration | codeList | primitive | referenceList => exact Option.Rel.none

namespace InformationModel.Rearranged

variable {model other : InformationModel} (rearranged : model.Rearranged other)

include rearranged

theorem symm : other.Rearranged model :=
  ⟨rearranged.objectTypes.symm ObjectTypeDeclaration.Rearranged.symm,
    rearranged.datagroupTypes.symm DatagroupTypeDeclaration.Rearranged.symm,
    rearranged.datatypes.symm Datatype.Rearranged.symm⟩

theorem distinct_objectTypes (distinct : (model.objectTypes.map ObjectTypeDeclaration.name).Nodup) :
    (other.objectTypes.map ObjectTypeDeclaration.name).Nodup :=
  (rearranged.objectTypes.perm_map fun _ _ same => same.name).nodup_iff.mp distinct

theorem distinct_datatypes (distinct : (model.datatypes.map Datatype.name).Nodup) :
    (other.datatypes.map Datatype.name).Nodup :=
  (rearranged.datatypes.perm_map fun _ _ same => same.name).nodup_iff.mp distinct

/-! ### The catalogue -/

section ObjectTypes

variable (distinct : (model.objectTypes.map ObjectTypeDeclaration.name).Nodup)

include distinct

theorem objectType?_rel (name : String) :
    Option.Rel ObjectTypeDeclaration.Rearranged (model.catalogue.objectType? name)
      (other.catalogue.objectType? name) := by
  show Option.Rel _ ((Catalogue.objectTypesOf model).find? _)
    ((Catalogue.objectTypesOf other).find? _)
  rw [objectTypesOf_eq_of_distinct distinct,
    objectTypesOf_eq_of_distinct (rearranged.distinct_objectTypes distinct)]
  exact rearranged.objectTypes.find? (fun _ _ same => same.name) distinct name

/-- **The object types derive from the same types.** -/
theorem alike_objectTypeHierarchy :
    model.objectTypeHierarchy.Alike other.objectTypeHierarchy := by
  unfold objectTypeHierarchy
  rw [objectTypesOf_eq_of_distinct distinct,
    objectTypesOf_eq_of_distinct (rearranged.distinct_objectTypes distinct)]
  refine Hierarchy.alike_of_perm
    (rearranged.objectTypes.perm_map fun declared changed same => ?_) ?_
  · rw [same.name, same.supertypes]
  · rw [List.map_map]
    exact distinct

end ObjectTypes

section Datatypes

variable (distinct : (model.datatypes.map Datatype.name).Nodup)

include distinct

theorem datatype?_rel (name : String) :
    Option.Rel Datatype.Rearranged (model.catalogue.datatype? name)
      (other.catalogue.datatype? name) := by
  show Option.Rel _ ((Catalogue.datatypesOf model).find? _)
    ((Catalogue.datatypesOf other).find? _)
  rw [datatypesOf_eq_of_distinct distinct,
    datatypesOf_eq_of_distinct (rearranged.distinct_datatypes distinct)]
  exact rearranged.datatypes.find? (fun _ _ same => same.name) distinct name

/-- **The datatypes derive from the same types.** -/
theorem alike_datatypeHierarchy :
    model.datatypeHierarchy.Alike other.datatypeHierarchy := by
  unfold datatypeHierarchy
  rw [datatypesOf_eq_of_distinct distinct,
    datatypesOf_eq_of_distinct (rearranged.distinct_datatypes distinct)]
  refine Hierarchy.alike_of_perm
    (rearranged.datatypes.perm_map fun declared changed same => ?_) ?_
  · rw [same.name, same.supertypes]
  · rw [List.map_map]
    exact distinct

end Datatypes

/-- **Cycles do not depend on the arrangement.** -/
theorem acyclic_iff (distinct : (model.objectTypes.map ObjectTypeDeclaration.name).Nodup)
    (distinctDatatypes : (model.datatypes.map Datatype.name).Nodup) :
    model.Acyclic ↔ other.Acyclic :=
  and_congr (rearranged.alike_datatypeHierarchy distinctDatatypes).acyclic_iff
    (rearranged.alike_objectTypeHierarchy distinct).acyclic_iff

end InformationModel.Rearranged

end InfoModel
