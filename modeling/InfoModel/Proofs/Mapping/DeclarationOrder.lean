/-
**The order of declarations.**

The mapping of a model does not depend on the arrangement of its declarations.

* `members_of_rearranged`: members in another order become the same properties in another order;
* `agrees_of_rearranged`: the passes over rearranged models map every element alike;
* `objectType_of_rearranged`: lineages list related types in the same order, so the first declarers
  of a name are related, too, and the same properties are kept;
* `map_of_rearranged`: what a model is mapped to, the rearranged model is mapped to as well. It
  takes that the names of object types are distinct, and those of datatypes.
-/

import InfoModel.Proofs.Mapping.Emission
import InfoModel.Proofs.Mapping.Inheritance
import InfoModel.Proofs.Rearrangement

namespace InfoModel

/-! ### Members -/

namespace Pass

variable {pass other : Pass} {owner : String} {members changed : Members}

theorem perm_memberNames (pass : Pass) (rearranged : members.Rearranged changed) :
    (pass.memberNames members).Perm (pass.memberNames changed) := by
  unfold memberNames
  exact ((rearranged.attributes.map _).append ((rearranged.relations.filter _).map _)).append
    (rearranged.datagroups.map _)

/-- Attributes in another order are mapped to the same properties in another order. -/
theorem forall₂_member_of_perm {attributes others : List AttributeDeclaration}
    (perm : attributes.Perm others) {properties : List Property}
    (mapped : List.Forall₂ (fun declared property =>
      (pass.member owner declared).outcome = .ok property) attributes properties) :
    ∃ changed, List.Forall₂ (fun declared property =>
      (pass.member owner declared).outcome = .ok property) others changed ∧
        properties.Perm changed := by
  obtain ⟨changed, each, back⟩ := List.perm_comp_forall₂ perm.symm mapped
  exact ⟨changed, each, back.symm⟩

/-- **Members in another order become the same properties in another order.** -/
theorem members_of_rearranged (rearranged : members.Rearranged changed)
    {properties : List Property}
    (mapped : (pass.members owner members).outcome = .ok properties) :
    ∃ others, (pass.members owner changed).outcome = .ok others ∧ properties.Perm others := by
  obtain ⟨distinct, attributes, each, rfl⟩ := members_eq_ok_iff.mp mapped
  obtain ⟨others, otherEach, perm⟩ := forall₂_member_of_perm rearranged.attributes each
  refine ⟨pass.assembled changed others, members_eq_ok_iff.mpr ⟨?_, others, otherEach, rfl⟩, ?_⟩
  · exact (pass.perm_memberNames rearranged).nodup_iff.mp distinct
  · exact (perm.append (rearranged.relations.filterMap _)).append (rearranged.datagroups.map _)

/-! ### Elements -/

section Agreeing

variable (agrees : pass.Agrees other)

include agrees

/-- A datagroup type is mapped to the same object type. -/
theorem datagroupType_of_rearranged {declared changed : DatagroupTypeDeclaration}
    (rearranged : declared.Rearranged changed) {result : ObjectType}
    (mapped : (pass.datagroupType declared).outcome = .ok result) :
    (other.datagroupType changed).outcome = .ok result := by
  unfold datagroupType at mapped ⊢
  obtain ⟨_, -, further⟩ := Recorded.outcome_bind_eq_ok_iff.mp mapped
  obtain ⟨properties, mappedMembers, built⟩ := Recorded.outcome_bind_eq_ok_iff.mp further
  obtain ⟨others, otherMembers, perm⟩ := members_of_rearranged rearranged.members mappedMembers
  rw [agrees.members, rearranged.name] at otherMembers
  refine Recorded.outcome_bind_eq_ok_iff.mpr ⟨(), rfl,
    Recorded.outcome_bind_eq_ok_iff.mpr ⟨others, otherMembers, ?_⟩⟩
  rw [← rearranged.name]
  exact ObjectType.Draft.build_eq_ok_of_perm perm built

/-- A structured datatype is mapped to the same object type. -/
theorem structured_of_perm {name : String} {elements others : List DataElement}
    (perm : elements.Perm others) {result : ObjectType}
    (mapped : (pass.structured name elements).outcome = .ok result) :
    (other.structured name others).outcome = .ok result := by
  unfold structured at mapped ⊢
  obtain ⟨_, -, further⟩ := Recorded.outcome_bind_eq_ok_iff.mp mapped
  obtain ⟨properties, mappedElements, built⟩ := Recorded.outcome_bind_eq_ok_iff.mp further
  have each := Recorded.outcome_mapM_eq_ok_iff.mp mappedElements
  obtain ⟨changed, otherEach, back⟩ := List.perm_comp_forall₂ perm.symm each
  refine Recorded.outcome_bind_eq_ok_iff.mpr ⟨(), rfl,
    Recorded.outcome_bind_eq_ok_iff.mpr ⟨changed, ?_, ?_⟩⟩
  · refine Recorded.outcome_mapM_eq_ok_iff.mpr (otherEach.imp fun element property one => ?_)
    rw [← agrees.member]
    exact one
  · exact ObjectType.Draft.build_eq_ok_of_perm back.symm built

/-! ### Lineages -/

section Types

variable {declared changed : ObjectTypeDeclaration} (rearranged : declared.Rearranged changed)

include rearranged

theorem mem_memberNames_iff_of_rearranged {name : String} :
    name ∈ pass.memberNames declared.members ↔ name ∈ other.memberNames changed.members := by
  rw [← agrees.memberNames, (pass.perm_memberNames rearranged.members).mem_iff]

/-- The properties that a type declares itself stay the same. -/
theorem ownProperties_of_rearranged (maps : pass.MapsMembers declared) :
    other.MapsMembers changed ∧
      (pass.ownProperties declared).Perm (other.ownProperties changed) := by
  have mapped := members_eq_ok_iff_ownProperties.mpr ⟨maps, rfl⟩
  obtain ⟨others, otherMapped, perm⟩ := members_of_rearranged rearranged.members mapped
  rw [agrees.members, rearranged.name] at otherMapped
  obtain ⟨otherMaps, rfl⟩ := members_eq_ok_iff_ownProperties.mp otherMapped
  exact ⟨otherMaps, perm⟩

end Types

variable {lineage changed : List ObjectTypeDeclaration}
  (pairs : List.Forall₂ ObjectTypeDeclaration.Rearranged lineage changed)

include pairs

/-- **The first declarers of a name are related.** -/
theorem firstDeclarer?_rel (name : String) :
    Option.Rel ObjectTypeDeclaration.Rearranged (pass.firstDeclarer? lineage name)
      (other.firstDeclarer? changed name) := by
  unfold firstDeclarer?
  induction pairs with
  | nil => exact Option.Rel.none
  | @cons declared counterpart _ _ one _ ih =>
      rw [List.find?_cons, List.find?_cons,
        decide_eq_decide.mpr (mem_memberNames_iff_of_rearranged agrees one)]
      cases decide (name ∈ other.memberNames counterpart.members) with
      | true => exact Option.Rel.some one
      | false => exact ih

theorem mapsMembers_of_rearranged (maps : ∀ declared ∈ lineage, pass.MapsMembers declared) :
    ∀ counterpart ∈ changed, other.MapsMembers counterpart := by
  intro counterpart member
  obtain ⟨declared, inLineage, one⟩ := exists_related_of_mem pairs member
  exact (ownProperties_of_rearranged agrees one (maps declared inLineage)).1

/-- The properties of the first declarers stay the same. -/
theorem exists_firstDeclarer?_iff (maps : ∀ declared ∈ lineage, pass.MapsMembers declared)
    {name : String} {property : Property} :
    (∃ declared, pass.firstDeclarer? lineage name = some declared ∧
        property ∈ pass.ownProperties declared ∧ property.name = name) ↔
      ∃ declared, other.firstDeclarer? changed name = some declared ∧
        property ∈ other.ownProperties declared ∧ property.name = name := by
  have related := firstDeclarer?_rel agrees pairs name
  generalize found : pass.firstDeclarer? lineage name = first at related
  generalize other.firstDeclarer? changed name = second at related
  cases related with
  | none => simp
  | some one =>
      have inLineage := (firstDeclarer?_eq_some found).1
      obtain ⟨-, perm⟩ := ownProperties_of_rearranged agrees one (maps _ inLineage)
      simp [perm.mem_iff]

/-- Lineages of related types clash alike. -/
theorem clashless_of_rearranged
    (same : ∀ name ancestor, pass.catalogue.objectTypeHierarchy.isSubtype name ancestor
      = other.catalogue.objectTypeHierarchy.isSubtype name ancestor)
    (clashless : pass.Clashless [] lineage) : other.Clashless [] changed := by
  intro name holder holds counterpart member named different
  have related := firstDeclarer?_rel agrees pairs name
  obtain ⟨second, found, rfl⟩ := Option.map_eq_some_iff.mp holds
  obtain ⟨declared, inLineage, one⟩ := exists_related_of_mem pairs member
  rw [found] at related
  generalize firstFound : pass.firstDeclarer? lineage name = first at related
  cases related with
  | @some first _ headOne =>
      have holdsFirst : pass.holder? [] lineage name = some first.name := by
        rw [holder?_nil, firstFound]
        rfl
      have below := clashless name first.name holdsFirst declared inLineage
        ((mem_memberNames_iff_of_rearranged agrees one).mpr named)
        (by rw [one.name, headOne.name]; exact different)
      rw [← same, ← headOne.name, ← one.name]
      exact below

end Agreeing

end Pass

/-! ### Rearranged models -/

/-- The same declaration in another arrangement. -/
inductive Declaration.Rearranged : Declaration → Declaration → Prop where
  | objectType {declared changed : ObjectTypeDeclaration} (related : declared.Rearranged changed) :
      Rearranged (.objectType declared) (.objectType changed)
  | datagroupType {declared changed : DatagroupTypeDeclaration}
      (related : declared.Rearranged changed) :
      Rearranged (.datagroupType declared) (.datagroupType changed)
  | datatype {declared changed : Datatype} (related : declared.Rearranged changed) :
      Rearranged (.datatype declared) (.datatype changed)

theorem Declaration.Rearranged.emits {declaration changed : Declaration}
    (related : declaration.Rearranged changed) : declaration.emits = changed.emits := by
  cases related with
  | objectType related =>
      rw [Declaration.emits, Declaration.emits, related.isAbstract]
  | datagroupType related => rfl
  | @datatype declared changed related =>
      have elements := related.dataElements?_rel
      rw [Declaration.emits, Declaration.emits]
      generalize declared.dataElements? = first at elements ⊢
      generalize changed.dataElements? = second at elements ⊢
      cases elements <;> rfl

/-- **Rearranged models have related declarations.** -/
theorem InformationModel.Rearranged.declarations {model other : InformationModel}
    (rearranged : model.Rearranged other) :
    Regrouped Declaration.Rearranged model.declarations other.declarations :=
  .of_perm model.perm_declarations.symm other.perm_declarations
    (((rearranged.objectTypes.map fun _ _ => .objectType).append
      (rearranged.datagroupTypes.map fun _ _ => .datagroupType)).append
        (rearranged.datatypes.map fun _ _ => .datatype))

namespace Mapper

variable {mapper : Mapper} {model other : InformationModel} {aliasName : Option String}
  {result : Model}

section Rearranged

variable (rearranged : model.Rearranged other)
  (distinct : (model.objectTypes.map ObjectTypeDeclaration.name).Nodup)
  (distinctDatatypes : (model.datatypes.map Datatype.name).Nodup)

include rearranged

section Datatypes

include distinctDatatypes

theorem isScalarLike_of_rearranged (name : String) :
    (mapper.passOver model).resolver.isScalarLike name
      = (mapper.passOver other).resolver.isScalarLike name := by
  have related : Option.Rel Datatype.Rearranged
      ((mapper.passOver model).resolver.catalogue.datatype? name)
      ((mapper.passOver other).resolver.catalogue.datatype? name) :=
    rearranged.datatype?_rel distinctDatatypes name
  unfold Resolver.isScalarLike
  generalize (mapper.passOver model).resolver.catalogue.datatype? name = first at related ⊢
  generalize (mapper.passOver other).resolver.catalogue.datatype? name = second at related ⊢
  cases related with
  | none => rfl
  | some one => exact one.isScalarLike

theorem isDeclaredText_of_rearranged (name : String) :
    (mapper.passOver model).resolver.isDeclaredText name
      = (mapper.passOver other).resolver.isDeclaredText name := by
  have related : Option.Rel Datatype.Rearranged
      ((mapper.passOver model).resolver.catalogue.datatype? name)
      ((mapper.passOver other).resolver.catalogue.datatype? name) :=
    rearranged.datatype?_rel distinctDatatypes name
  unfold Resolver.isDeclaredText
  generalize (mapper.passOver model).resolver.catalogue.datatype? name = first at related ⊢
  generalize (mapper.passOver other).resolver.catalogue.datatype? name = second at related ⊢
  cases related with
  | none => rfl
  | @some declared counterpart one =>
      obtain ⟨_, _, form⟩ := declared
      obtain ⟨_, _, otherForm⟩ := counterpart
      cases one.form <;> rfl

end Datatypes

theorem isSome_objectType?_of_rearranged
    (distinct : (model.objectTypes.map ObjectTypeDeclaration.name).Nodup) (name : String) :
    (model.catalogue.objectType? name).isSome = (other.catalogue.objectType? name).isSome := by
  have related := rearranged.objectType?_rel distinct name
  generalize model.catalogue.objectType? name = first at related
  generalize other.catalogue.objectType? name = second at related
  cases related <;> rfl

include distinct distinctDatatypes

/-- **The passes over rearranged models map every element alike.** -/
theorem agrees_of_rearranged (mapper : Mapper) :
    (mapper.passOver model).Agrees (mapper.passOver other) := by
  have alike := rearranged.alike_datatypeHierarchy distinctDatatypes
  exact ⟨rfl, isScalarLike_of_rearranged rearranged distinctDatatypes,
    isDeclaredText_of_rearranged rearranged distinctDatatypes, alike.root, alike.isSubtype,
    isSome_objectType?_of_rearranged rearranged distinct⟩

omit distinctDatatypes in
/-- **Related object types have related lineages**, in the same order. -/
theorem lineage_rel (mapper : Mapper) {declared changed : ObjectTypeDeclaration}
    (related : declared.Rearranged changed) :
    List.Forall₂ ObjectTypeDeclaration.Rearranged ((mapper.passOver model).lineage declared)
      ((mapper.passOver other).lineage changed) := by
  have inheritedNames : model.catalogue.inheritedNames declared mapper.settings.includeInherited
      = other.catalogue.inheritedNames changed mapper.settings.includeInherited := by
    have ancestors : model.catalogue.objectTypeHierarchy.ancestors declared.name
        = other.catalogue.objectTypeHierarchy.ancestors declared.name :=
      (rearranged.alike_objectTypeHierarchy distinct).ancestors declared.name
    unfold Catalogue.inheritedNames
    rw [ancestors, related.name]
  show List.Forall₂ _ (model.catalogue.lineage declared mapper.settings.includeInherited)
    (other.catalogue.lineage changed mapper.settings.includeInherited)
  unfold Catalogue.lineage
  rw [inheritedNames]
  refine List.Forall₂.cons related (List.rel_filterMap ?_ (List.forall₂_same.mpr fun _ _ => rfl))
  rintro name _ rfl
  exact rearranged.objectType?_rel distinct name

/-- An object type is mapped to the same object type. -/
theorem objectType_of_rearranged {declared changed : ObjectTypeDeclaration}
    (related : declared.Rearranged changed) {objectType : ObjectType}
    (mapped : ((mapper.passOver model).objectType declared).outcome = .ok objectType) :
    ((mapper.passOver other).objectType changed).outcome = .ok objectType := by
  have agrees := agrees_of_rearranged rearranged distinct distinctDatatypes mapper
  have pairs := lineage_rel rearranged distinct mapper related
  obtain ⟨⟨maps, clashless⟩, name, supertypes, found⟩ :=
    (Pass.objectType_eq_ok_iff (nodup_map_name_lineage mapper model declared)).mp mapped
  refine (Pass.objectType_eq_ok_iff (nodup_map_name_lineage mapper other changed)).mpr
    ⟨⟨Pass.mapsMembers_of_rearranged agrees pairs maps, ?_⟩, name.trans related.name,
      supertypes.trans related.supertypes, fun other property => ?_⟩
  · exact Pass.clashless_of_rearranged agrees pairs
      (rearranged.alike_objectTypeHierarchy distinct).isSubtype clashless
  · rw [found]
    exact Pass.exists_firstDeclarer?_iff agrees pairs maps

/-- A declaration is mapped to the same object type, or to none. -/
theorem emit_of_rearranged {declaration changed : Declaration}
    (related : declaration.Rearranged changed) {emission : Option ObjectType}
    (mapped : ((mapper.passOver model).emit declaration).outcome = .ok emission) :
    ((mapper.passOver other).emit changed).outcome = .ok emission := by
  have agrees := agrees_of_rearranged rearranged distinct distinctDatatypes mapper
  cases emission with
  | none =>
      rw [Pass.emit_eq_ok_none_iff] at mapped ⊢
      rw [← related.emits]
      exact mapped
  | some objectType =>
      obtain ⟨step, found, succeeds⟩ := Pass.emit_eq_ok_some_iff.mp mapped
      refine Pass.emit_eq_ok_some_iff.mpr ?_
      cases related with
      | objectType one =>
          rw [Pass.emission?] at found
          split at found
          · cases found
          · rename_i isConcrete
            cases found
            refine ⟨_, ?_, objectType_of_rearranged rearranged distinct distinctDatatypes one
              succeeds⟩
            rw [Pass.emission?, if_neg (one.isAbstract ▸ isConcrete)]
      | datagroupType one =>
          cases found
          exact ⟨_, rfl, Pass.datagroupType_of_rearranged agrees one succeeds⟩
      | @datatype declared changed one =>
          rw [Pass.emission?] at found ⊢
          have elements := one.dataElements?_rel
          generalize declared.dataElements? = first at found elements
          generalize changed.dataElements? = second at elements ⊢
          cases elements with
          | none => cases found
          | some perm =>
              cases found
              refine ⟨_, rfl, ?_⟩
              rw [← one.name]
              exact Pass.structured_of_perm agrees perm succeeds

/-- The object types of rearranged models are the same up to order. -/
theorem perm_emitted_of_rearranged
    (maps : ∀ declaration ∈ model.declarations, (mapper.passOver model).Maps declaration) :
    (∀ declaration ∈ other.declarations, (mapper.passOver other).Maps declaration) ∧
      (mapper.emitted model).Perm (mapper.emitted other) := by
  have step : ∀ declaration ∈ model.declarations, ∀ changed, declaration.Rearranged changed →
      ((mapper.passOver other).emit changed).outcome
        = .ok ((mapper.passOver model).emitted? declaration) := by
    intro declaration member changed related
    obtain ⟨emission, mapped⟩ := maps declaration member
    rw [← (Pass.emit_eq_ok_iff.mp mapped).2]
    exact emit_of_rearranged rearranged distinct distinctDatatypes related mapped
  obtain ⟨middle, perm, pairs⟩ := rearranged.declarations
  constructor
  · intro changed member
    obtain ⟨declaration, inMiddle, related⟩ := exists_related_of_mem pairs member
    exact ⟨_, step declaration (perm.mem_iff.mpr inMiddle) changed related⟩
  · have emitted : middle.map (mapper.passOver model).emitted?
        = other.declarations.map (mapper.passOver other).emitted? := by
      rw [← List.forall₂_eq_eq_eq, List.forall₂_map_left_iff, List.forall₂_map_right_iff]
      refine ((List.forall₂_and_left _ _).mpr
        ⟨fun declaration inMiddle => perm.mem_iff.mpr inMiddle, pairs⟩).imp ?_
      rintro declaration changed ⟨member, related⟩
      exact (Pass.emit_eq_ok_iff.mp (step declaration member changed related)).2
    have found : (mapper.emitted model).Perm
        ((middle.map (mapper.passOver model).emitted?).filterMap id) := by
      rw [List.filterMap_map]
      exact perm.filterMap _
    rw [emitted, List.filterMap_map] at found
    exact found

/-- One direction of the theorem below, which is symmetric. -/
theorem map_of_rearranged (mapped : (mapper.map model aliasName).outcome = .ok result) :
    (mapper.map other aliasName).outcome = .ok result := by
  obtain ⟨acyclic, maps, built⟩ := map_eq_ok_iff_build.mp mapped
  obtain ⟨otherMaps, perm⟩ := perm_emitted_of_rearranged rearranged distinct distinctDatatypes maps
  exact map_eq_ok_iff_build.mpr ⟨(rearranged.acyclic_iff distinct distinctDatatypes).mp acyclic,
    otherMaps, Model.Draft.build_eq_ok_of_perm perm built⟩

end Rearranged

/-- **The arrangement of the declarations has no part in the result.** Two models with the same
declarations, up to their order and their packages, are mapped to the same model, or neither is
mapped. -/
theorem map_rearranged_iff (rearranged : model.Rearranged other)
    (distinct : (model.objectTypes.map ObjectTypeDeclaration.name).Nodup)
    (distinctDatatypes : (model.datatypes.map Datatype.name).Nodup) (result : Model) :
    (mapper.map model aliasName).outcome = .ok result ↔
      (mapper.map other aliasName).outcome = .ok result := by
  constructor
  · exact map_of_rearranged rearranged distinct distinctDatatypes
  · exact map_of_rearranged rearranged.symm (rearranged.distinct_objectTypes distinct)
      (rearranged.distinct_datatypes distinctDatatypes)

/-! ### One package or two -/

/-- An attribute of texts. -/
def textAttribute (name : String) : AttributeDeclaration where
  name := name
  datatype := some "CharacterString"

/-- An object type below `A` with these attributes. -/
def belowA (attributes : List AttributeDeclaration) : ObjectTypeDeclaration where
  name := "T"
  supertypes := ["A"]
  members := { attributes }

/-- The object type `A`. -/
def typeA : ObjectTypeDeclaration where
  name := "A"
  members := { attributes := [textAttribute "label"] }

/-- A structured datatype with these elements. -/
def structuredD (elements : List DataElement) : Datatype where
  name := "D"
  form := .structured elements

/-- Two packages, the subtype first. -/
def spread : InformationModel where
  name := "M"
  packages := [
    { name := "P"
      objectTypes := [belowA [textAttribute "code", textAttribute "note"]] },
    { name := "Q"
      objectTypes := [typeA]
      datatypes := [structuredD [{ name := "x", datatype := some "Real" },
        { name := "y", datatype := some "Real" }]] }]

/-- The same declarations in one package, the subtype last. -/
def gathered : InformationModel where
  name := "M"
  packages := [{
    name := "R"
    objectTypes := [typeA, belowA [textAttribute "note", textAttribute "code"]]
    datatypes := [structuredD [{ name := "y", datatype := some "Real" },
      { name := "x", datatype := some "Real" }]] }]

theorem rearranged_spread_gathered : spread.Rearranged gathered where
  objectTypes := by
    refine ⟨_, .swap typeA _ [], .cons ?_ (.cons ?_ .nil)⟩
    · exact ⟨rfl, rfl, rfl, ⟨.refl _, .refl _, .refl _⟩⟩
    · exact ⟨rfl, rfl, rfl, ⟨.swap _ _ [], .refl _, .refl _⟩⟩
  datagroupTypes := ⟨[], .nil, .nil⟩
  datatypes := ⟨_, .refl _, .cons ⟨rfl, rfl, .structured (.swap _ _ [])⟩ .nil⟩

theorem map_rearranged_iff_spread_gathered :
    spread.Rearranged gathered ∧ (spread.objectTypes.map ObjectTypeDeclaration.name).Nodup ∧
      (spread.datatypes.map Datatype.name).Nodup ∧
      ∃ result, (map {} spread none).outcome = .ok result ∧
        (map {} gathered none).outcome = .ok result := by
  have distinct : (spread.objectTypes.map ObjectTypeDeclaration.name).Nodup := by decide
  have distinctDatatypes : (spread.datatypes.map Datatype.name).Nodup := by decide
  obtain ⟨result, mapped⟩ : ∃ result, (map {} spread none).outcome = .ok result := ⟨_, rfl⟩
  exact ⟨rearranged_spread_gathered, distinct, distinctDatatypes, result, mapped,
    (map_rearranged_iff rearranged_spread_gathered distinct distinctDatatypes result).mp mapped⟩

end Mapper

end InfoModel
