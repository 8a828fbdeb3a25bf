/-
**Elements and their members.**

An element is what declares members: an object type, a datagroup type, or a structured datatype,
whose data elements are attributes without a choice.

* `firstRepeat?_eq_some`, `ofDistinct_eq_error_iff`: the check of the members of an element and the
  check of a finished object type find the same repeated name;
* `Pass.mapElement` maps an element by itself. That is how datagroup types and structured datatypes
  are mapped (`outcome_datagroupType`, `outcome_structured`), and it fails just where the members of
  the element do (`mapElement_eq_error_iff`);
* `Pass.sources` lists the elements that a declaration takes its members from. All of them are
  declared in the model (`sources_subset_elements`);
* `Pass.supplier?` is the first source that declares a name. Every property of the object type that
  a declaration becomes is one of its supplier's (`exists_supplier_of_emit`).
-/

import InfoModel.Proofs.Mapping.Inheritance

namespace InfoModel

/-! ### Elements -/

/-- What declares members. -/
structure Element where
  name : String
  members : Members

/-- The members of a structured datatype. -/
def Members.ofElements (elements : List DataElement) : Members where
  attributes := elements.map DataElement.toAttribute

/-- An object type with its own members. -/
def ObjectTypeDeclaration.element (declared : ObjectTypeDeclaration) : Element :=
  ⟨declared.name, declared.members⟩

/-- A datagroup type with its members. -/
def DatagroupTypeDeclaration.element (declared : DatagroupTypeDeclaration) : Element :=
  ⟨declared.name, declared.members⟩

/-- A datatype with its members, which only a structured one has. -/
def Datatype.element (declared : Datatype) : Element :=
  ⟨declared.name, .ofElements (declared.dataElements?.getD [])⟩

/-- The element that is declared. -/
def Declaration.element : Declaration → Element
  | .objectType declared => declared.element
  | .datagroupType declared => declared.element
  | .datatype declared => declared.element

/-- The elements of a model. -/
def InformationModel.elements (model : InformationModel) : List Element :=
  model.declarations.map Declaration.element

theorem Declaration.element_mem_elements {model : InformationModel} {declaration : Declaration}
    (member : declaration ∈ model.declarations) : declaration.element ∈ model.elements :=
  List.mem_map_of_mem member

/-! ### Repeated names -/

/-- A repeated name stands in the list, and stood there or among the names seen before. -/
theorem firstRepeat?_eq_some {seen names : List String} {name : String}
    (found : Pass.firstRepeat? seen names = some name) :
    name ∈ names ∧ (name ∈ seen ∨ 2 ≤ names.count name) := by
  induction names generalizing seen with
  | nil => cases found
  | cons head rest ih =>
      rw [Pass.firstRepeat?] at found
      by_cases known : head ∈ seen
      · rw [if_pos known] at found
        cases found
        exact ⟨List.mem_cons_self, Or.inl known⟩
      · rw [if_neg known] at found
        obtain ⟨member, before⟩ := ih found
        refine ⟨List.mem_cons_of_mem _ member, ?_⟩
        by_cases same : name = head
        · subst same
          have once : 1 ≤ rest.count name := List.one_le_count_iff.mpr member
          rw [List.count_cons_self]
          exact Or.inr (by omega)
        · rw [List.count_cons_of_ne (Ne.symm same)]
          exact before.imp_left fun inSeen => (List.mem_cons.mp inSeen).resolve_left same

theorem two_le_count_of_firstRepeat? {names : List String} {name : String}
    (found : Pass.firstRepeat? [] names = some name) : 2 ≤ names.count name :=
  (firstRepeat?_eq_some found).2.resolve_left List.not_mem_nil

/-- Adding items to a table stops at the first repeated name, counting the names of the table. -/
theorem addDistinct_eq_error_iff {α : Type} {nameOf : α → String} {items : List α}
    {table : NameMap α} {seen : List String} {name : String}
    (same : ∀ other, table.contains other = true ↔ other ∈ seen) :
    NameMap.addDistinct nameOf table items = .error name ↔
      Pass.firstRepeat? seen (items.map nameOf) = some name := by
  induction items generalizing table seen with
  | nil => exact ⟨nofun, nofun⟩
  | cons item rest ih =>
      rw [NameMap.addDistinct, List.map_cons, Pass.firstRepeat?]
      by_cases known : nameOf item ∈ seen
      · rw [if_pos ((same _).mpr known), if_pos known, Except.error.injEq, Option.some.injEq]
      · rw [if_neg fun contained => known ((same _).mp contained), if_neg known]
        refine ih fun other => ?_
        unfold NameMap.contains at same ⊢
        rw [NameMap.get?_insert, List.mem_cons]
        by_cases isItem : other = nameOf item
        · simp [isItem]
        · simp [isItem, same other]

/-- **The two checks for repeated names find the same one.** -/
theorem ofDistinct_eq_error_iff {α : Type} {nameOf : α → String} {items : List α}
    {name : String} : NameMap.ofDistinct nameOf items = .error name ↔
      Pass.firstRepeat? [] (items.map nameOf) = some name :=
  addDistinct_eq_error_iff fun _ => by simp [NameMap.contains]

/-- The fault of a draft of an object type is its first repeated property. -/
theorem ObjectType.Draft.build_eq_error_iff {draft : ObjectType.Draft} {fault : MappingFault} :
    draft.build = .error fault ↔ ∃ name,
      Pass.firstRepeat? [] (draft.properties.map Property.name) = some name ∧
        fault = .duplicateProperty draft.name name := by
  simp only [← ofDistinct_eq_error_iff]
  unfold build
  cases NameMap.ofDistinct Property.name draft.properties <;> simp [eq_comm]

/-- The fault of a draft of a model is its first repeated object type. -/
theorem Model.Draft.build_eq_error_iff {draft : Model.Draft} {fault : MappingFault} :
    draft.build = .error fault ↔ ∃ name,
      Pass.firstRepeat? [] (draft.objectTypes.map ObjectType.name) = some name ∧
        fault = .duplicateObjectType name := by
  simp only [← ofDistinct_eq_error_iff]
  unfold build
  cases NameMap.ofDistinct ObjectType.name draft.objectTypes <;> simp [eq_comm]

namespace Pass

variable {pass : Pass}

/-! ### One element by itself -/

/-- Maps an element by itself. -/
def mapElement (pass : Pass) (element : Element) : Recorded ObjectType := do
  let properties ← pass.members element.name element.members
  Recorded.ofExcept (ObjectType.Draft.build ⟨element.name, [], properties⟩)

theorem outcome_datagroupType (declared : DatagroupTypeDeclaration) :
    (pass.datagroupType declared).outcome = (pass.mapElement declared.element).outcome := by
  unfold datagroupType mapElement
  simp only [Recorded.outcome_bind, Recorded.outcome_report]
  rfl

/-- The members of a structured datatype are its data elements, which must not repeat a name. -/
theorem outcome_members_ofElements (owner : String) (elements : List DataElement) :
    (pass.members owner (.ofElements elements)).outcome =
      (elements.mapM fun element => pass.member owner element.toAttribute).outcome >>=
        fun properties =>
          match firstRepeat? [] (properties.map Property.name) with
          | some name => .error (.duplicateProperty owner name)
          | none => .ok properties := by
  have attributes : (Members.ofElements elements).attributes.mapM (pass.member owner)
      = elements.mapM fun element => pass.member owner element.toAttribute := by
    unfold Members.ofElements
    rw [List.mapM_map]
    rfl
  unfold members
  rw [attributes, Recorded.outcome_bind]
  refine congrArg (_ >>= ·) (funext fun properties => ?_)
  simp only [Members.ofElements, List.mapM_nil, pure_bind, List.filterMap_nil, List.map_nil,
    List.append_nil]
  cases firstRepeat? [] (properties.map Property.name) <;> rfl

/-- **A structured datatype is mapped as an element.** It leaves the check of the names to the
finished object type, which reports the same name. -/
theorem outcome_structured (name : String) (elements : List DataElement) :
    (pass.structured name elements).outcome
      = (pass.mapElement ⟨name, .ofElements elements⟩).outcome := by
  unfold structured mapElement
  simp only [Recorded.outcome_bind, Recorded.outcome_report, Recorded.outcome_ofExcept,
    outcome_members_ofElements]
  cases (elements.mapM fun element => pass.member name element.toAttribute).outcome with
  | error fault => rfl
  | ok properties =>
      show ObjectType.Draft.build ⟨name, [], properties⟩ =
        (match firstRepeat? [] (properties.map Property.name) with
          | some repeated => .error (.duplicateProperty name repeated)
          | none => .ok properties) >>= fun properties =>
            ObjectType.Draft.build ⟨name, [], properties⟩
      cases repeats : firstRepeat? [] (properties.map Property.name) with
      | none => rfl
      | some repeated => exact ObjectType.Draft.build_eq_error_iff.mpr ⟨repeated, repeats, rfl⟩

theorem nodup_map_name_of_members {owner : String} {members : Members}
    {properties : List Property} (mapped : (pass.members owner members).outcome = .ok properties) :
    (properties.map Property.name).Nodup := by
  rw [map_name_of_members mapped]
  exact (members_eq_ok_iff.mp mapped).1

/-- **An element mapped by itself** has the properties that its members become. -/
theorem mapElement_eq_ok_iff {element : Element} {result : ObjectType} :
    (pass.mapElement element).outcome = .ok result ↔ ∃ properties,
      (pass.members element.name element.members).outcome = .ok properties ∧
        result.name = element.name ∧ result.supertypes = [] ∧
        ∀ name property, result.property? name = some property ↔
          property ∈ properties ∧ property.name = name := by
  unfold mapElement
  rw [Recorded.outcome_bind_eq_ok_iff]
  refine exists_congr fun properties => and_congr_right fun mapped => ?_
  rw [Recorded.outcome_ofExcept, ObjectType.Draft.build_eq_ok_iff]
  exact and_iff_right (nodup_map_name_of_members mapped)

/-- **An element fails just where its members do.** -/
theorem mapElement_eq_error_iff {element : Element} {fault : MappingFault} :
    (pass.mapElement element).outcome = .error fault ↔
      (pass.members element.name element.members).outcome = .error fault := by
  unfold mapElement
  rw [Recorded.outcome_bind_eq_error_iff]
  refine or_iff_left ?_
  rintro ⟨properties, mapped, failed⟩
  obtain ⟨name, repeats, -⟩ := ObjectType.Draft.build_eq_error_iff.mp failed
  have distinct := nodup_map_name_of_members mapped
  rw [firstRepeat?_eq_none_iff.mpr ⟨distinct, fun _ _ => List.not_mem_nil⟩] at repeats
  cases repeats

theorem exists_mapElement_eq_ok_iff {element : Element} :
    (∃ result, (pass.mapElement element).outcome = .ok result) ↔
      ∃ properties, (pass.members element.name element.members).outcome = .ok properties := by
  constructor
  · rintro ⟨result, mapped⟩
    obtain ⟨properties, mappedMembers, -⟩ := mapElement_eq_ok_iff.mp mapped
    exact ⟨properties, mappedMembers⟩
  · rintro ⟨properties, mappedMembers⟩
    cases outcome : (pass.mapElement element).outcome with
    | ok result => exact ⟨result, rfl⟩
    | error fault =>
        rw [mapElement_eq_error_iff.mp outcome] at mappedMembers
        cases mappedMembers

/-! ### Sources -/

/-- The elements that a declaration takes its members from. -/
def sources (pass : Pass) : Declaration → List Element
  | .objectType declared => (pass.lineage declared).map ObjectTypeDeclaration.element
  | .datagroupType declared => [declared.element]
  | .datatype declared => [declared.element]

/-- The source that a declaration takes the member of a name from: the first that declares one. -/
def supplier? (pass : Pass) (declaration : Declaration) (name : String) : Option Element :=
  (pass.sources declaration).find? fun element => name ∈ pass.memberNames element.members

theorem supplier?_objectType {declared declarer : ObjectTypeDeclaration} {name : String}
    (first : pass.firstDeclarer? (pass.lineage declared) name = some declarer) :
    pass.supplier? (.objectType declared) name = some declarer.element := by
  unfold supplier? sources
  rw [List.find?_map]
  exact congrArg (Option.map ObjectTypeDeclaration.element) first

/-- The mapping of a declaration that is mapped by itself. -/
theorem outcome_emission? {declaration : Declaration} {step : Recorded ObjectType}
    (found : pass.emission? declaration = some step) :
    (∃ declared, declaration = .objectType declared ∧ declared.isAbstract = false ∧
      step = pass.objectType declared) ∨
    (pass.sources declaration = [declaration.element] ∧
      step.outcome = (pass.mapElement declaration.element).outcome) := by
  cases declaration with
  | objectType declared =>
      rw [emission?] at found
      split at found
      · cases found
      · rename_i isConcrete
        cases found
        exact Or.inl ⟨declared, rfl, by simpa using isConcrete, rfl⟩
  | datagroupType declared =>
      cases found
      exact Or.inr ⟨rfl, outcome_datagroupType declared⟩
  | datatype declared =>
      obtain ⟨elements, structured, rfl⟩ := Option.map_eq_some_iff.mp found
      refine Or.inr ⟨rfl, ?_⟩
      rw [outcome_structured, Declaration.element, Datatype.element, structured]
      rfl

end Pass

namespace Mapper

variable {mapper : Mapper} {model : InformationModel}

/-- The types of the lineage of an object type are declared in the model. -/
theorem mem_objectTypes_of_mem_lineage {declared declarer : ObjectTypeDeclaration}
    (member : declared ∈ model.objectTypes)
    (inLineage : declarer ∈ (mapper.passOver model).lineage declared) :
    declarer ∈ model.objectTypes := by
  rcases List.mem_cons.mp inLineage with rfl | above
  · exact member
  · obtain ⟨name, -, found⟩ := List.mem_filterMap.mp above
    exact mem_of_mem_firstsFrom (InformationModel.objectType?_eq_some_iff.mp found).1

/-- **The sources of a declaration are elements of the model.** -/
theorem sources_subset_elements {declaration : Declaration}
    (member : declaration ∈ model.declarations) {element : Element}
    (source : element ∈ (mapper.passOver model).sources declaration) :
    element ∈ model.elements := by
  cases declaration with
  | objectType declared =>
      obtain ⟨declarer, inLineage, rfl⟩ := List.mem_map.mp source
      have declared := mem_objectTypes_of_mem_lineage
        (InformationModel.objectType_mem_declarations.mp member) inLineage
      exact Declaration.element_mem_elements
        (InformationModel.objectType_mem_declarations.mpr declared)
  | datagroupType declared =>
      rw [List.mem_singleton.mp source]
      exact Declaration.element_mem_elements member
  | datatype declared =>
      rw [List.mem_singleton.mp source]
      exact Declaration.element_mem_elements member

/-- **Every property of an emitted object type comes from the supplier of its name.** -/
theorem exists_supplier_of_emit {declaration : Declaration} {objectType : ObjectType}
    (emitted : ((mapper.passOver model).emit declaration).outcome = .ok (some objectType))
    {name : String} {property : Property} (carried : objectType.property? name = some property) :
    property.name = name ∧ ∃ element properties,
      (mapper.passOver model).supplier? declaration name = some element ∧
        ((mapper.passOver model).members element.name element.members).outcome = .ok properties ∧
        property ∈ properties := by
  obtain ⟨step, found, mapped⟩ := Pass.emit_eq_ok_some_iff.mp emitted
  rcases Pass.outcome_emission? found with ⟨declared, rfl, -, rfl⟩ | ⟨sources, same⟩
  · obtain ⟨⟨maps, -⟩, -, -, properties⟩ :=
      (Pass.objectType_eq_ok_iff (nodup_map_name_lineage mapper model declared)).mp mapped
    obtain ⟨declarer, first, own, named⟩ := (properties name property).mp carried
    have inLineage := (Pass.firstDeclarer?_eq_some first).1
    exact ⟨named, declarer.element, _, Pass.supplier?_objectType first,
      Pass.members_eq_ok_iff_ownProperties.mpr ⟨maps declarer inLineage, rfl⟩, own⟩
  · rw [same] at mapped
    obtain ⟨properties, mappedMembers, -, -, carries⟩ := Pass.mapElement_eq_ok_iff.mp mapped
    obtain ⟨member, named⟩ := (carries name property).mp carried
    have declares : name ∈ (mapper.passOver model).memberNames declaration.element.members := by
      rw [← Pass.map_name_of_members mappedMembers, ← named]
      exact List.mem_map_of_mem member
    refine ⟨named, declaration.element, properties, ?_, mappedMembers, member⟩
    rw [Pass.supplier?, sources]
    exact List.find?_cons_of_pos (by simpa using declares)

end Mapper

end InfoModel
