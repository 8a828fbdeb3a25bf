/-
**What goes wrong where a mapping fails.**

A mapping stops at its first fault. Each step has a few ways to fail, and the fault says which.

* `Pass.MemberFault`, `Pass.ElementFault` and `Pass.DeclarationFault` list what can be wrong with a
  member, with the members of an element, and with a declaration. A step that fails has such a fault
  (`memberFault_of_member`, `elementFault_of_members`, `declarationFault_of_emit`);
* `flatten_eq_error`: along a lineage everything kept stems from a type passed, so a name that stops
  the walk is declared by the type that is reached and by one listed before it (`Pass.Clash`);
* `Mapper.map_eq_error`: a mapping fails with a cycle of a hierarchy, with the fault of a
  declaration, or with a name that two emitted object types share.
-/

import InfoModel.Proofs.Mapping.Elements

namespace InfoModel

/-- The attribute names the datatype: as the type of its values, or as the first one of a choice. -/
def AttributeDeclaration.Names (declared : AttributeDeclaration) (datatype : String) : Prop :=
  declared.datatype = some datatype ∨ ∃ others, declared.choice = some (datatype :: others)

/-! ### Types of members -/

namespace Resolver

variable {resolver : Resolver}

/-- A datatype that is not resolved has a base without scalar kind, and the settings say to stop. -/
theorem valueTypeName_eq_error {datatype : String} {fault : MappingFault}
    (failed : (resolver.valueTypeName datatype).outcome = .error fault) :
    fault = .unresolvableType datatype (resolver.base datatype) ∧
      resolver.settings.unmappedTypes = .fail ∧
      resolver.settings.scalarKind? (resolver.base datatype) = none := by
  rw [outcome_valueTypeName] at failed
  split at failed
  · cases failed
  · split at failed
    · cases failed
    · obtain ⟨unmapped, policy, rfl⟩ := Settings.baseOutcome_eq_error_iff.mp failed
      exact ⟨rfl, policy, unmapped⟩

/-- A datatype that is resolved has the name of a scalar kind, or its base is passed through. -/
theorem valueTypeName_eq_ok {datatype name : String}
    (resolved : (resolver.valueTypeName datatype).outcome = .ok name) :
    (∃ kind : ScalarKind, kind.name = name) ∨
      resolver.settings.unmappedTypes = .passThrough ∧
        resolver.settings.scalarKind? name = none ∧ name = resolver.base datatype := by
  rw [outcome_valueTypeName] at resolved
  split at resolved
  · exact Or.inl ⟨.string, Except.ok.inj resolved⟩
  · split at resolved
    · exact Or.inl ⟨.geometry, Except.ok.inj resolved⟩
    · rcases Settings.baseOutcome_eq_ok_iff.mp resolved with
        ⟨kind, -, named⟩ | ⟨unmapped, policy, rfl⟩
      · exact Or.inl ⟨kind, named⟩
      · exact Or.inr ⟨policy, unmapped, rfl⟩

/-- Items with different values are not all equal. -/
theorem exists_ne_of_allEqual_eq_false {α : Type} {items : List α} {value : α → String}
    (different : allEqual (items.map value) = false) :
    ∃ first ∈ items, ∃ second ∈ items, value first ≠ value second := by
  cases items with
  | nil => cases different
  | cons first rest =>
      have some : ∃ second ∈ rest, value second ≠ value first := by
        simpa [allEqual] using different
      obtain ⟨second, member, ne⟩ := some
      exact ⟨first, List.mem_cons_self, second, List.mem_cons_of_mem _ member, ne.symm⟩

/-- A choice that is not resolved offers datatypes of different bases, not all of them geometries;
or its first datatype is not resolved. -/
theorem choice_eq_error {member : String} {alternatives : List String} {fault : MappingFault}
    (failed : (resolver.choice member alternatives).outcome = .error fault) :
    (∃ first others, alternatives = first :: others ∧
      (resolver.valueTypeName first).outcome = .error fault) ∨
    fault = .unsupportedChoice member alternatives ∧
      (∃ alternative ∈ alternatives, resolver.settings.isGeometryName alternative = false) ∧
      ∃ first ∈ alternatives, ∃ second ∈ alternatives,
        resolver.base first ≠ resolver.base second := by
  unfold choice at failed
  split at failed
  · cases failed
  · rename_i notGeometries
    have other : ∃ alternative ∈ alternatives,
        resolver.settings.isGeometryName alternative = false := by
      simpa using notGeometries
    cases alternatives with
    | nil => obtain ⟨_, ⟨⟩, -⟩ := other
    | cons first others =>
        by_cases equal : allEqual ((first :: others).map resolver.base) = true
        · exact Or.inl ⟨first, others, rfl, by simpa only [if_pos equal] using failed⟩
        · simp only [if_neg equal] at failed
          cases failed
          exact Or.inr ⟨rfl, other, exists_ne_of_allEqual_eq_false (by simpa using equal)⟩

/-- A choice that is resolved is a geometry, or has the value type of its first datatype. -/
theorem choice_eq_ok {member name : String} {alternatives : List String}
    (resolved : (resolver.choice member alternatives).outcome = .ok name) :
    name = ScalarKind.geometry.name ∨ ∃ first others, alternatives = first :: others ∧
      (resolver.valueTypeName first).outcome = .ok name := by
  unfold choice at resolved
  split at resolved
  · exact Or.inl (Except.ok.inj resolved).symm
  · cases alternatives with
    | nil => cases resolved
    | cons first others =>
        dsimp only at resolved
        split at resolved
        · exact Or.inr ⟨first, others, rfl, resolved⟩
        · cases resolved

/-- **The three ways to resolve a scalar member**: by its choice if that offers something, by its
datatype, or not at all. -/
theorem scalarName_cases (resolver : Resolver) (owner : String)
    (declared : AttributeDeclaration) :
    (∃ first others, declared.choice = some (first :: others) ∧
      resolver.scalarName owner declared = resolver.choice declared.name (first :: others)) ∨
    (∃ datatype, declared.datatype = some datatype ∧
      resolver.scalarName owner declared = resolver.valueTypeName datatype) ∨
    (declared.datatype = none ∧ (declared.choice = none ∨ declared.choice = some []) ∧
      resolver.scalarName owner declared = .fail (.malformedMember owner declared.name)) := by
  unfold scalarName
  rcases choice : declared.choice with _ | _ | ⟨first, others⟩
  · cases typed : declared.datatype <;> simp
  · cases typed : declared.datatype <;> simp
  · exact Or.inl ⟨first, others, rfl, rfl⟩

/-- A member that is resolved to a scalar has the name of a scalar kind, or the base of a datatype
that it names is passed through. -/
theorem member_eq_ok_scalar {owner name : String} {declared : AttributeDeclaration}
    (resolved : (resolver.member owner declared).outcome = .ok (.scalar name)) :
    (∃ kind : ScalarKind, kind.name = name) ∨ ∃ datatype, declared.Names datatype ∧
      (resolver.valueTypeName datatype).outcome = .ok name := by
  unfold member at resolved
  split at resolved
  · cases resolved
  · obtain ⟨scalar, found, made⟩ := Recorded.outcome_bind_eq_ok_iff.mp resolved
    obtain ⟨rfl⟩ := ResolvedType.scalar.inj (Recorded.outcome_pure_eq_ok_iff.mp made)
    rcases resolver.scalarName_cases owner declared with ⟨first, others, choice, same⟩ |
        ⟨datatype, typed, same⟩ | ⟨-, -, same⟩ <;> rw [same] at found
    · rcases choice_eq_ok found with geometry | ⟨_, _, ⟨rfl, rfl⟩, named⟩
      · exact Or.inl ⟨.geometry, geometry.symm⟩
      · exact Or.inr ⟨first, Or.inr ⟨others, choice⟩, named⟩
    · exact Or.inr ⟨datatype, Or.inl typed, found⟩
    · cases found

end Resolver

namespace Pass

variable {pass : Pass} {fault : MappingFault}

/-! ### Members -/

/-- **What can be wrong with a member** of the element of a name. -/
inductive MemberFault (pass : Pass) (owner : String) (declared : AttributeDeclaration) :
    MappingFault → Prop where
  /-- It declares neither a datatype nor a choice that offers something. -/
  | malformed (untyped : declared.datatype = none)
      (unchosen : declared.choice = none ∨ declared.choice = some []) :
      MemberFault pass owner declared (.malformedMember owner declared.name)
  /-- Its choice offers datatypes of different bases, not all of them geometries. -/
  | unsupported {alternatives : List String} (offers : declared.choice = some alternatives)
      (notGeometries : ∃ alternative ∈ alternatives,
        pass.mapper.settings.isGeometryName alternative = false)
      (different : ∃ first ∈ alternatives, ∃ second ∈ alternatives,
        pass.resolver.base first ≠ pass.resolver.base second) :
      MemberFault pass owner declared (.unsupportedChoice declared.name alternatives)
  /-- The base of a datatype that it names has no scalar kind, and the settings say to stop. -/
  | unresolvable {datatype : String} (names : declared.Names datatype)
      (policy : pass.mapper.settings.unmappedTypes = .fail)
      (unmapped : pass.mapper.settings.scalarKind? (pass.resolver.base datatype) = none) :
      MemberFault pass owner declared
        (.unresolvableType datatype (pass.resolver.base datatype))
  /-- The registry refuses its value type. -/
  | refused {name : String} {fault : MappingFault}
      (resolved : (pass.resolver.member owner declared).outcome = .ok (.scalar name))
      (refuses : pass.valueType name = .error fault) :
      MemberFault pass owner declared fault

/-- A datatype that is not resolved is a fault of every attribute that names it. -/
theorem memberFault_of_valueTypeName {owner datatype : String} {declared : AttributeDeclaration}
    (names : declared.Names datatype)
    (failed : (pass.resolver.valueTypeName datatype).outcome = .error fault) :
    pass.MemberFault owner declared fault := by
  obtain ⟨rfl, policy, unmapped⟩ := Resolver.valueTypeName_eq_error failed
  exact .unresolvable names policy unmapped

/-- **A member that is not mapped has a fault.** -/
theorem memberFault_of_member {owner : String} {declared : AttributeDeclaration}
    (failed : (pass.member owner declared).outcome = .error fault) :
    pass.MemberFault owner declared fault := by
  unfold Pass.member at failed
  rcases Recorded.outcome_bind_eq_error_iff.mp failed with unresolved | ⟨resolved, found, rest⟩
  · unfold Resolver.member at unresolved
    split at unresolved
    · cases unresolved
    · rcases Recorded.outcome_bind_eq_error_iff.mp unresolved with unnamed | ⟨_, -, ⟨⟩⟩
      rcases pass.resolver.scalarName_cases owner declared with ⟨first, others, choice, same⟩ |
          ⟨datatype, typed, same⟩ | ⟨untyped, unchosen, same⟩ <;> rw [same] at unnamed
      · rcases Resolver.choice_eq_error unnamed with ⟨_, _, ⟨rfl, rfl⟩, failed⟩ |
            ⟨rfl, notGeometries, different⟩
        · exact memberFault_of_valueTypeName (Or.inr ⟨others, choice⟩) failed
        · exact .unsupported choice notGeometries different
      · exact memberFault_of_valueTypeName (Or.inl typed) unnamed
      · cases unnamed
        exact .malformed untyped unchosen
  · cases resolved with
    | scalar name =>
        rcases Recorded.outcome_bind_eq_error_iff.mp rest with refuses | ⟨_, -, ⟨⟩⟩
        exact .refused found refuses
    | relation target => cases rest

/-! ### Elements -/

/-- **What can be wrong with the members of an element.** -/
inductive ElementFault (pass : Pass) (element : Element) : MappingFault → Prop where
  /-- One of its attributes has a fault. -/
  | member {declared : AttributeDeclaration} {fault : MappingFault}
      (listed : declared ∈ element.members.attributes)
      (faulty : pass.MemberFault element.name declared fault) : ElementFault pass element fault
  /-- Two of its members have one name. -/
  | repeated {name : String} (twice : 2 ≤ (pass.memberNames element.members).count name) :
      ElementFault pass element (.duplicateProperty element.name name)

/-- **An element that is not mapped has a fault.** -/
theorem elementFault_of_members {element : Element}
    (failed : (pass.members element.name element.members).outcome = .error fault) :
    pass.ElementFault element fault := by
  rcases members_eq_error failed with ⟨declared, listed, unmapped⟩ | ⟨name, repeats, rfl⟩
  · exact .member listed (memberFault_of_member unmapped)
  · exact .repeated (two_le_count_of_firstRepeat? repeats)

/-! ### Lineages -/

/-- **Two types of a lineage clash** over a name: both declare it, and the one listed first does not
derive from the other. -/
structure Clash (pass : Pass) (lineage : List ObjectTypeDeclaration) (name : String)
    (first second : ObjectTypeDeclaration) : Prop where
  order : [first, second].Sublist lineage
  firstNamed : name ∈ pass.memberNames first.members
  secondNamed : name ∈ pass.memberNames second.members
  unrelated : pass.catalogue.objectTypeHierarchy.isSubtype first.name second.name = false

/-- A type that is not taken over declares a name that is kept by a type that does not derive from
it. -/
theorem inherit_eq_error {objectType declarer : String} {kept : List Declared}
    {properties : List Property} (distinct : (properties.map Property.name).Nodup)
    (failed : (pass.inherit objectType declarer kept properties).outcome = .error fault) :
    ∃ property ∈ properties, ∃ keeper, keeper? kept property.name = some keeper ∧
      pass.catalogue.objectTypeHierarchy.isSubtype keeper declarer = false ∧
      fault = .duplicateProperty objectType property.name := by
  induction properties generalizing kept with
  | nil => cases failed
  | cons property rest ih =>
      rw [List.map_cons, List.nodup_cons] at distinct
      rw [inherit] at failed
      cases found : keeper? kept property.name with
      | none =>
          rw [found] at failed
          obtain ⟨later, member, keeper, keeps, further⟩ := ih distinct.2 failed
          have different : property.name ≠ later.name := fun same =>
            distinct.1 (same ▸ List.mem_map_of_mem member)
          rw [keeper?_append_singleton_of_ne kept different] at keeps
          exact ⟨later, List.mem_cons_of_mem _ member, keeper, keeps, further⟩
      | some keeper =>
          simp only [found] at failed
          by_cases below : pass.catalogue.objectTypeHierarchy.isSubtype keeper declarer = true
          · rw [if_pos below] at failed
            rcases Recorded.outcome_bind_eq_error_iff.mp failed with ⟨⟨⟩⟩ | ⟨_, -, later⟩
            obtain ⟨other, member, further⟩ := ih distinct.2 later
            exact ⟨other, List.mem_cons_of_mem _ member, further⟩
          · rw [if_neg below] at failed
            cases failed
            exact ⟨property, List.mem_cons_self, keeper, found, by simpa using below, rfl⟩

/-- The properties kept stem from types that declare their names. -/
def Stems (pass : Pass) (passed : List ObjectTypeDeclaration) (kept : List Declared) : Prop :=
  ∀ entry ∈ kept, ∃ declarer ∈ passed, declarer.name = entry.declarer ∧
    entry.property.name ∈ pass.memberNames declarer.members

/-- One type more, and everything kept still stems from the types passed. -/
theorem Stems.step {passed : List ObjectTypeDeclaration} {kept : List Declared}
    (stems : pass.Stems passed kept) {declared : ObjectTypeDeclaration}
    {properties : List Property}
    (mapped : (pass.members declared.name declared.members).outcome = .ok properties) :
    pass.Stems (passed ++ [declared]) (kept ++ fresh kept declared.name properties) := by
  intro entry member
  rcases List.mem_append.mp member with before | now
  · obtain ⟨declarer, known, stem⟩ := stems entry before
    exact ⟨declarer, List.mem_append_left _ known, stem⟩
  · obtain ⟨property, own, rfl⟩ := List.mem_map.mp now
    refine ⟨declared, List.mem_append_right _ (List.mem_singleton_self _), rfl, ?_⟩
    rw [← map_name_of_members mapped]
    exact List.mem_map_of_mem (List.mem_of_mem_filter own)

/-- **A lineage that is not taken over** has a type whose members are not mapped, or two types that
clash. The invariant of the walk is that everything kept stems from a type passed. -/
theorem flatten_eq_error {objectType : String} {passed rest : List ObjectTypeDeclaration}
    {kept : List Declared} (stems : pass.Stems passed kept)
    (failed : (pass.flatten objectType kept rest).outcome = .error fault) :
    (∃ declarer ∈ rest, (pass.members declarer.name declarer.members).outcome = .error fault) ∨
      ∃ name first second, fault = .duplicateProperty objectType name ∧
        pass.Clash (passed ++ rest) name first second := by
  induction rest generalizing passed kept with
  | nil => cases failed
  | cons declared rest ih =>
      rw [flatten] at failed
      rcases Recorded.outcome_bind_eq_error_iff.mp failed with
        unmapped | ⟨properties, mapped, later⟩
      · exact Or.inl ⟨declared, List.mem_cons_self, unmapped⟩
      · have distinct := nodup_map_name_of_members mapped
        rcases Recorded.outcome_bind_eq_error_iff.mp later with clashes | ⟨next, inherited, later⟩
        · obtain ⟨property, own, keeper, keeps, unrelated, rfl⟩ := inherit_eq_error distinct clashes
          obtain ⟨entry, inKept, rfl, named⟩ := mem_of_keeper?_eq_some keeps
          obtain ⟨declarer, known, same, declares⟩ := stems entry inKept
          refine Or.inr ⟨property.name, declarer, declared, rfl, ?_, named ▸ declares, ?_, ?_⟩
          · exact (List.singleton_sublist.mpr known).append
              (List.singleton_sublist.mpr List.mem_cons_self)
          · rw [← map_name_of_members mapped]
            exact List.mem_map_of_mem own
          · rw [same]
            exact unrelated
        · obtain ⟨-, rfl⟩ := (inherit_eq_ok_iff distinct).mp inherited
          rcases ih (stems.step mapped) later with ⟨declarer, member, fails⟩ | clash
          · exact Or.inl ⟨declarer, List.mem_cons_of_mem _ member, fails⟩
          · rw [List.append_assoc] at clash
            exact Or.inr clash

/-- An object type that is not mapped has a type in its lineage whose members are not, or two types
that clash. -/
theorem objectType_eq_error {declared : ObjectTypeDeclaration}
    (nodup : ((pass.lineage declared).map ObjectTypeDeclaration.name).Nodup)
    (failed : (pass.objectType declared).outcome = .error fault) :
    (∃ declarer ∈ pass.lineage declared,
      (pass.members declarer.name declarer.members).outcome = .error fault) ∨
      ∃ name first second, fault = .duplicateProperty declared.name name ∧
        pass.Clash (pass.lineage declared) name first second := by
  rw [outcome_objectType] at failed
  cases flattened : (pass.flatten declared.name [] (pass.lineage declared)).outcome with
  | error other =>
      rw [flattened] at failed
      cases failed
      have stems : pass.Stems [] [] := by simp [Stems]
      exact flatten_eq_error stems flattened
  | ok kept =>
      -- what is kept has distinct names, so the finished object type repeats none
      obtain ⟨⟨maps, -⟩, rfl⟩ := (flatten_lineage_eq_ok_iff nodup).mp flattened
      rw [flattened] at failed
      obtain ⟨name, repeats, -⟩ := ObjectType.Draft.build_eq_error_iff.mp failed
      rw [firstRepeat?_eq_none_iff.mpr
        ⟨nodup_map_name_taken nodup maps, fun _ _ => List.not_mem_nil⟩] at repeats
      cases repeats

/-! ### Declarations -/

/-- **What can be wrong with a declaration.** -/
inductive DeclarationFault (pass : Pass) (declaration : Declaration) : MappingFault → Prop where
  /-- One of the elements that it takes its members from has a fault. -/
  | source {element : Element} {fault : MappingFault} (listed : element ∈ pass.sources declaration)
      (faulty : pass.ElementFault element fault) : DeclarationFault pass declaration fault
  /-- It is a concrete object type, and two types of its lineage clash. -/
  | clash {declared : ObjectTypeDeclaration} {name : String} {first second : ObjectTypeDeclaration}
      (isType : declaration = .objectType declared) (isConcrete : declared.isAbstract = false)
      (clash : pass.Clash (pass.lineage declared) name first second) :
      DeclarationFault pass declaration (.duplicateProperty declared.name name)

end Pass

namespace Mapper

variable {mapper : Mapper} {model : InformationModel} {aliasName : Option String}
  {fault : MappingFault}

/-- **A declaration that is not mapped has a fault.** -/
theorem declarationFault_of_emit {declaration : Declaration}
    (failed : ((mapper.passOver model).emit declaration).outcome = .error fault) :
    (mapper.passOver model).DeclarationFault declaration fault := by
  obtain ⟨step, found, failed⟩ := Pass.emit_eq_error_iff.mp failed
  rcases Pass.outcome_emission? found with ⟨declared, rfl, isConcrete, rfl⟩ |
      ⟨sources, same⟩
  · rcases Pass.objectType_eq_error (nodup_map_name_lineage mapper model declared) failed with
      ⟨declarer, member, unmapped⟩ | ⟨name, first, second, rfl, clash⟩
    · have faulty : (mapper.passOver model).ElementFault declarer.element fault :=
        Pass.elementFault_of_members unmapped
      exact .source (List.mem_map_of_mem member) faulty
    · exact .clash rfl isConcrete clash
  · rw [same, Pass.mapElement_eq_error_iff] at failed
    exact .source (by rw [sources]; exact List.mem_singleton_self _)
      (Pass.elementFault_of_members failed)

/-! ### Models -/

/-- **A mapping fails in one of three ways**: a hierarchy has a cycle, and the fault names a type on
it; a declaration has the fault; or all declarations are mapped, and the fault names two of the
object types that they become. -/
theorem map_eq_error (failed : (mapper.map model aliasName).outcome = .error fault) :
    (∃ typeName, fault = .supertypeCycle typeName ∧
      (model.datatypeHierarchy.Derives typeName typeName ∨
        model.objectTypeHierarchy.Derives typeName typeName)) ∨
    (model.Acyclic ∧ ∃ declaration ∈ model.declarations,
      ((mapper.passOver model).emit declaration).outcome = .error fault) ∨
    (model.Acyclic ∧
      (∀ declaration ∈ model.declarations, (mapper.passOver model).Maps declaration) ∧
      ∃ name, fault = .duplicateObjectType name ∧ 2 ≤ model.emittedNames.count name) := by
  unfold Mapper.map at failed
  rcases Recorded.outcome_bind_eq_error_iff.mp failed with cyclic | ⟨_, built, later⟩
  · exact Or.inl (Catalogue.build_eq_error cyclic)
  obtain ⟨acyclic, rfl⟩ := Catalogue.build_eq_ok_iff.mp built
  rcases Recorded.outcome_bind_eq_error_iff.mp later with unmapped | ⟨packages, mapped, later⟩
  · obtain ⟨package, inModel, unmapped⟩ := Recorded.exists_of_outcome_mapM_eq_error unmapped
    obtain ⟨declaration, member, fails⟩ := Pass.exists_of_package_eq_error unmapped
    exact Or.inr (Or.inl ⟨acyclic, declaration,
      List.mem_flatMap.mpr ⟨package, inModel, member⟩, fails⟩)
  rcases Recorded.outcome_bind_eq_error_iff.mp later with repeats | ⟨_, -, reported⟩
  · obtain ⟨maps, rfl⟩ := packages_eq_ok_iff.mp mapped
    obtain ⟨name, found, rfl⟩ := Model.Draft.build_eq_error_iff.mp repeats
    refine Or.inr (Or.inr ⟨acyclic, maps, name, rfl, ?_⟩)
    have twice := two_le_count_of_firstRepeat? found
    rw [flatten_emitted, emitted, Pass.map_name_emitted maps] at twice
    rwa [model.perm_emittedNames.count_eq] at twice
  · rcases Recorded.outcome_bind_eq_error_iff.mp reported with ⟨⟨⟩⟩ | ⟨_, -, ⟨⟩⟩

end Mapper

end InfoModel
