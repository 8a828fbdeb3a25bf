/-
**What a mapping emits.**

Every declaration of a model is mapped on its own: to a flat object type, or to nothing when it is
an abstract object type or a datatype that is not structured.

* `Pass.emit` maps a single declaration. `Declaration.emits` says that it becomes an object type
  (`emit_eq_ok_none_iff`), which then goes by its name (`name_of_emit`);
* `InformationModel.emittedNames` lists the names of those that become object types, kind by kind
  (`perm_emittedNames`);
* `package_eq_ok_iff`: a package is mapped just if each of its declarations is;
* `Mapper.map_eq_ok_iff`: a model is mapped just if its hierarchies are acyclic, each of its
  declarations is mapped, and those that become object types have distinct names; the result holds
  these object types and nothing else.
-/

import InfoModel.Proofs.Catalogue
import InfoModel.Proofs.Drafts
import InfoModel.Proofs.Mapping.Members

namespace InfoModel

/-! ### Declarations -/

/-- A declaration of a package. -/
inductive Declaration where
  | objectType (declared : ObjectTypeDeclaration)
  | datagroupType (declared : DatagroupTypeDeclaration)
  | datatype (declared : Datatype)

namespace Declaration

/-- The name that is declared. -/
def name : Declaration → String
  | .objectType declared => declared.name
  | .datagroupType declared => declared.name
  | .datatype declared => declared.name

/-- The declaration becomes an object type of the flat model. -/
def emits : Declaration → Bool
  | .objectType declared => !declared.isAbstract
  | .datagroupType _ => true
  | .datatype declared => declared.dataElements?.isSome

theorem emits_of_concrete {declared : ObjectTypeDeclaration}
    (isConcrete : declared.isAbstract = false) : (objectType declared).emits = true := by
  rw [emits, isConcrete]
  rfl

end Declaration

/-- The declarations of a package, in the order they are mapped. -/
def Package.declarations (package : Package) : List Declaration :=
  package.objectTypes.map .objectType ++ package.datagroupTypes.map .datagroupType ++
    package.datatypes.map .datatype

/-- The declarations of all packages. -/
def InformationModel.declarations (model : InformationModel) : List Declaration :=
  model.packages.flatMap Package.declarations

@[simp] theorem InformationModel.objectType_mem_declarations {model : InformationModel}
    {declared : ObjectTypeDeclaration} :
    .objectType declared ∈ model.declarations ↔ declared ∈ model.objectTypes := by
  simp [InformationModel.declarations, InformationModel.objectTypes, Package.declarations]

@[simp] theorem InformationModel.datagroupType_mem_declarations {model : InformationModel}
    {declared : DatagroupTypeDeclaration} :
    .datagroupType declared ∈ model.declarations ↔ declared ∈ model.datagroupTypes := by
  simp [InformationModel.declarations, InformationModel.datagroupTypes, Package.declarations]

@[simp] theorem InformationModel.datatype_mem_declarations {model : InformationModel}
    {declared : Datatype} :
    .datatype declared ∈ model.declarations ↔ declared ∈ model.datatypes := by
  simp [InformationModel.declarations, InformationModel.datatypes, Package.declarations]

/-- The declarations by kind. -/
theorem InformationModel.perm_declarations (model : InformationModel) :
    (model.objectTypes.map Declaration.objectType ++
      model.datagroupTypes.map Declaration.datagroupType ++
        model.datatypes.map Declaration.datatype).Perm model.declarations := by
  unfold objectTypes datagroupTypes datatypes declarations Package.declarations
  rw [List.map_flatMap, List.map_flatMap, List.map_flatMap]
  exact ((List.flatMap_append_perm _ _ _).append_right _).trans (List.flatMap_append_perm _ _ _)

/-- What holds of all declarations holds of those of each kind. -/
theorem InformationModel.forall_mem_declarations {model : InformationModel}
    {holds : Declaration → Prop} : (∀ declaration ∈ model.declarations, holds declaration) ↔
      (∀ declared ∈ model.objectTypes, holds (.objectType declared)) ∧
        (∀ declared ∈ model.datagroupTypes, holds (.datagroupType declared)) ∧
        ∀ declared ∈ model.datatypes, holds (.datatype declared) := by
  simp only [← model.perm_declarations.mem_iff, List.forall_mem_append, List.forall_mem_map,
    and_assoc]

/-- **The names of the object types to emit**: those of all concrete object types, datagroup types
and structured datatypes. -/
def InformationModel.emittedNames (model : InformationModel) : List String :=
  (model.objectTypes.filter fun declared => !declared.isAbstract).map ObjectTypeDeclaration.name ++
    model.datagroupTypes.map DatagroupTypeDeclaration.name ++
    (model.datatypes.filter fun declared => declared.dataElements?.isSome).map Datatype.name

/-- They are the names of the declarations that become object types. -/
theorem InformationModel.perm_emittedNames (model : InformationModel) :
    ((model.declarations.filter Declaration.emits).map Declaration.name).Perm
      model.emittedNames := by
  have kinds : ((model.objectTypes.map Declaration.objectType ++
      model.datagroupTypes.map Declaration.datagroupType ++
        model.datatypes.map Declaration.datatype).filter Declaration.emits).map Declaration.name
      = model.emittedNames := by
    have all : model.datagroupTypes.filter (Declaration.emits ∘ Declaration.datagroupType)
        = model.datagroupTypes := List.filter_eq_self.mpr fun _ _ => rfl
    rw [List.filter_append, List.filter_append, List.filter_map, List.filter_map, List.filter_map,
      List.map_append, List.map_append, List.map_map, List.map_map, List.map_map, all]
    rfl
  rw [← kinds]
  exact (model.perm_declarations.filter _).symm.map _

namespace Pass

variable {pass : Pass}

/-- Maps a declaration. -/
def emit (pass : Pass) : Declaration → Recorded (Option ObjectType)
  | .objectType declared => pass.concrete declared
  | .datagroupType declared => some <$> pass.datagroupType declared
  | .datatype declared => pass.datatype declared

/-- The declaration is mapped without a fault. -/
def Maps (pass : Pass) (declaration : Declaration) : Prop :=
  ∃ result, (pass.emit declaration).outcome = .ok result

/-- The object type that a declaration becomes, if it becomes one. -/
def emitted? (pass : Pass) (declaration : Declaration) : Option ObjectType :=
  match (pass.emit declaration).outcome with
  | .ok result => result
  | .error _ => none

theorem emitted?_eq_some_iff {declaration : Declaration} {objectType : ObjectType} :
    pass.emitted? declaration = some objectType ↔
      (pass.emit declaration).outcome = .ok (some objectType) := by
  unfold emitted?
  cases (pass.emit declaration).outcome <;> simp

theorem emit_eq_ok_iff {declaration : Declaration} {result : Option ObjectType} :
    (pass.emit declaration).outcome = .ok result ↔
      pass.Maps declaration ∧ result = pass.emitted? declaration := by
  unfold Maps emitted?
  cases (pass.emit declaration).outcome <;> simp [eq_comm]

/-! ### Single declarations -/

/-- The mapping of a declaration that becomes an object type. -/
def emission? (pass : Pass) : Declaration → Option (Recorded ObjectType)
  | .objectType declared => if declared.isAbstract then none else some (pass.objectType declared)
  | .datagroupType declared => some (pass.datagroupType declared)
  | .datatype declared => declared.dataElements?.map (pass.structured declared.name)

theorem isSome_emission? (declaration : Declaration) :
    (pass.emission? declaration).isSome = declaration.emits := by
  cases declaration with
  | objectType declared =>
      rw [emission?, Declaration.emits]
      cases declared.isAbstract <;> rfl
  | datagroupType declared => rfl
  | datatype declared => exact Option.isSome_map

/-- A concrete object type is mapped as such. -/
theorem outcome_concrete {declared : ObjectTypeDeclaration}
    (isConcrete : declared.isAbstract = false) :
    (pass.concrete declared).outcome = (pass.objectType declared).outcome.map some := by
  unfold concrete
  rw [isConcrete]
  exact Recorded.outcome_bind_pure (pass.objectType declared) some

theorem concrete_eq_ok_some_iff {declared : ObjectTypeDeclaration} {objectType : ObjectType}
    (isConcrete : declared.isAbstract = false) :
    (pass.concrete declared).outcome = .ok (some objectType) ↔
      (pass.objectType declared).outcome = .ok objectType := by
  rw [outcome_concrete isConcrete]
  cases (pass.objectType declared).outcome <;> simp [Except.map]

theorem concrete_eq_error_iff {declared : ObjectTypeDeclaration} {fault : MappingFault}
    (isConcrete : declared.isAbstract = false) :
    (pass.concrete declared).outcome = .error fault ↔
      (pass.objectType declared).outcome = .error fault := by
  rw [outcome_concrete isConcrete]
  cases (pass.objectType declared).outcome <;> simp [Except.map]

theorem outcome_emit (declaration : Declaration) :
    (pass.emit declaration).outcome =
      match pass.emission? declaration with
      | none => .ok none
      | some step => step.outcome.map some := by
  cases declaration with
  | objectType declared =>
      rw [emit, emission?]
      cases kind : declared.isAbstract with
      | true =>
          rw [concrete, kind]
          rfl
      | false => exact outcome_concrete kind
  | datagroupType declared =>
      rw [emit, emission?, map_eq_pure_bind]
      exact Recorded.outcome_bind_pure (pass.datagroupType declared) some
  | datatype declared =>
      rw [emit, emission?, datatype]
      cases declared.dataElements? with
      | none => rfl
      | some elements =>
          exact Recorded.outcome_bind_pure (pass.structured declared.name elements) some

/-- **A declaration becomes an object type** just if its mapping finds one. -/
theorem emit_eq_ok_some_iff {declaration : Declaration} {objectType : ObjectType} :
    (pass.emit declaration).outcome = .ok (some objectType) ↔
      ∃ step, pass.emission? declaration = some step ∧ step.outcome = .ok objectType := by
  rw [outcome_emit]
  cases pass.emission? declaration with
  | none => simp
  | some step => cases found : step.outcome <;> simp [Except.map, found]

/-- A declaration fails just where its mapping does. -/
theorem emit_eq_error_iff {declaration : Declaration} {fault : MappingFault} :
    (pass.emit declaration).outcome = .error fault ↔
      ∃ step, pass.emission? declaration = some step ∧ step.outcome = .error fault := by
  rw [outcome_emit]
  cases pass.emission? declaration with
  | none => simp
  | some step => cases found : step.outcome <;> simp [Except.map, found]

/-- A declaration becomes nothing just if it is not of the kind that is emitted. -/
theorem emit_eq_ok_none_iff {declaration : Declaration} :
    (pass.emit declaration).outcome = .ok none ↔ declaration.emits = false := by
  rw [outcome_emit, ← pass.isSome_emission?]
  cases pass.emission? declaration with
  | none => simp
  | some step => cases found : step.outcome <;> simp [Except.map, found]

theorem emits_of_emit {declaration : Declaration} {objectType : ObjectType}
    (mapped : (pass.emit declaration).outcome = .ok (some objectType)) :
    declaration.emits = true := by
  obtain ⟨step, found, -⟩ := emit_eq_ok_some_iff.mp mapped
  rw [← pass.isSome_emission?, found]
  rfl

theorem name_of_objectType {declared : ObjectTypeDeclaration} {objectType : ObjectType}
    (mapped : (pass.objectType declared).outcome = .ok objectType) :
    objectType.name = declared.name := by
  unfold Pass.objectType at mapped
  obtain ⟨_, -, mapped⟩ := Recorded.outcome_bind_eq_ok_iff.mp mapped
  obtain ⟨_, -, mapped⟩ := Recorded.outcome_bind_eq_ok_iff.mp mapped
  obtain ⟨_, -, built⟩ := Recorded.outcome_bind_eq_ok_iff.mp mapped
  exact (ObjectType.Draft.build_eq_ok_iff.mp built).2.1

theorem name_of_datagroupType {declared : DatagroupTypeDeclaration} {objectType : ObjectType}
    (mapped : (pass.datagroupType declared).outcome = .ok objectType) :
    objectType.name = declared.name := by
  unfold datagroupType at mapped
  obtain ⟨_, -, mapped⟩ := Recorded.outcome_bind_eq_ok_iff.mp mapped
  obtain ⟨_, -, built⟩ := Recorded.outcome_bind_eq_ok_iff.mp mapped
  exact (ObjectType.Draft.build_eq_ok_iff.mp built).2.1

theorem name_of_structured {name : String} {elements : List DataElement} {objectType : ObjectType}
    (mapped : (pass.structured name elements).outcome = .ok objectType) :
    objectType.name = name := by
  unfold structured at mapped
  obtain ⟨_, -, mapped⟩ := Recorded.outcome_bind_eq_ok_iff.mp mapped
  obtain ⟨_, -, built⟩ := Recorded.outcome_bind_eq_ok_iff.mp mapped
  exact (ObjectType.Draft.build_eq_ok_iff.mp built).2.1

/-- **An object type goes by the name of its declaration.** -/
theorem name_of_emit {declaration : Declaration} {objectType : ObjectType}
    (mapped : (pass.emit declaration).outcome = .ok (some objectType)) :
    objectType.name = declaration.name := by
  obtain ⟨step, found, mapped⟩ := emit_eq_ok_some_iff.mp mapped
  cases declaration with
  | objectType declared =>
      rw [emission?] at found
      split at found
      · cases found
      · cases found
        exact name_of_objectType mapped
  | datagroupType declared =>
      cases found
      exact name_of_datagroupType mapped
  | datatype declared =>
      obtain ⟨elements, -, rfl⟩ := Option.map_eq_some_iff.mp found
      exact name_of_structured mapped

/-- The object types emitted for a list of declarations go by the names of those that emit. -/
theorem map_name_emitted {declarations : List Declaration}
    (maps : ∀ declaration ∈ declarations, pass.Maps declaration) :
    (declarations.filterMap pass.emitted?).map ObjectType.name
      = (declarations.filter Declaration.emits).map Declaration.name := by
  induction declarations with
  | nil => rfl
  | cons declaration rest ih =>
      rw [List.forall_mem_cons] at maps
      obtain ⟨⟨result, mapped⟩, mapsRest⟩ := maps
      obtain ⟨-, same⟩ := emit_eq_ok_iff.mp mapped
      cases result with
      | none =>
          have silent := emit_eq_ok_none_iff.mp mapped
          rw [List.filterMap_cons_none same.symm, ih mapsRest,
            List.filter_cons_of_neg (by simp [silent])]
      | some objectType =>
          rw [List.filterMap_cons_some same.symm, List.filter_cons_of_pos (emits_of_emit mapped),
            List.map_cons, List.map_cons, ih mapsRest, name_of_emit mapped]

/-! ### Packages -/

/-- Mapping items and wrapping each result is mapping them all and wrapping the results. -/
theorem mapM_map_some {α β : Type} (step : α → Recorded β) (items : List α) :
    (items.mapM fun item => some <$> step item)
      = items.mapM step >>= fun results => pure (results.map some) := by
  induction items with
  | nil => simp
  | cons item rest ih => simp [List.mapM_cons, ih]

/-- **A package is mapped declaration by declaration.** -/
theorem package_eq (pass : Pass) (package : Package) :
    pass.package package = (do
      Recorded.report (.packageStarted package.name)
      let results ← package.declarations.mapM pass.emit
      return results.filterMap id) := by
  have objectTypes : pass.emit ∘ Declaration.objectType = pass.concrete := rfl
  have datagroupTypes : pass.emit ∘ Declaration.datagroupType
      = fun declared => some <$> pass.datagroupType declared := rfl
  have datatypes : pass.emit ∘ Declaration.datatype = pass.datatype := rfl
  unfold Pass.package Package.declarations
  rw [List.mapM_append, List.mapM_append, List.mapM_map, List.mapM_map, List.mapM_map,
    objectTypes, datagroupTypes, datatypes, mapM_map_some]
  simp

theorem package_eq_ok_iff {package : Package} {objectTypes : List ObjectType} :
    (pass.package package).outcome = .ok objectTypes ↔
      (∀ declaration ∈ package.declarations, pass.Maps declaration) ∧
        objectTypes = package.declarations.filterMap pass.emitted? := by
  have joined : (package.declarations.map pass.emitted?).filterMap id
      = package.declarations.filterMap pass.emitted? := by
    rw [List.filterMap_map]
    rfl
  rw [package_eq, Recorded.outcome_bind_eq_ok_iff]
  simp only [Recorded.outcome_bind_eq_ok_iff, Recorded.outcome_pure_eq_ok_iff,
    Recorded.outcome_mapM_eq_ok_iff_map fun _ _ => emit_eq_ok_iff]
  constructor
  · rintro ⟨_, -, _, ⟨maps, rfl⟩, rfl⟩
    exact ⟨maps, joined⟩
  · rintro ⟨maps, rfl⟩
    exact ⟨(), rfl, _, ⟨maps, rfl⟩, joined⟩

/-- **Packages are mapped like their declarations in a row**, with the same first fault. -/
theorem outcome_mapM_package (pass : Pass) (packages : List Package) :
    (packages.mapM pass.package).outcome.map List.flatten
      = ((packages.flatMap Package.declarations).mapM pass.emit).outcome.map
        (List.filterMap id) := by
  induction packages with
  | nil => rfl
  | cons package rest ih =>
      have first : (pass.package package).outcome
          = (package.declarations.mapM pass.emit).outcome.map (List.filterMap id) := by
        rw [package_eq, Recorded.outcome_bind]
        exact Recorded.outcome_bind_pure (package.declarations.mapM pass.emit) _
      rw [List.mapM_cons, List.flatMap_cons, List.mapM_append]
      simp only [Recorded.outcome_bind, Recorded.outcome_pure, first]
      cases (package.declarations.mapM pass.emit).outcome with
      | error fault => rfl
      | ok results =>
          have joined : ∀ outcome : Except MappingFault (List (List ObjectType)),
              (outcome >>= fun others => .ok (results.filterMap id :: others)).map List.flatten
                = (outcome.map List.flatten).map (results.filterMap id ++ ·) := by
            intro outcome
            cases outcome <;> rfl
          have appended : ∀ outcome : Except MappingFault (List (Option ObjectType)),
              (outcome >>= fun others => .ok (results ++ others)).map (List.filterMap id)
                = (outcome.map (List.filterMap id)).map (results.filterMap id ++ ·) := by
            intro outcome
            cases outcome with
            | error fault => rfl
            | ok others => exact congrArg Except.ok List.filterMap_append
          exact (joined _).trans ((congrArg _ ih).trans (appended _).symm)

/-- A package fails with the fault of one of its declarations. -/
theorem exists_of_package_eq_error {package : Package} {fault : MappingFault}
    (failed : (pass.package package).outcome = .error fault) :
    ∃ declaration ∈ package.declarations, (pass.emit declaration).outcome = .error fault := by
  rw [package_eq] at failed
  rcases Recorded.outcome_bind_eq_error_iff.mp failed with ⟨⟨⟩⟩ | ⟨_, -, later⟩
  rcases Recorded.outcome_bind_eq_error_iff.mp later with unmapped | ⟨_, -, ⟨⟩⟩
  exact Recorded.exists_of_outcome_mapM_eq_error unmapped

end Pass

/-! ### Models -/

namespace Mapper

variable {mapper : Mapper} {model : InformationModel} {aliasName : Option String}
  {result : Model}

/-- The pass of a mapping over a model. -/
def passOver (mapper : Mapper) (model : InformationModel) : Pass :=
  ⟨model.catalogue, mapper⟩

/-- The object types that the declarations of a model become, in order. -/
def emitted (mapper : Mapper) (model : InformationModel) : List ObjectType :=
  model.declarations.filterMap (mapper.passOver model).emitted?

theorem mem_emitted_iff {objectType : ObjectType} :
    objectType ∈ mapper.emitted model ↔ ∃ declaration ∈ model.declarations,
      ((mapper.passOver model).emit declaration).outcome = .ok (some objectType) := by
  unfold emitted
  rw [List.mem_filterMap]
  simp only [Pass.emitted?_eq_some_iff]

/-- The object types of all packages together. -/
theorem flatten_emitted (mapper : Mapper) (model : InformationModel) :
    (model.packages.map fun package =>
      package.declarations.filterMap (mapper.passOver model).emitted?).flatten
        = mapper.emitted model := by
  unfold emitted InformationModel.declarations
  rw [List.filterMap_flatMap]
  rfl

/-- The packages are mapped just if all declarations are. -/
theorem packages_eq_ok_iff {packages : List (List ObjectType)} :
    (model.packages.mapM (mapper.passOver model).package).outcome = .ok packages ↔
      (∀ declaration ∈ model.declarations, (mapper.passOver model).Maps declaration) ∧
        packages = model.packages.map fun package =>
          package.declarations.filterMap (mapper.passOver model).emitted? := by
  unfold InformationModel.declarations
  rw [List.forall_mem_flatMap,
    Recorded.outcome_mapM_eq_ok_iff_map fun _ _ => Pass.package_eq_ok_iff]

/-- A mapping succeeds just if its steps do. -/
theorem map_eq_ok_iff_build :
    (mapper.map model aliasName).outcome = .ok result ↔ model.Acyclic ∧
      (∀ declaration ∈ model.declarations, (mapper.passOver model).Maps declaration) ∧
        Model.Draft.build ⟨aliasName, mapper.emitted model⟩ = .ok result := by
  have joined := mapper.flatten_emitted model
  unfold Mapper.map
  simp only [Recorded.outcome_bind_eq_ok_iff, Recorded.outcome_pure_eq_ok_iff,
    Catalogue.build_eq_ok_iff]
  constructor
  · rintro ⟨_, ⟨acyclic, rfl⟩, _, mapped, built, made, _, -, rfl⟩
    obtain ⟨maps, rfl⟩ := packages_eq_ok_iff.mp mapped
    exact ⟨acyclic, maps, joined ▸ made⟩
  · rintro ⟨acyclic, maps, made⟩
    exact ⟨_, ⟨acyclic, rfl⟩, _, packages_eq_ok_iff.mpr ⟨maps, rfl⟩, result, joined.symm ▸ made,
      (), rfl, rfl⟩

/-- **Without a cycle, a mapping maps the declarations in a row** and puts together what they
become. -/
theorem outcome_map_of_acyclic (acyclic : model.Acyclic) :
    (mapper.map model aliasName).outcome
      = (model.declarations.mapM (mapper.passOver model).emit).outcome.map (List.filterMap id) >>=
        fun objectTypes => Model.Draft.build ⟨aliasName, objectTypes⟩ := by
  have built : (Catalogue.build model).outcome = .ok model.catalogue :=
    Catalogue.build_eq_ok_iff.mpr ⟨acyclic, rfl⟩
  unfold InformationModel.declarations Mapper.map
  rw [← Pass.outcome_mapM_package]
  rw [Recorded.outcome_bind, built]
  show ((model.packages.mapM (mapper.passOver model).package) >>= _).outcome = _
  rw [Recorded.outcome_bind]
  cases (model.packages.mapM (mapper.passOver model).package).outcome with
  | error fault => rfl
  | ok objectTypes =>
      show (Recorded.ofExcept (Model.Draft.build ⟨aliasName, objectTypes.flatten⟩) >>= _).outcome
        = Model.Draft.build ⟨aliasName, objectTypes.flatten⟩
      rw [Recorded.outcome_bind, Recorded.outcome_ofExcept]
      cases Model.Draft.build ⟨aliasName, objectTypes.flatten⟩ <;> rfl

/-- **A model is mapped** just if its hierarchies are acyclic, its declarations can all be mapped
and those that become object types have distinct names; the result holds these object types. -/
theorem map_eq_ok_iff :
    (mapper.map model aliasName).outcome = .ok result ↔ model.Acyclic ∧
      (∀ declaration ∈ model.declarations, (mapper.passOver model).Maps declaration) ∧
      ((model.declarations.filter Declaration.emits).map Declaration.name).Nodup ∧
      result.aliasName = aliasName ∧
      ∀ name objectType, result.objectType? name = some objectType ↔
        ∃ declaration ∈ model.declarations, declaration.name = name ∧
          ((mapper.passOver model).emit declaration).outcome = .ok (some objectType) := by
  rw [map_eq_ok_iff_build]
  refine and_congr_right fun _ => and_congr_right fun maps => ?_
  rw [Model.Draft.build_eq_ok_iff]
  refine and_congr ?_ (and_congr_right fun _ => ?_)
  · show ((model.declarations.filterMap _).map ObjectType.name).Nodup ↔ _
    rw [Pass.map_name_emitted maps]
  · refine forall_congr' fun name => forall_congr' fun objectType => iff_congr Iff.rfl ?_
    show objectType ∈ mapper.emitted model ∧ objectType.name = name ↔ _
    rw [mem_emitted_iff]
    constructor
    · rintro ⟨⟨declaration, member, mapped⟩, rfl⟩
      exact ⟨declaration, member, (Pass.name_of_emit mapped).symm, mapped⟩
    · rintro ⟨declaration, member, rfl, mapped⟩
      exact ⟨⟨declaration, member, mapped⟩, Pass.name_of_emit mapped⟩

/-- A model that is not mapped has a cycle, a declaration that is not mapped, or a name that two
emitted object types share. -/
theorem exists_map_eq_ok_iff :
    (∃ result, (mapper.map model aliasName).outcome = .ok result) ↔ model.Acyclic ∧
      (∀ declaration ∈ model.declarations, (mapper.passOver model).Maps declaration) ∧
      ((model.declarations.filter Declaration.emits).map Declaration.name).Nodup := by
  constructor
  · rintro ⟨result, mapped⟩
    obtain ⟨acyclic, maps, distinct, -⟩ := map_eq_ok_iff.mp mapped
    exact ⟨acyclic, maps, distinct⟩
  · rintro ⟨acyclic, maps, distinct⟩
    rw [← Pass.map_name_emitted maps] at distinct
    obtain ⟨table, made⟩ := NameMap.exists_ofDistinct_eq_ok distinct
    refine ⟨⟨aliasName, table⟩, map_eq_ok_iff_build.mpr ⟨acyclic, maps, ?_⟩⟩
    unfold Model.Draft.build emitted
    rw [made]

/-- **A mapped model holds the object types of all declarations that become one.** -/
theorem exists_objectType?_of_map (mapped : (mapper.map model aliasName).outcome = .ok result)
    {declaration : Declaration} (member : declaration ∈ model.declarations)
    (emits : declaration.emits = true) :
    ∃ objectType, result.objectType? declaration.name = some objectType ∧
      ((mapper.passOver model).emit declaration).outcome = .ok (some objectType) := by
  obtain ⟨-, maps, -, -, found⟩ := map_eq_ok_iff.mp mapped
  obtain ⟨_ | objectType, emitted⟩ := maps declaration member
  · rw [Pass.emit_eq_ok_none_iff.mp emitted] at emits
    cases emits
  · exact ⟨objectType, (found _ _).mpr ⟨declaration, member, rfl, emitted⟩, emitted⟩

/-- A mapped model holds its concrete object types. -/
theorem exists_objectType?_of_concrete
    (mapped : (mapper.map model aliasName).outcome = .ok result)
    {declared : ObjectTypeDeclaration} (member : declared ∈ model.objectTypes)
    (isConcrete : declared.isAbstract = false) :
    ∃ objectType, result.objectType? declared.name = some objectType ∧
      ((mapper.passOver model).concrete declared).outcome = .ok (some objectType) :=
  exists_objectType?_of_map mapped (InformationModel.objectType_mem_declarations.mpr member)
    (Declaration.emits_of_concrete isConcrete)

end Mapper

end InfoModel
