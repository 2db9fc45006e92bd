import KotlinBackend.Proofs.FacadeClass
import KotlinBackend.Proofs.FileName
import KotlinBackend.Proofs.Resolution.FilePasses

/-!
# Names of facades

A lowered module declares the actual classes of the module, a facade for every undeclared class with
members in it, and a facade for every file that keeps callables of its own. The names of facades are
made up without a look at what is declared. Here it is said when this gives one name twice; that the
stems of the files differ does not rule it out, because the name of a facade starts with an upper
case letter.
-/

namespace KotlinBackend

mutual

theorem ClassDecl.declaredClasses_withoutExpected (c : ClassDecl) (h : c.isExpect = false) :
    c.withoutExpected.value.declaredClasses = c.actualClasses := by
  obtain ⟨cid, kind, modality, visibility, isLocal, isValue, isExpect, isExternal, isCompanion,
    typeParameters, supertypes, annotations, enumEntries, declarations, origin⟩ := c
  simp only at h
  simp [ClassDecl.withoutExpected, ClassDecl.declaredClasses, ClassDecl.actualClasses, h,
    Declaration.listDeclaredClasses_withoutExpected declarations]

theorem Declaration.declaredClasses_withoutExpected (d : Declaration) (h : d.isExpect = false) :
    d.withoutExpected.value.declaredClasses = d.actualClasses := by
  cases d with
  | ofClass decl => exact ClassDecl.declaredClasses_withoutExpected decl h
  | function | constructor | property | field => rfl

theorem Declaration.listDeclaredClasses_withoutExpected (ds : List Declaration) :
    Declaration.listDeclaredClasses (Declaration.withoutExpectedList ds).value =
      Declaration.listActualClasses ds := by
  cases ds with
  | nil => rfl
  | cons d rest =>
    have ih := Declaration.listDeclaredClasses_withoutExpected rest
    cases h : d.isExpect with
    | true =>
      simp [Declaration.withoutExpectedList, Declaration.listActualClasses, h, ih,
        Declaration.actualClasses_of_isExpect h]
    | false =>
      simp [Declaration.withoutExpectedList, Declaration.listDeclaredClasses,
        Declaration.listActualClasses, h, ih, Declaration.declaredClasses_withoutExpected d h]

end

theorem declaredClasses_stripExpected (m : SourceModule) :
    (stripExpected m).value.declaredClasses = m.actualClasses := by
  simp [stripExpected, SourceModule.declaredClasses, SourceModule.actualClasses,
    SourceFile.withoutExpected, Tally.value_each, List.flatMap_map,
    Declaration.listDeclaredClasses_withoutExpected]

mutual

theorem ClassDecl.actualClasses_sublist (c : ClassDecl) :
    c.actualClasses.Sublist c.declaredClasses := by
  obtain ⟨cid, kind, modality, visibility, isLocal, isValue, isExpect, isExternal, isCompanion,
    typeParameters, supertypes, annotations, enumEntries, declarations, origin⟩ := c
  cases isExpect with
  | true =>
    simp only [ClassDecl.actualClasses, if_true]
    exact List.nil_sublist _
  | false =>
    simp only [ClassDecl.actualClasses, ClassDecl.declaredClasses, Bool.false_eq_true, if_false]
    exact (Declaration.listActualClasses_sublist declarations).cons_cons cid

theorem Declaration.actualClasses_sublist (d : Declaration) :
    d.actualClasses.Sublist d.declaredClasses := by
  cases d with
  | ofClass decl => exact ClassDecl.actualClasses_sublist decl
  | function | constructor | property | field => exact List.nil_sublist _

theorem Declaration.listActualClasses_sublist (ds : List Declaration) :
    (Declaration.listActualClasses ds).Sublist (Declaration.listDeclaredClasses ds) := by
  cases ds with
  | nil => exact List.nil_sublist _
  | cons d rest =>
    exact (Declaration.actualClasses_sublist d).append
      (Declaration.listActualClasses_sublist rest)

end

theorem SourceModule.actualClasses_sublist (m : SourceModule) :
    m.actualClasses.Sublist m.declaredClasses := by
  rw [SourceModule.actualClasses, SourceModule.declaredClasses]
  induction m.files with
  | nil => exact List.nil_sublist _
  | cons f rest ih =>
    exact (Declaration.listActualClasses_sublist f.declarations).append ih

theorem Declaration.listDeclaredClasses_append (ds ds' : List Declaration) :
    Declaration.listDeclaredClasses (ds ++ ds') =
      Declaration.listDeclaredClasses ds ++ Declaration.listDeclaredClasses ds' := by
  simp only [Declaration.listDeclaredClasses_eq, Declaration.listTree_append, List.map_append]

/-- A class with one more member that is no class. -/
theorem ClassDecl.declaredClasses_addMember {c : ClassDecl} {d : Declaration}
    (h : d.declaredClasses = []) :
    ({ c with declarations := c.declarations ++ [d] } : ClassDecl).declaredClasses =
      c.declaredClasses := by
  obtain ⟨cid, kind, modality, visibility, isLocal, isValue, isExpect, isExternal, isCompanion,
    typeParameters, supertypes, annotations, enumEntries, declarations, origin⟩ := c
  simp [ClassDecl.declaredClasses, Declaration.listDeclaredClasses_append,
    Declaration.listDeclaredClasses, h]

theorem listDeclaredClasses_addEntryPointTo (ds : List Declaration) :
    Declaration.listDeclaredClasses (addEntryPointTo ds).value =
      Declaration.listDeclaredClasses ds := by
  fun_induction addEntryPointTo ds with
  | case1 => rfl
  | case2 facade rest hOrigin hPresent => rfl
  | case3 facade rest hOrigin hAbsent main hMain wrapper =>
    simp only [Tally.value_once, Declaration.listDeclaredClasses, Declaration.declaredClasses]
    rw [ClassDecl.declaredClasses_addMember rfl]
  | case4 facade rest hOrigin hAbsent hNoMain ih => simp [Declaration.listDeclaredClasses, ih]
  | case5 facade rest hOrigin ih => simp [Declaration.listDeclaredClasses, ih]
  | case6 d rest hOther ih => simp [Declaration.listDeclaredClasses, ih]

theorem ClassDecl.declaredClasses_addDefaultConstructor (c : ClassDecl) :
    c.addDefaultConstructor.value.declaredClasses = c.declaredClasses := by
  unfold ClassDecl.addDefaultConstructor
  split
  · exact ClassDecl.declaredClasses_addMember rfl
  · rfl

mutual

theorem ClassDecl.declaredClasses_addDefaultConstructors (c : ClassDecl) :
    c.addDefaultConstructors.value.declaredClasses = c.declaredClasses := by
  obtain ⟨cid, kind, modality, visibility, isLocal, isValue, isExpect, isExternal, isCompanion,
    typeParameters, supertypes, annotations, enumEntries, declarations, origin⟩ := c
  simp only [ClassDecl.addDefaultConstructors, Tally.value_bind,
    ClassDecl.declaredClasses_addDefaultConstructor]
  simp [ClassDecl.declaredClasses,
    Declaration.listDeclaredClasses_addDefaultConstructors declarations]

theorem Declaration.declaredClasses_addDefaultConstructors (d : Declaration) :
    d.addDefaultConstructors.value.declaredClasses = d.declaredClasses := by
  cases d with
  | ofClass decl => exact ClassDecl.declaredClasses_addDefaultConstructors decl
  | function | constructor | property | field => rfl

theorem Declaration.listDeclaredClasses_addDefaultConstructors (ds : List Declaration) :
    Declaration.listDeclaredClasses (Declaration.addDefaultConstructorsList ds).value =
      Declaration.listDeclaredClasses ds := by
  cases ds with
  | nil => rfl
  | cons d rest =>
    simp [Declaration.addDefaultConstructorsList, Declaration.listDeclaredClasses,
      Declaration.declaredClasses_addDefaultConstructors d,
      Declaration.listDeclaredClasses_addDefaultConstructors rest]

end

theorem FilePass.declaredClasses_run (pass : FilePass) (m : SourceModule) :
    (pass.run m).value.declaredClasses = m.declaredClasses := by
  have hFile (f : SourceFile) :
      Declaration.listDeclaredClasses (pass.runOnFile f).value.declarations =
        Declaration.listDeclaredClasses f.declarations := by
    cases pass with
    | addEntryPoints => exact listDeclaredClasses_addEntryPointTo f.declarations
    | useIntrinsics =>
      simp [FilePass.runOnFile, SourceFile.useIntrinsics, SourceFile.revise,
        Declaration.listDeclaredClasses_eq, Declaration.listTree_revise, ClassDecl.id_revise]
    | addDefaultConstructors =>
      exact Declaration.listDeclaredClasses_addDefaultConstructors f.declarations
  simp [FilePass.run, SourceModule.declaredClasses, Tally.value_each, List.flatMap_map, hFile]

theorem Pipeline.declaredClasses_filePasses (passes : List FilePass) (l : Lowering) :
    (passes.foldl Lowering.filePass l).module.declaredClasses = l.module.declaredClasses := by
  induction passes generalizing l with
  | nil => rfl
  | cons pass rest ih => rw [List.foldl_cons, ih, Lowering.filePass, pass.declaredClasses_run]

/-- The facades of the files that have a declaration with a property. -/
def SourceModule.facadesFor (q : Declaration → Bool) (m : SourceModule) : List ClassId :=
  (m.files.filter (·.declarations.any q)).map SourceFile.facadeId

theorem SourceFile.facadeId_congr {f g : SourceFile} (hName : f.name = g.name)
    (hPackage : f.package = g.package) : f.facadeId = g.facadeId := by
  rw [SourceFile.facadeId, SourceFile.facadeId, f.stem_eq, g.stem_eq, hName, hPackage]

/-- A pass that keeps the names and packages of files, and the facades they need. -/
theorem facadesFor_map {q q' : Declaration → Bool} {change : SourceFile → SourceFile}
    (hAny : ∀ f, (change f).declarations.any q = f.declarations.any q')
    (hName : ∀ f, (change f).name = f.name) (hPackage : ∀ f, (change f).package = f.package)
    (files : List SourceFile) :
    ((files.map change).filter (·.declarations.any q)).map SourceFile.facadeId =
      (files.filter (·.declarations.any q')).map SourceFile.facadeId := by
  have hFacade (f : SourceFile) : (change f).facadeId = f.facadeId :=
    SourceFile.facadeId_congr (hName f) (hPackage f)
  simp only [List.filter_map, List.map_map, Function.comp_def, hAny, hFacade]

/-- A property of declarations that bodies have nothing to do with. -/
def IgnoresBodies (q : Declaration → Bool) : Prop :=
  ∀ step d, q (Declaration.revise step d).value = q d

theorem Declaration.callable?_revise (step : Expression → Option Expression) (d : Declaration) :
    (d.revise step).value.callable? = d.callable? := by
  cases d <;> rfl

theorem Declaration.isExpect_revise (step : Expression → Option Expression) (d : Declaration) :
    (d.revise step).value.isExpect = d.isExpect := by
  cases d with
  | ofClass decl =>
    obtain ⟨cid, kind, modality, visibility, isLocal, isValue, isExpect, isExternal, isCompanion,
      typeParameters, supertypes, annotations, enumEntries, declarations, origin⟩ := decl
    rfl
  | function | constructor | property | field => rfl

section FacadesFor

variable {q : Declaration → Bool} (m : SourceModule)

theorem SourceModule.facadesFor_revise (hq : IgnoresBodies q)
    (step : Expression → Option Expression) :
    (m.revise step).value.facadesFor q = m.facadesFor q := by
  have hFile (f : SourceFile) :
      (f.revise step).value.declarations.any q = f.declarations.any q := by
    simp [SourceFile.revise, Declaration.reviseList_value, List.any_map, Function.comp_def,
      hq step]
  simp only [SourceModule.facadesFor, SourceModule.revise, Tally.value_bind, Tally.value_pure,
    Tally.value_each]
  exact facadesFor_map hFile (fun _ => rfl) (fun _ => rfl) m.files

theorem any_isCallable_withoutExpected (ds : List Declaration) :
    (Declaration.withoutExpectedList ds).value.any Declaration.isCallable =
      ds.any fun d => d.isCallable && !d.isExpect := by
  have hStays (d : Declaration) : d.withoutExpected.value.isCallable = d.isCallable := by
    cases d <;> rfl
  induction ds with
  | nil => rfl
  | cons d rest ih => cases h : d.isExpect <;> simp [Declaration.withoutExpectedList, h, ih, hStays]

theorem facadesFor_stripExpected :
    (stripExpected m).value.facadesFor Declaration.isCallable =
      m.facadesFor fun d => d.isCallable && !d.isExpect := by
  have hFile (f : SourceFile) : f.withoutExpected.value.declarations.any Declaration.isCallable =
      f.declarations.any fun d => d.isCallable && !d.isExpect :=
    any_isCallable_withoutExpected f.declarations
  simp only [SourceModule.facadesFor, stripExpected, Tally.value_bind, Tally.value_pure,
    Tally.value_each]
  exact facadesFor_map hFile (fun _ => rfl) (fun _ => rfl) m.files

/-- What a relocation leaves in the files decides about their facades. -/
theorem SourceModule.facadesFor_withFacades (hCallable : ∀ d, q d = true → d.isCallable = true)
    (declared : List ClassId) :
    (m.withFacades declared).facadesFor q =
      m.facadesFor fun d => q d && (d.externalContainer? declared).isNone := by
  have hAdded : (m.externalFiles declared).filter (·.declarations.any q) = [] := by
    rw [List.filter_eq_nil_iff]
    intro added hAdded hAny
    obtain ⟨container, _, rfl⟩ := List.mem_map.mp hAdded
    obtain ⟨d, hd, hq⟩ := List.any_eq_true.mp hAny
    obtain rfl := List.mem_singleton.mp hd
    exact absurd (hCallable _ hq) (by simp [Declaration.isCallable, Declaration.callable?])
  have hFile (f : SourceFile) : (f.withoutExternals declared).declarations.any q =
      f.declarations.any fun d => q d && (d.externalContainer? declared).isNone := by
    simp only [SourceFile.withoutExternals, List.any_filter, Bool.and_comm]
  simp only [SourceModule.facadesFor, SourceModule.withFacades, List.filter_append, hAdded,
    List.append_nil]
  exact facadesFor_map hFile (fun _ => rfl) (fun _ => rfl) m.files

theorem facadesFor_relocateExternals (hq : IgnoresBodies q)
    (hCallable : ∀ d, q d = true → d.isCallable = true) (declared : List ClassId) :
    (relocateExternals declared m).value.facadesFor q =
      m.facadesFor fun d => q d && (d.externalContainer? declared).isNone := by
  rw [← m.facadesFor_withFacades hCallable declared]
  exact view_relocateExternals _ (fun m moves => m.facadesFor_revise hq moves.step) m

theorem SourceModule.facades_eq_facadesFor :
    (m.files.filterMap SourceFile.facade?).map ClassDecl.id =
      m.facadesFor Declaration.isCallable := by
  rw [SourceModule.facadesFor]
  induction m.files with
  | nil => rfl
  | cons f rest ih =>
    have hEmpty : f.callables.isEmpty = !f.declarations.any Declaration.isCallable := by
      rw [SourceFile.callables, Bool.eq_iff_iff]
      simp
    cases hAny : f.declarations.any Declaration.isCallable with
    | true => simp [SourceFile.facade?, hEmpty, hAny, ih, facadeClass]
    | false => simp [SourceFile.facade?, hEmpty, hAny, ih]

end FacadesFor

theorem Declaration.listActualClasses_eq_flatMap (ds : List Declaration) :
    Declaration.listActualClasses ds = ds.flatMap Declaration.actualClasses := by
  induction ds with
  | nil => rfl
  | cons d rest ih => rw [Declaration.listActualClasses, ih, List.flatMap_cons]

section Lowered

variable (declared : List ClassId) (m : SourceModule)

/-- The facades for the members of undeclared classes. -/
def SourceModule.externalFacadeIds : List ClassId :=
  (m.externalContainers declared).map externalFacadeId

/-- A callable that goes into the facade of its file. -/
def Declaration.staysInFile (d : Declaration) : Bool :=
  d.isCallable && !d.isExpect && (d.externalContainer? declared).isNone

/-- The files that keep callables of their own. -/
def SourceModule.facadeFiles : List SourceFile :=
  m.files.filter (·.declarations.any (Declaration.staysInFile declared))

theorem SourceModule.actualClasses_withFacades :
    (m.withFacades declared).actualClasses = m.actualClasses ++ m.externalFacadeIds declared := by
  have hFile (f : SourceFile) :
      Declaration.listActualClasses (f.withoutExternals declared).declarations =
        Declaration.listActualClasses f.declarations := by
    rw [SourceFile.withoutExternals, Declaration.listActualClasses_eq_flatMap,
      Declaration.listActualClasses_eq_flatMap]
    refine flatMap_filter_of_nil fun d _ hd => ?_
    obtain ⟨id, hid⟩ := Option.isSome_iff_exists.mp (Declaration.callable_of_not_stays declared hd)
    exact Declaration.actualClasses_of_callable hid
  have hFacade (container : ClassId) :
      Declaration.listActualClasses
          (externalFacadeFile container (m.externalMembers declared container)).declarations =
        [externalFacadeId container] := by
    have hMembers : Declaration.listActualClasses ((m.externalMembers declared container).map
        (Declaration.moveInto (externalFacadeId container))) = [] := by
      rw [Declaration.listActualClasses_eq_flatMap, List.flatMap_map, List.flatMap_eq_nil_iff]
      intro d hd
      obtain ⟨id, hid⟩ :=
        Option.isSome_iff_exists.mp (m.callable_of_externalMember declared d hd)
      exact Declaration.actualClasses_of_callable
        (by rw [Declaration.callable?_moveInto, hid, Option.map_some])
    simp only [externalFacadeFile, facadeClass, Declaration.listActualClasses,
      Declaration.actualClasses, ClassDecl.actualClasses, hMembers, List.append_nil]
    rfl
  simp only [SourceModule.actualClasses, SourceModule.withFacades, SourceModule.externalFiles,
    List.flatMap_append, List.flatMap_map, hFile, hFacade, SourceModule.externalFacadeIds]
  rw [← List.map_eq_flatMap]

theorem actualClasses_relocateExternals :
    (relocateExternals declared m).value.actualClasses =
      m.actualClasses ++ m.externalFacadeIds declared := by
  rw [← m.actualClasses_withFacades declared]
  exact view_relocateExternals _ (fun m _ => m.actualClasses_revise) m

theorem declaredClasses_mergeFileFacades :
    (mergeFileFacades m).value.declaredClasses.Perm
      (m.declaredClasses ++ m.facadesFor Declaration.isCallable) := by
  rw [mergeFileFacades_value, SourceModule.retarget, SourceModule.declaredClasses_revise,
    SourceModule.declaredClasses_eq, SourceModule.declaredClasses_eq,
    ← SourceModule.facades_eq_facadesFor, ← List.map_append]
  exact m.allClasses_withFileFacades.map _

/-- A lowered module declares the actual classes and the facades. -/
theorem Pipeline.declaredClasses_standard (context : LoweringContext) :
    (Pipeline.standard.run context m).module.declaredClasses.Perm
      (m.actualClasses ++ m.externalFacadeIds context.declared ++
        (m.facadeFiles context.declared).map SourceFile.facadeId) := by
  have hCallable : IgnoresBodies Declaration.isCallable := fun step d => by
    rw [Declaration.isCallable, Declaration.isCallable, Declaration.callable?_revise]
  have hWritten : IgnoresBodies fun d => d.isCallable && !d.isExpect := fun step d => by
    simp only [hCallable step d, Declaration.isExpect_revise]
  rw [Pipeline.run, Pipeline.declaredClasses_filePasses]
  simp only [Pipeline.standard, List.foldl_cons, List.foldl_nil, Lowering.modulePass,
    ModulePass.run, Lowering.start]
  refine (declaredClasses_mergeFileFacades _).trans (.of_eq ?_)
  rw [foldConstants, SourceModule.declaredClasses_revise,
    SourceModule.facadesFor_revise _ hCallable, declaredClasses_stripExpected,
    facadesFor_stripExpected, actualClasses_relocateExternals,
    facadesFor_relocateExternals m hWritten (fun d hd => (Bool.and_eq_true_iff.mp hd).1)]
  rfl

end Lowered

theorem externalFacadeId_eq_iff {a b : ClassId} :
    externalFacadeId a = externalFacadeId b ↔
      a.package = b.package ∧ String.join a.names = String.join b.names := by
  simp [externalFacadeId]

theorem SourceFile.facadeId_eq_iff {f g : SourceFile} :
    f.facadeId = g.facadeId ↔
      f.package = g.package ∧ Text.capitalize f.stem = Text.capitalize g.stem := by
  simp [SourceFile.facadeId]

/-- The two kinds of facades never meet: their names end differently. -/
theorem externalFacadeId_ne_facadeId (container : ClassId) (f : SourceFile) :
    externalFacadeId container ≠ f.facadeId := by
  intro h
  have hNames : String.join container.names ++ "Facade" = Text.capitalize f.stem ++ "Kt" := by
    simpa [externalFacadeId, SourceFile.facadeId] using congrArg ClassId.names h
  have hLast := congrArg (fun name => name.toList.getLast?) hNames
  simp [String.toList_append, List.getLast?_append] at hLast

/-- No facade has the name of another class. -/
structure SourceModule.FacadesNamedApart (m : SourceModule) : Prop where
  /-- The names of undeclared classes in one package differ when they are written together. -/
  external : (m.externalContainers m.declaredClasses).Pairwise fun a b =>
    a.package = b.package → String.join a.names ≠ String.join b.names
  /-- The stems of files in one package differ when they start with an upper case letter. -/
  file : (m.facadeFiles m.declaredClasses).Pairwise fun f g =>
    f.package = g.package → Text.capitalize f.stem ≠ Text.capitalize g.stem
  /-- No actual class is named like a facade. -/
  actual : ∀ id ∈ m.actualClasses,
    (∀ container ∈ m.externalContainers m.declaredClasses, externalFacadeId container ≠ id) ∧
      ∀ f ∈ m.facadeFiles m.declaredClasses, f.facadeId ≠ id

instance (m : SourceModule) : Decidable m.FacadesNamedApart :=
  decidable_of_iff (_ ∧ _ ∧ _)
    ⟨fun ⟨external, file, actual⟩ => ⟨external, file, actual⟩,
      fun h => ⟨h.external, h.file, h.actual⟩⟩

theorem nodup_externalFacadeIds {containers : List ClassId} :
    (containers.map externalFacadeId).Nodup ↔
      containers.Pairwise fun a b =>
        a.package = b.package → String.join a.names ≠ String.join b.names := by
  rw [List.nodup_iff_pairwise_ne, List.pairwise_map]
  simp only [ne_eq, externalFacadeId_eq_iff, not_and]

theorem nodup_facadeIds {files : List SourceFile} :
    (files.map SourceFile.facadeId).Nodup ↔
      files.Pairwise fun f g =>
        f.package = g.package → Text.capitalize f.stem ≠ Text.capitalize g.stem := by
  rw [List.nodup_iff_pairwise_ne, List.pairwise_map]
  simp only [ne_eq, SourceFile.facadeId_eq_iff, not_and]

/-- The classes of a lowered module differ exactly if its facades are named apart. -/
theorem lowered_classes_distinct_iff (S : SymbolSource) (m : SourceModule)
    (h : m.declaredClasses.Nodup) :
    (Pipeline.standard.run (.ofModule S.contains m) m).module.declaredClasses.Nodup ↔
      m.FacadesNamedApart := by
  have hActual : m.actualClasses.Nodup := m.actualClasses_sublist.nodup h
  rw [(Pipeline.declaredClasses_standard m _).nodup_iff, List.append_assoc, List.nodup_append,
    List.nodup_append]
  simp only [LoweringContext.ofModule, SourceModule.externalFacadeIds, nodup_externalFacadeIds,
    nodup_facadeIds]
  constructor
  · rintro ⟨_, ⟨hExternal, hFile, _⟩, hApart⟩
    refine ⟨hExternal, hFile, fun id hid => ⟨fun container hContainer hName => ?_,
      fun f hf hName => ?_⟩⟩
    · exact hApart id hid _ (List.mem_append_left _ (List.mem_map_of_mem hContainer)) hName.symm
    · exact hApart id hid _ (List.mem_append_right _ (List.mem_map_of_mem hf)) hName.symm
  · rintro ⟨hExternal, hFile, hApart⟩
    refine ⟨hActual, ⟨hExternal, hFile, fun a ha b hb => ?_⟩, fun id hid facade hFacade => ?_⟩
    · obtain ⟨container, _, rfl⟩ := List.mem_map.mp ha
      obtain ⟨f, _, rfl⟩ := List.mem_map.mp hb
      exact externalFacadeId_ne_facadeId container f
    · rcases List.mem_append.mp hFacade with hFacade | hFacade
      · obtain ⟨container, hContainer, rfl⟩ := List.mem_map.mp hFacade
        exact ((hApart id hid).1 container hContainer).symm
      · obtain ⟨f, hf, rfl⟩ := List.mem_map.mp hFacade
        exact ((hApart id hid).2 f hf).symm

/-- Two files of one package whose names differ in the case of a letter. -/
def mainFiles : SourceModule :=
  let file (name callable : String) : SourceFile :=
    { name
      package := ⟨"app"⟩
      declarations :=
        [.function { id := .topLevel "app" callable, returnType := .unit, body := some [] }] }
  { name := "main", files := [file "main.kt" "f", file "Main.kt" "g"] }

/-- The files do not collide and declare no class, but share the facade `app/MainKt`. -/
theorem mainFiles_share_facade :
    collisions [] mainFiles.files = [] ∧ mainFiles.declaredClasses.Nodup ∧
      ¬ mainFiles.FacadesNamedApart ∧
      ¬ (Pipeline.standard.run (.ofModule Builtins.graph.source.contains mainFiles)
        mainFiles).module.declaredClasses.Nodup := by
  have hDeclared : mainFiles.declaredClasses.Nodup := by decide
  have hShared : ¬ mainFiles.FacadesNamedApart := by decide +kernel
  refine ⟨by decide, hDeclared, hShared, fun hNodup => hShared ?_⟩
  exact (lowered_classes_distinct_iff Builtins.graph.source mainFiles hDeclared).mp hNodup

end KotlinBackend
