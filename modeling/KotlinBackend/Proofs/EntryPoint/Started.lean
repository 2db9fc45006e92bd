import KotlinBackend.Proofs.EntryPoint.Added
import Mathlib.Data.List.Forall2

/-!
# Entry points after all passes

Which `main` starts a program is said of the module as it was written: not announced, without type
parameters or a receiver, with nothing or the program arguments as its parameters, and not a member
of a class that the module lacks. The main statement follows a file through all passes. It ends with
one entry point, in the facade of the file, if the file has such a `main`, and with none otherwise;
files that a relocation adds have none.
-/

namespace KotlinBackend

structure FunctionDecl.Starts (d : FunctionDecl) (m : SourceModule) : Prop where
  name : d.id.name = "main"
  actual : d.isExpect = false
  typeParameters : d.typeParameters = []
  extensionReceiver : d.extensionReceiver = none
  parameters : StartParameters d.valueParameters
  owner : ∀ holder, d.id.class? = some holder → ∃ c ∈ m.allClasses, c.id = holder

/-- What became of a file: it has no entry point, or one that calls the first `main` in it. -/
inductive SourceFile.Started (m : SourceModule) (f f' : SourceFile) : Prop
  | nowhere : (∀ d ∈ f.functions, ¬ d.Starts m) → f'.entryPoints = [] → Started m f f'
  | first {before after : List FunctionDecl} {main : FunctionDecl} :
    f.functions = before ++ main :: after → (∀ d ∈ before, ¬ d.Starts m) → main.Starts m →
    f'.HasStart f.facadeId main → Started m f f'

section Later

variable {f : SourceFile} {holder : ClassId} {heads : List FunctionDecl} {main : FunctionDecl}

theorem ClassDecl.functions_revise (step : Expression → Option Expression) (c : ClassDecl) :
    (c.revise step).value.functions = c.functions.map fun d => (d.revise step).value := by
  rw [ClassDecl.functions, ClassDecl.declarations_revise, List.filterMap_map, ClassDecl.functions,
    List.map_filterMap]
  exact List.filterMap_congr fun d _ => Declaration.function?_revise step d

theorem Declaration.allFunctions_revise (step : Expression → Option Expression)
    (d : Declaration) :
    (d.revise step).value.allFunctions =
      d.allFunctions.map fun fn => (fn.revise step).value := by
  rw [Declaration.allFunctions, Declaration.function?_revise, Declaration.tree_revise,
    List.flatMap_map, Declaration.allFunctions, List.map_append, List.map_flatMap,
    Option.toList_map]
  simp only [ClassDecl.functions_revise]

theorem SourceFile.entryPoints_revise (step : Expression → Option Expression) (f : SourceFile) :
    (f.revise step).value.entryPoints = f.entryPoints.map fun d => (d.revise step).value := by
  rw [SourceFile.entryPoints, SourceFile.allFunctions, SourceFile.declarations_revise,
    List.flatMap_map]
  simp only [Declaration.allFunctions_revise]
  rw [← List.map_flatMap, List.filter_map]
  rfl

-- No member that has an intrinsic is called `main`.
theorem settledIn_startWrapper : SettledIn intrinsicStep (startWrapper holder main).nodes := by
  have hNames : ∀ entry ∈ intrinsics, entry.1.name ≠ "main" := by decide
  have hNone : intrinsicFor? (holder.member "main") = none := by
    rw [intrinsicFor?, List.lookup_eq_none_iff]
    intro entry hEntry
    rw [bne_iff_ne]
    intro hSame
    exact hNames entry hEntry (congrArg CallableId.name hSame).symm
  have hArguments : SettledIn intrinsicStep (Expression.argumentNodes
      (if main.valueParameters.isEmpty then []
        else [some (.readValue "args" (.arrayOf .string))])) := by
    split
    · exact settledIn_nil
    · simp [Expression.argumentNodes, Expression.optionNodes, Expression.nodes, Node.expression?,
        intrinsicStep]
  simpa [startWrapper, FunctionDecl.nodes, ValueParameter.nodes, bodyNodes, Statement.listNodes,
    Statement.nodes, Expression.nodes, Call.nodes, Expression.optionNodes, Node.expression?,
    intrinsicStep, hNone] using hArguments

theorem startWrapper_revise :
    ((startWrapper holder main).revise intrinsicStep).value = startWrapper holder main := by
  rw [FunctionDecl.revise_of_settled _ settledIn_startWrapper]
  rfl

theorem SourceFile.HasStart.useIntrinsics (h : f.HasStart holder main) :
    f.useIntrinsics.value.HasStart holder main := by
  obtain ⟨facade, hMem, hId, hOrigin, hWrapper, hMoved⟩ := h.facade
  constructor
  · rw [SourceFile.useIntrinsics, SourceFile.entryPoints_revise, h.entryPoints, List.map_singleton,
      startWrapper_revise]
  · refine ⟨(facade.revise intrinsicStep).value, ?_, ?_, ?_, ?_, ?_⟩
    · rw [SourceFile.mem_classes, SourceFile.useIntrinsics, SourceFile.declarations_revise]
      exact List.mem_map.mpr ⟨_, SourceFile.mem_classes.mp hMem, rfl⟩
    · rw [ClassDecl.id_revise, hId]
    · rw [← hOrigin]
      cases facade
      rfl
    · rw [ClassDecl.functions_revise, ← startWrapper_revise]
      exact List.mem_map_of_mem hWrapper
    · have hHeads : FunctionDecl.head ∘ (fun d => (d.revise intrinsicStep).value) =
          FunctionDecl.head := funext (FunctionDecl.head_revise intrinsicStep)
      rw [ClassDecl.functions_revise, List.map_map, hHeads]
      exact hMoved

theorem SourceFile.StartsAs.useIntrinsics (h : f.StartsAs holder heads) :
    f.useIntrinsics.value.StartsAs holder heads where
  nothing := by
    intro hNone
    rw [SourceFile.useIntrinsics, SourceFile.entryPoints_revise, h.nothing hNone]
    rfl
  first := fun main hMain => (h.first main hMain).useIntrinsics

theorem Declaration.addDefaultConstructorsList_value (ds : List Declaration) :
    (Declaration.addDefaultConstructorsList ds).value =
      ds.map fun d => d.addDefaultConstructors.value := by
  induction ds with
  | nil => rfl
  | cons d rest ih => simp [Declaration.addDefaultConstructorsList, ih]

theorem Declaration.function?_addDefaultConstructors (d : Declaration) :
    d.addDefaultConstructors.value.function? = d.function? := by
  cases d <;> rfl

/-- One more constructor changes neither what a class is nor its functions and nested classes. -/
theorem ClassDecl.addDefaultConstructor_value (c : ClassDecl) :
    c.addDefaultConstructor.value.id = c.id ∧
      c.addDefaultConstructor.value.origin = c.origin ∧
      c.addDefaultConstructor.value.functions = c.functions ∧
      Declaration.listTree c.addDefaultConstructor.value.declarations =
        Declaration.listTree c.declarations := by
  unfold ClassDecl.addDefaultConstructor
  split
  · refine ⟨rfl, rfl, ?_, ?_⟩
    · simp [ClassDecl.functions, Declaration.function?]
    · simp [Declaration.listTree_append, Declaration.listTree, Declaration.tree]
  · exact ⟨rfl, rfl, rfl, rfl⟩

theorem ClassDecl.addDefaultConstructors_value (c : ClassDecl) :
    c.addDefaultConstructors.value.id = c.id ∧
      c.addDefaultConstructors.value.origin = c.origin ∧
      c.addDefaultConstructors.value.functions = c.functions := by
  obtain ⟨id, kind, modality, visibility, isLocal, isValue, isExpect, isExternal, isCompanion,
    typeParameters, supertypes, annotations, enumEntries, declarations, origin⟩ := c
  rw [ClassDecl.addDefaultConstructors, Tally.value_bind]
  obtain ⟨hId, hOrigin, hFunctions, _⟩ := ClassDecl.addDefaultConstructor_value
    ⟨id, kind, modality, visibility, isLocal, isValue, isExpect, isExternal, isCompanion,
      typeParameters, supertypes, annotations, enumEntries,
      (Declaration.addDefaultConstructorsList declarations).value, origin⟩
  refine ⟨hId, hOrigin, hFunctions.trans ?_⟩
  rw [ClassDecl.functions, ClassDecl.functions, Declaration.addDefaultConstructorsList_value,
    List.filterMap_map]
  exact List.filterMap_congr fun d _ => d.function?_addDefaultConstructors

mutual

theorem ClassDecl.tree_addDefaultConstructors (c : ClassDecl) :
    c.addDefaultConstructors.value.tree.map ClassDecl.functions =
      c.tree.map ClassDecl.functions := by
  have hFunctions := (ClassDecl.addDefaultConstructors_value c).2.2
  obtain ⟨id, kind, modality, visibility, isLocal, isValue, isExpect, isExternal, isCompanion,
    typeParameters, supertypes, annotations, enumEntries, declarations, origin⟩ := c
  rw [ClassDecl.tree_eq, ClassDecl.tree_eq, List.map_cons, List.map_cons, hFunctions]
  rw [ClassDecl.addDefaultConstructors, Tally.value_bind,
    (ClassDecl.addDefaultConstructor_value _).2.2.2,
    Declaration.listTree_addDefaultConstructorsList declarations]

theorem Declaration.tree_addDefaultConstructors (d : Declaration) :
    d.addDefaultConstructors.value.tree.map ClassDecl.functions =
      d.tree.map ClassDecl.functions := by
  cases d with
  | ofClass decl => exact ClassDecl.tree_addDefaultConstructors decl
  | function | constructor | property | field => rfl

theorem Declaration.listTree_addDefaultConstructorsList (ds : List Declaration) :
    (Declaration.listTree (Declaration.addDefaultConstructorsList ds).value).map
        ClassDecl.functions =
      (Declaration.listTree ds).map ClassDecl.functions := by
  cases ds with
  | nil => rfl
  | cons d rest =>
    simp [Declaration.addDefaultConstructorsList, Declaration.listTree,
      Declaration.tree_addDefaultConstructors d,
      Declaration.listTree_addDefaultConstructorsList rest]

end

theorem SourceFile.entryPoints_addDefaultConstructors (f : SourceFile) :
    f.addDefaultConstructors.value.entryPoints = f.entryPoints := by
  have hFunctions (d : Declaration) :
      d.addDefaultConstructors.value.allFunctions = d.allFunctions := by
    rw [Declaration.allFunctions, Declaration.function?_addDefaultConstructors,
      List.flatMap_def, Declaration.tree_addDefaultConstructors, ← List.flatMap_def]
    rfl
  rw [SourceFile.entryPoints, SourceFile.allFunctions, SourceFile.addDefaultConstructors,
    Tally.value_bind, Tally.value_pure, Declaration.addDefaultConstructorsList_value,
    List.flatMap_map]
  simp only [hFunctions]
  rfl

theorem SourceFile.HasStart.addDefaultConstructors (h : f.HasStart holder main) :
    f.addDefaultConstructors.value.HasStart holder main := by
  obtain ⟨facade, hMem, hId, hOrigin, hWrapper, hMoved⟩ := h.facade
  obtain ⟨hSameId, hSameOrigin, hSameFunctions⟩ := ClassDecl.addDefaultConstructors_value facade
  constructor
  · rw [SourceFile.entryPoints_addDefaultConstructors, h.entryPoints]
  · refine ⟨facade.addDefaultConstructors.value, ?_, ?_, ?_, ?_, ?_⟩
    · rw [SourceFile.mem_classes, SourceFile.addDefaultConstructors, Tally.value_bind,
        Tally.value_pure, Declaration.addDefaultConstructorsList_value]
      exact List.mem_map.mpr ⟨_, SourceFile.mem_classes.mp hMem, rfl⟩
    · rw [hSameId, hId]
    · rw [hSameOrigin, hOrigin]
    · rw [hSameFunctions]
      exact hWrapper
    · rw [hSameFunctions]
      exact hMoved

theorem SourceFile.StartsAs.addDefaultConstructors (h : f.StartsAs holder heads) :
    f.addDefaultConstructors.value.StartsAs holder heads where
  nothing := by
    intro hNone
    rw [SourceFile.entryPoints_addDefaultConstructors, h.nothing hNone]
  first := fun main hMain => (h.first main hMain).addDefaultConstructors

end Later

section Passes

variable {d : FunctionDecl}

theorem FunctionDecl.stays_iff {m : SourceModule} :
    d.stays m.declaredClasses = true ↔
      ∀ holder, d.id.class? = some holder → ∃ c ∈ m.allClasses, c.id = holder := by
  rw [FunctionDecl.stays, Option.isNone_iff_eq_none, Option.eq_none_iff_forall_ne_some]
  simp only [ne_eq, Declaration.externalContainer?_eq_some_iff, Declaration.callable?,
    SourceModule.declaredClasses_eq, List.mem_map]
  constructor
  · intro h holder hHolder
    by_contra hUndeclared
    exact h holder ⟨d.id, rfl, hHolder, hUndeclared⟩
  · rintro h holder ⟨_, ⟨⟩, hHolder, hUndeclared⟩
    exact hUndeclared (h holder hHolder)

theorem FunctionDecl.starts_iff {m : SourceModule} :
    (d.stays m.declaredClasses && (!d.isExpect && d.isMain)) = true ↔ d.Starts m := by
  simp only [Bool.and_eq_true, FunctionDecl.stays_iff, FunctionDecl.isMain_iff, Bool.not_eq_true']
  constructor
  · rintro ⟨hOwner, hActual, hName, hTypes, hReceiver, hParameters⟩
    exact ⟨hName, hActual, hTypes, hReceiver, hParameters, hOwner⟩
  · rintro ⟨hName, hActual, hTypes, hReceiver, hParameters, hOwner⟩
    exact ⟨hOwner, hActual, hName, hTypes, hReceiver, hParameters⟩

/-- What the passes after a relocation make of a file, when calls follow some moves. -/
def SourceFile.finished (moves : Moves) (f : SourceFile) : SourceFile :=
  let merged := (f.withoutExpected.value.revise foldStep).value.mergeFacade.value
  (merged.revise moves.step).value.addEntryPoint.value.useIntrinsics.value
    |>.addDefaultConstructors.value

theorem Pipeline.files_standard (known : ClassId → Bool) (m : SourceModule) :
    ∃ moves, (Pipeline.standard.run (.ofModule known m) m).module.files =
      (relocateExternals m.declaredClasses m).value.files.map (SourceFile.finished moves) := by
  have hRun : (Pipeline.standard.run (.ofModule known m) m).module.files =
      (mergeFileFacades (foldConstants (stripExpected
        (relocateExternals m.declaredClasses m).value).value).value).value.files.map
        fun f => f.addEntryPoint.value.useIntrinsics.value.addDefaultConstructors.value := by
    simp only [Pipeline.run, Pipeline.standard, List.foldl_cons, List.foldl_nil,
      Lowering.filePass, FilePass.run, Tally.value_bind, Tally.value_pure, Tally.value_each,
      List.map_map]
    rfl
  have hStripped (m : SourceModule) :
      (stripExpected m).value.files = m.files.map fun f => f.withoutExpected.value :=
    Tally.value_each _ _
  rw [hRun]
  generalize (relocateExternals m.declaredClasses m).value = relocated
  refine ⟨(foldConstants (stripExpected relocated).value).value.fileMoves, ?_⟩
  rw [mergeFileFacades_value, SourceModule.retarget, SourceModule.files_revise,
    SourceModule.withFileFacades]
  generalize SourceModule.fileMoves _ = moves
  rw [foldConstants, SourceModule.files_revise, hStripped]
  simp only [List.map_map]
  rfl

/-- Where a file is. -/
def SourceFile.place (f : SourceFile) : String × QualifiedName := (f.name, f.package)

theorem SourceFile.facadeId_of_place {f f' : SourceFile} (h : f'.place = f.place) :
    f'.facadeId = f.facadeId := by
  obtain ⟨hName, hPackage⟩ := Prod.mk.inj h
  exact SourceFile.facadeId_congr hName hPackage

theorem SourceFile.place_revise (step : Expression → Option Expression) (f : SourceFile) :
    (f.revise step).value.place = f.place := rfl

theorem SourceFile.place_withoutExpected (f : SourceFile) :
    f.withoutExpected.value.place = f.place := rfl

theorem SourceFile.place_mergeFacade (f : SourceFile) : f.mergeFacade.value.place = f.place := by
  rw [SourceFile.mergeFacade_value]
  split <;> rfl

theorem SourceFile.place_addEntryPoint (f : SourceFile) :
    f.addEntryPoint.value.place = f.place := rfl

theorem SourceFile.place_addDefaultConstructors (f : SourceFile) :
    f.addDefaultConstructors.value.place = f.place := rfl

theorem SourceFile.place_finished (f : SourceFile) (moves : Moves) :
    (f.finished moves).place = f.place := by
  rw [SourceFile.finished, SourceFile.place_addDefaultConstructors, SourceFile.useIntrinsics,
    SourceFile.place_revise, SourceFile.place_addEntryPoint, SourceFile.place_revise,
    SourceFile.place_mergeFacade, SourceFile.place_revise, SourceFile.place_withoutExpected]

theorem SourceFile.startsAs_finished {f : SourceFile} (hQuiet : f.Quiet) (moves : Moves) :
    (f.finished moves).StartsAs f.facadeId (f.heads.filter fun d => !d.isExpect) := by
  have hFolded : (f.withoutExpected.value.revise foldStep).value.heads =
      f.heads.filter fun d => !d.isExpect := by
    rw [SourceFile.heads_revise, SourceFile.heads_withoutExpected]
  have hFacade : (f.withoutExpected.value.revise foldStep).value.facadeId = f.facadeId := by
    apply SourceFile.facadeId_of_place
    rw [SourceFile.place_revise, SourceFile.place_withoutExpected]
  have hMerged := SourceFile.merged_mergeFacade (hQuiet.withoutExpected.revise foldStep)
  rw [hFolded, hFacade] at hMerged
  exact ((hMerged.revise moves.step).startsAs.useIntrinsics).addDefaultConstructors

/-- A file with the same place and the same functions outside of classes, up to bodies. -/
structure SourceFile.SameOutline (f f' : SourceFile) : Prop where
  place : f'.place = f.place
  heads : f'.heads = f.heads
  quiet : f.Quiet → f'.Quiet

theorem relocateExternals_files (declared : List ClassId) (m : SourceModule) :
    ∃ change : SourceFile → SourceFile, (∀ f : SourceFile, f.SameOutline (change f)) ∧
      (relocateExternals declared m).value.files = (m.withFacades declared).files.map change := by
  rw [relocateExternals_value]
  split
  case isTrue hEmpty =>
    refine ⟨id, fun f => ⟨rfl, rfl, fun h => h⟩, ?_⟩
    rw [SourceModule.withFacades_of_isEmpty hEmpty, List.map_id]
  case isFalse =>
    refine ⟨fun f => (f.revise (m.externalMoves declared).step).value, fun f => ?_, ?_⟩
    · exact ⟨f.place_revise _, f.heads_revise _, fun h => h.revise _⟩
    · rw [SourceModule.retarget, SourceModule.files_revise]

theorem SourceFile.HasStart.of_head {f : SourceFile} {holder : ClassId} {main : FunctionDecl}
    (h : f.HasStart holder main.head) : f.HasStart holder main := by
  have hMoved : (main.head.movedInto holder).head = (main.movedInto holder).head :=
    FunctionDecl.head_head (main.movedInto holder)
  obtain ⟨hEntryPoints, hFacade⟩ := h
  rw [startWrapper_head] at hEntryPoints
  rw [startWrapper_head, hMoved] at hFacade
  exact ⟨hEntryPoints, hFacade⟩

theorem SourceFile.started_of_startsAs {m : SourceModule} {f f' : SourceFile}
    (h : f'.StartsAs f.facadeId
      ((f.heads.filter (FunctionDecl.stays m.declaredClasses)).filter fun d => !d.isExpect)) :
    f.Started m f' := by
  have hFind : ((f.heads.filter (FunctionDecl.stays m.declaredClasses)).filter fun d =>
      !d.isExpect).find? FunctionDecl.isMain =
        (f.functions.find? fun d =>
          d.stays m.declaredClasses && (!d.isExpect && d.isMain)).map FunctionDecl.head := by
    rw [List.find?_filter, List.find?_filter, SourceFile.heads, List.find?_map]
    refine congrArg (Option.map FunctionDecl.head) (congrArg (List.find? · f.functions) ?_)
    funext d
    simp only [Function.comp_apply, FunctionDecl.isMain_head, Bool.decide_and, Bool.decide_eq_true]
    rfl
  cases hMain : f.functions.find? fun d =>
      d.stays m.declaredClasses && (!d.isExpect && d.isMain) with
  | none =>
    rw [hMain, Option.map_none] at hFind
    refine .nowhere (fun d hd => ?_) (h.nothing hFind)
    rw [← FunctionDecl.starts_iff]
    exact List.find?_eq_none.mp hMain d hd
  | some main =>
    rw [hMain, Option.map_some] at hFind
    obtain ⟨hStarts, before, after, hSplit, hBefore⟩ := List.find?_eq_some_iff_append.mp hMain
    refine .first hSplit (fun d hd => ?_) (FunctionDecl.starts_iff.mp hStarts)
      (h.first main.head hFind).of_head
    have hNot := hBefore d hd
    rw [Bool.not_eq_true', ← Bool.not_eq_true, FunctionDecl.starts_iff] at hNot
    exact hNot

/-- After all passes every file of the module has one entry point or none, according to the `main`
it was written with, and the files that were added have none. -/
theorem entryPoints_standard (known : ClassId → Bool) (m : SourceModule)
    (hFacades : ∀ c ∈ m.allClasses, c.origin ≠ .fileFacade)
    (hFunctions : ∀ f ∈ m.files, ∀ d ∈ f.allFunctions, d.origin ≠ .entryPoint) :
    ∃ kept added, (Pipeline.standard.run (.ofModule known m) m).module.files = kept ++ added ∧
      List.Forall₂ (fun f f' => f'.name = f.name ∧ f'.package = f.package ∧ f.Started m f')
        m.files kept ∧
      ∀ f ∈ added, f.entryPoints = [] := by
  have hQuiet : ∀ f ∈ m.files, f.Quiet := by
    intro f hf d hd
    refine ⟨fun c hc => hFacades c ?_, fun fn hfn => hFunctions f hf fn ?_⟩
    · refine List.mem_flatMap.mpr ⟨f, hf, ?_⟩
      rw [Declaration.listTree_eq_flatMap]
      exact List.mem_flatMap.mpr ⟨d, hd, hc⟩
    · exact List.mem_flatMap.mpr ⟨d, hd, hfn⟩
  obtain ⟨moves, hFiles⟩ := Pipeline.files_standard known m
  obtain ⟨change, hOutline, hRelocated⟩ := relocateExternals_files m.declaredClasses m
  rw [hRelocated, SourceModule.withFacades, List.map_append, List.map_append, List.map_map,
    List.map_map] at hFiles
  refine ⟨_, _, hFiles, ?_, ?_⟩
  · rw [List.forall₂_map_right_iff]
    refine List.forall₂_same.mpr fun f hf => ?_
    rw [Function.comp_apply, Function.comp_apply]
    have hChanged := hOutline (f.withoutExternals m.declaredClasses)
    generalize change (f.withoutExternals m.declaredClasses) = changed at hChanged ⊢
    have hPlace : changed.place = f.place := hChanged.place
    have hStarts := SourceFile.startsAs_finished
      (hChanged.quiet ((hQuiet f hf).withoutExternals m.declaredClasses)) moves
    rw [hChanged.heads, SourceFile.heads_withoutExternals,
      SourceFile.facadeId_of_place hPlace] at hStarts
    obtain ⟨hName, hPackage⟩ := Prod.mk.inj ((changed.place_finished moves).trans hPlace)
    exact ⟨hName, hPackage, SourceFile.started_of_startsAs hStarts⟩
  · intro f hf
    obtain ⟨changed, hChanged, rfl⟩ := List.mem_map.mp hf
    obtain ⟨g, hg, rfl⟩ := List.mem_map.mp hChanged
    obtain ⟨hQuietAdded, hNoHeads⟩ := SourceModule.externalFiles_quiet hQuiet hg
    have hStarts := SourceFile.startsAs_finished ((hOutline g).quiet hQuietAdded) moves
    apply hStarts.nothing
    rw [(hOutline g).heads, hNoHeads]
    rfl

/-- An announced `main`, one for any type, one of a class that no file declares, and behind them
one that takes the program arguments; `Box` has a member of that name. -/
def overloadedMain : SourceModule :=
  let box : ClassId := .inPackage "app" "Box"
  { name := "app"
    files :=
      [{ name := "main.kt"
         package := ⟨"app"⟩
         declarations :=
          [.function { id := .topLevel "app" "main", returnType := .unit, isExpect := true },
            .function
              { id := .topLevel "app" "main"
                typeParameters := [{ name := "T" }]
                returnType := .unit },
            .function { id := (ClassId.inPackage "lib" "Lib").member "main", returnType := .unit },
            .ofClass
              { id := box
                declarations := [.function { id := box.member "main", returnType := .unit }] },
            .function
              { id := .topLevel "app" "main"
                valueParameters := [{ name := "args", type := .arrayOf .string }]
                returnType := .unit }] }] }

theorem entryPoints_standard_overloadedMain :
    (∀ c ∈ overloadedMain.allClasses, c.origin ≠ .fileFacade) ∧
      (∀ f ∈ overloadedMain.files, ∀ d ∈ f.allFunctions, d.origin ≠ .entryPoint) ∧
      ∃ kept added,
        (Pipeline.standard.run (.ofModule (fun _ => false) overloadedMain)
          overloadedMain).module.files = kept ++ added ∧
        List.Forall₂
          (fun f f' => f'.name = f.name ∧ f'.package = f.package ∧ f.Started overloadedMain f')
          overloadedMain.files kept ∧
        ∀ f ∈ added, f.entryPoints = [] :=
  ⟨by decide, by decide, entryPoints_standard _ overloadedMain (by decide) (by decide)⟩

end Passes

end KotlinBackend
