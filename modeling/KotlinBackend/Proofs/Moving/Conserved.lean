import KotlinBackend.Proofs.Moving.Repointed
import KotlinBackend.Proofs.Settled.Passes

/-!
# Moves lose nothing

Two passes take callables out of files and put them into facades. What they leave in a file stays in
order, what they take is in its facade in order and nowhere else, and no declaration changes beyond
its place and the calls that follow.
-/

namespace KotlinBackend

/-- The declarations at file level, in order. -/
def SourceModule.fileDeclarations (m : SourceModule) : List Declaration :=
  m.files.flatMap (·.declarations)

/-- A function or property whose identifier names a class that is not declared. -/
def Declaration.NamesUndeclared (declared : List ClassId) (container : ClassId)
    (d : Declaration) : Prop :=
  ∃ id, d.callable? = some id ∧ id.class? = some container ∧ container ∉ declared

instance (declared : List ClassId) (container : ClassId) :
    DecidablePred (Declaration.NamesUndeclared declared container) := fun _ =>
  decidable_of_iff _ Declaration.externalContainer?_eq_some_iff

/-- A declaration that a relocation takes out of its file. -/
def Declaration.Leaves (declared : List ClassId) (d : Declaration) : Prop :=
  ∃ container, d.NamesUndeclared declared container

theorem Declaration.leaves_iff {declared : List ClassId} {d : Declaration} :
    d.Leaves declared ↔ (d.externalContainer? declared).isSome = true := by
  rw [Option.isSome_iff_exists]
  exact exists_congr fun _ => Declaration.externalContainer?_eq_some_iff.symm

instance (declared : List ClassId) : DecidablePred (Declaration.Leaves declared) := fun _ =>
  decidable_of_iff _ Declaration.leaves_iff.symm

/-- A static class that has exactly some callables as its members, in order. -/
structure IsFacadeOf (moves : Moves) (holder : ClassId) (origin : Origin)
    (members : List Declaration) (facade : ClassDecl) : Prop where
  members : List.Forall₂ (Declaration.MovedInto moves holder) members facade.declarations
  shape : facade = facadeClass holder origin facade.declarations

theorem isFacadeOf_revise {moves : Moves} {holder : ClassId} {origin : Origin}
    {members : List Declaration} (h : ∀ d ∈ members, d.callable?.isSome) :
    IsFacadeOf moves holder origin members
      ((facadeClass holder origin (members.map (Declaration.moveInto holder))).revise
        moves.step).value where
  members := by
    rw [ClassDecl.declarations_revise, facadeClass, List.map_map, List.forall₂_map_right_iff,
      List.forall₂_same]
    exact fun d hd => Declaration.movedInto_revise holder (h d hd)
  shape := rfl

/-- A module and what a relocation makes of it. -/
structure Relocates (m m' : SourceModule) (moves : Moves) (containers : List ClassId)
    (kept added : List SourceFile) : Prop where
  files : m' = { m with files := kept ++ added }
  /-- Calls follow exactly the callables that are taken out of their files. -/
  follows : ∀ id target, moves.target? id = some target ↔
    ∃ d ∈ m.fileDeclarations, d.callable? = some id ∧
      ∃ container, d.NamesUndeclared m.declaredClasses container ∧
        target = (externalFacadeId container).member id.name
  nodup : containers.Nodup
  mem_containers : ∀ container, container ∈ containers ↔
    ∃ d ∈ m.fileDeclarations, d.NamesUndeclared m.declaredClasses container
  /-- A file keeps in order what does not leave. -/
  stays : List.Forall₂ (fun f f' => f' = { f with declarations := f'.declarations } ∧
    List.Forall₂ (Declaration.Repointed moves)
      (f.declarations.filter fun d => ¬ d.Leaves m.declaredClasses) f'.declarations) m.files kept
  /-- One file is added for each class, with the facade of all that name it. -/
  facades : List.Forall₂ (fun container f' =>
    f' = ⟨(externalFacadeId container).shortName ++ ".kt", container.package, f'.declarations⟩ ∧
    ∃ facade, f'.declarations = [.ofClass facade] ∧
      IsFacadeOf moves (externalFacadeId container) .externalFacade
        (m.fileDeclarations.filter fun d => d.NamesUndeclared m.declaredClasses container) facade)
    containers added
  /-- Every declaration is in one of these places, once. -/
  once : List.Perm m.fileDeclarations
    ((m.files.flatMap fun f => f.declarations.filter fun d => ¬ d.Leaves m.declaredClasses) ++
      containers.flatMap fun container =>
        m.fileDeclarations.filter fun d => d.NamesUndeclared m.declaredClasses container)

section Relocation

variable {declared : List ClassId} {m : SourceModule}

theorem SourceModule.externals_eq (declared : List ClassId) (m : SourceModule) :
    m.externals declared =
      m.fileDeclarations.filterMap fun d => (d.externalContainer? declared).map (·, d) := by
  rw [SourceModule.externals, SourceModule.fileDeclarations, List.filterMap_flatMap]

theorem SourceModule.externalMembers_eq (declared : List ClassId) (m : SourceModule)
    (container : ClassId) :
    m.externalMembers declared container =
      m.fileDeclarations.filter fun d => d.NamesUndeclared declared container := by
  rw [SourceModule.externalMembers, SourceModule.externals_eq]
  induction m.fileDeclarations with
  | nil => rfl
  | cons d rest ih =>
    rw [List.filter_cons, ← ih]
    by_cases hNames : d.NamesUndeclared declared container
    · have hContainer := Declaration.externalContainer?_eq_some_iff.mpr hNames
      simp [hContainer, hNames]
    · cases hContainer : d.externalContainer? declared with
      | none => simp [hContainer, hNames]
      | some other =>
        have hOther : other ≠ container := by
          rintro rfl
          exact hNames (Declaration.externalContainer?_eq_some_iff.mp hContainer)
        simp [hContainer, hNames, hOther]

theorem Declaration.filter_stays (ds : List Declaration) :
    (ds.filter fun d => (d.externalContainer? declared).isNone) =
      ds.filter fun d => ¬ d.Leaves declared := by
  refine List.filter_congr fun d _ => ?_
  rw [Bool.eq_iff_iff, decide_eq_true_iff, Declaration.leaves_iff, Bool.not_eq_true,
    Option.isSome_eq_false_iff]

theorem SourceModule.mem_fileDeclarations {d : Declaration} :
    d ∈ m.fileDeclarations ↔ ∃ f ∈ m.files, d ∈ f.declarations :=
  List.mem_flatMap

theorem SourceModule.externalMoves_target?_iff {id target : CallableId} :
    (m.externalMoves declared).target? id = some target ↔
      ∃ d ∈ m.fileDeclarations, d.callable? = some id ∧
        ∃ container, d.NamesUndeclared declared container ∧
          target = (externalFacadeId container).member id.name := by
  rw [SourceModule.externalMoves_target?_eq_some_iff]
  constructor
  · rintro ⟨⟨f, hf, d, hd, hid⟩, container, hClass, hUndeclared, rfl⟩
    exact ⟨d, SourceModule.mem_fileDeclarations.mpr ⟨f, hf, hd⟩, hid, container,
      ⟨id, hid, hClass, hUndeclared⟩, rfl⟩
  · rintro ⟨d, hd, hid, container, ⟨id', hid', hClass, hUndeclared⟩, rfl⟩
    obtain ⟨f, hf, hd⟩ := SourceModule.mem_fileDeclarations.mp hd
    obtain rfl : id = id' := Option.some.inj (hid.symm.trans hid')
    exact ⟨⟨f, hf, d, hd, hid⟩, container, hClass, hUndeclared, rfl⟩

theorem SourceModule.mem_externalContainers_iff {container : ClassId} :
    container ∈ m.externalContainers declared ↔
      ∃ d ∈ m.fileDeclarations, d.NamesUndeclared declared container := by
  rw [SourceModule.mem_externalContainers]
  constructor
  · rintro ⟨d, hd⟩
    obtain ⟨f, hf, hd, hContainer⟩ := SourceModule.mem_externals.mp hd
    exact ⟨d, SourceModule.mem_fileDeclarations.mpr ⟨f, hf, hd⟩,
      Declaration.externalContainer?_eq_some_iff.mp hContainer⟩
  · rintro ⟨d, hd, hNames⟩
    obtain ⟨f, hf, hd⟩ := SourceModule.mem_fileDeclarations.mp hd
    exact ⟨d, SourceModule.mem_externals.mpr
      ⟨f, hf, hd, Declaration.externalContainer?_eq_some_iff.mpr hNames⟩⟩

theorem SourceModule.perm_relocated (declared : List ClassId) (m : SourceModule) :
    m.fileDeclarations.Perm
      ((m.files.flatMap fun f => f.declarations.filter fun d => ¬ d.Leaves declared) ++
        (m.externalContainers declared).flatMap (m.externalMembers declared)) := by
  have hSplit := Declaration.perm_externals declared m.fileDeclarations
  rw [← SourceModule.externals_eq, Declaration.filter_stays] at hSplit
  have hStays : (m.fileDeclarations.filter fun d => ¬ d.Leaves declared) =
      m.files.flatMap fun f => f.declarations.filter fun d => ¬ d.Leaves declared := by
    rw [SourceModule.fileDeclarations, List.filter_flatMap]
  rw [hStays] at hSplit
  exact hSplit.trans ((m.perm_externalMembers declared).symm.append_left _)

theorem relocates_relocateExternals (m : SourceModule) :
    ∃ moves containers kept added,
      Relocates m (relocateExternals m.declaredClasses m).value moves containers kept added := by
  let moves := m.externalMoves m.declaredClasses
  let revised (f : SourceFile) : SourceFile := (f.revise moves.step).value
  refine ⟨moves, m.externalContainers m.declaredClasses,
    (m.files.map (SourceFile.withoutExternals m.declaredClasses)).map revised,
    (m.externalFiles m.declaredClasses).map revised, ?_⟩
  constructor
  case files =>
    rw [relocateExternals_eq_retarget, ← List.map_append, SourceModule.retarget]
    exact congrArg (SourceModule.mk m.name)
      (SourceModule.files_revise moves.step (m.withFacades m.declaredClasses))
  case follows => exact fun id target => SourceModule.externalMoves_target?_iff
  case nodup => exact nodup_distinct _
  case mem_containers => exact fun container => SourceModule.mem_externalContainers_iff
  case stays =>
    rw [List.map_map, List.forall₂_map_right_iff, List.forall₂_same]
    intro f _
    refine ⟨rfl, ?_⟩
    rw [← Declaration.filter_stays]
    exact Declaration.repointed_reviseList _
  case facades =>
    rw [SourceModule.externalFiles, List.map_map, List.forall₂_map_right_iff, List.forall₂_same]
    intro container _
    refine ⟨rfl, _, rfl, ?_⟩
    rw [← SourceModule.externalMembers_eq]
    exact isFacadeOf_revise (m.callable_of_externalMember _)
  case once =>
    simp only [← SourceModule.externalMembers_eq]
    exact m.perm_relocated _

end Relocation

/-- A file and what merging makes of it. -/
structure SourceFile.Merges (moves : Moves) (f f' : SourceFile) (kept : List Declaration)
    (facade? : Option ClassDecl) : Prop where
  declarations : f' = { f with declarations := kept ++ facade?.toList.map .ofClass }
  stays : List.Forall₂ (Declaration.Repointed moves)
    (f.declarations.filter fun d => d.isCallable = false) kept
  isSome_iff : facade?.isSome ↔ ∃ d ∈ f.declarations, d.isCallable = true
  facade : ∀ facade ∈ facade?,
    IsFacadeOf moves f.facadeId .fileFacade (f.declarations.filter (·.isCallable)) facade

section Merging

variable {moves : Moves}

theorem SourceFile.merges_revise (f : SourceFile) :
    ∃ kept facade?,
      SourceFile.Merges moves f (f.mergeFacade.value.revise moves.step).value kept facade? := by
  have hStays : (f.declarations.filter (!·.isCallable)) =
      f.declarations.filter fun d => d.isCallable = false := by
    refine List.filter_congr fun d _ => ?_
    cases d.isCallable <;> rfl
  rw [SourceFile.mergeFacade_value]
  split
  · rename_i hEmpty
    have hNone := List.filter_eq_nil_iff.mp (List.isEmpty_iff.mp hEmpty)
    refine ⟨(Declaration.reviseList moves.step f.declarations).value, none, ?_, ?_, ?_, nofun⟩
    · rw [Option.toList_none, List.map_nil, List.append_nil]
      rfl
    · have hAll : (f.declarations.filter fun d => d.isCallable = false) = f.declarations :=
        List.filter_eq_self.mpr fun d hd => by simpa using hNone d hd
      rw [hAll]
      exact Declaration.repointed_reviseList f.declarations
    · simpa using hNone
  · rename_i hSome
    refine ⟨(Declaration.reviseList moves.step (f.declarations.filter (!·.isCallable))).value,
      some ((facadeClass f.facadeId .fileFacade
        (f.callables.map (Declaration.moveInto f.facadeId))).revise moves.step).value,
      ?_, ?_, ?_, ?_⟩
    · change ({ f with declarations := (Declaration.reviseList moves.step (_ ++ [_])).value } :
        SourceFile) = _
      rw [Declaration.reviseList_value, List.map_append, ← Declaration.reviseList_value]
      rfl
    · rw [← hStays]
      exact Declaration.repointed_reviseList _
    · simpa [SourceFile.callables] using hSome
    · rintro _ ⟨⟩
      exact isFacadeOf_revise fun d hd => (List.mem_filter.mp hd).2

/-- A module and what merging makes of it. -/
structure MergesFiles (m m' : SourceModule) (moves : Moves) : Prop where
  name : m'.name = m.name
  /-- Calls follow the callables of files; of several with one identifier the last counts. -/
  follows : ∀ id, moves.target? id =
    (m.lastFileOf? id).map fun f => f.facadeId.member id.name
  files : List.Forall₂ (fun f f' => ∃ kept facade?, SourceFile.Merges moves f f' kept facade?)
    m.files m'.files

theorem mergesFiles_mergeFileFacades (m : SourceModule) :
    MergesFiles m (mergeFileFacades m).value m.fileMoves := by
  rw [mergeFileFacades_value]
  constructor
  case name => rfl
  case follows => exact m.fileMoves_target?
  case files =>
    rw [SourceModule.retarget, SourceModule.files_revise, SourceModule.withFileFacades,
      List.map_map, List.forall₂_map_right_iff, List.forall₂_same]
    exact fun f _ => f.merges_revise

end Merging

section Pipeline

theorem Declaration.isCallable_revise (step : Expression → Option Expression) (d : Declaration) :
    (d.revise step).value.isCallable = d.isCallable := by
  rw [Declaration.isCallable, Declaration.callable?_revise, Declaration.isCallable]

theorem FilePass.map_isCallable (pass : FilePass) (f : SourceFile) :
    (pass.runOnFile f).value.declarations.map Declaration.isCallable =
      f.declarations.map Declaration.isCallable := by
  cases pass with
  | addEntryPoints =>
    change (addEntryPointTo f.declarations).value.map Declaration.isCallable = _
    fun_induction addEntryPointTo f.declarations with
    | case1 | case2 | case3 => rfl
    | case4 facade rest hOrigin hAbsent hNoMain ih => simp [ih]
    | case5 facade rest hOrigin ih => simp [ih]
    | case6 d rest hOther ih => simp [ih]
  | useIntrinsics =>
    rw [FilePass.runOnFile, SourceFile.useIntrinsics, SourceFile.declarations_revise, List.map_map]
    exact List.map_congr_left fun d _ => d.isCallable_revise intrinsicStep
  | addDefaultConstructors =>
    change (Declaration.addDefaultConstructorsList f.declarations).value.map _ = _
    induction f.declarations with
    | nil => rfl
    | cons d rest ih =>
      have hFirst : d.addDefaultConstructors.value.isCallable = d.isCallable := by
        cases d <;> rfl
      simp [Declaration.addDefaultConstructorsList, hFirst, ih]

theorem FilePass.noFileCallables_run {m : SourceModule} (pass : FilePass)
    (h : m.NoFileCallables) : (pass.run m).value.NoFileCallables := by
  intro f hf d hd
  simp only [FilePass.run, Tally.value_bind, Tally.value_pure, Tally.value_each] at hf
  obtain ⟨f₀, hf₀, rfl⟩ := List.mem_map.mp hf
  have hMem := List.mem_map_of_mem (f := Declaration.isCallable) hd
  rw [pass.map_isCallable f₀] at hMem
  obtain ⟨d₀, hd₀, hEq⟩ := List.mem_map.mp hMem
  rw [← hEq]
  exact h f₀ hf₀ d₀ hd₀

theorem Pipeline.noFileCallables_standard (context : LoweringContext) (m : SourceModule) :
    (Pipeline.standard.run context m).module.NoFileCallables := by
  simp only [Pipeline.run, Pipeline.standard, List.foldl_cons, List.foldl_nil, Lowering.filePass]
  refine FilePass.noFileCallables_run _ (FilePass.noFileCallables_run _
    (FilePass.noFileCallables_run _ ?_))
  exact noFileCallables_mergeFileFacades _

end Pipeline

/-- Relocating and merging only regroup declarations, and after all passes no callable stands at
file level. -/
theorem moves_conserve_declarations (known : ClassId → Bool) (m : SourceModule) :
    (∃ moves containers kept added,
      Relocates m (ModulePass.relocateExternals.lowered known m) moves containers kept added) ∧
    (∃ moves, MergesFiles m (ModulePass.mergeFileFacades.lowered known m) moves) ∧
    (Pipeline.standard.run (.ofModule known m) m).module.NoFileCallables :=
  ⟨relocates_relocateExternals m, ⟨m.fileMoves, mergesFiles_mergeFileFacades m⟩,
    Pipeline.noFileCallables_standard _ m⟩

end KotlinBackend
