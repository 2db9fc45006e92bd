import KotlinBackend.Compilation
import KotlinBackend.Proofs.Relocation

/-!
# Names of files

Passes keep the files of a module and their names, except for the relocation of members of
undeclared classes: it appends a file for each of these classes. Collisions are looked for before
that.
-/

namespace KotlinBackend

def SourceModule.fileNames (m : SourceModule) : List String := m.files.map SourceFile.name

/-- The name of the file with the facade for the members of a class. -/
def externalFacadeName (container : ClassId) : String :=
  (externalFacadeId container).shortName ++ ".kt"

section Passes

variable (m : SourceModule)

theorem SourceModule.fileNames_revise (step : Expression → Option Expression) :
    (m.revise step).value.fileNames = m.fileNames := by
  simp [SourceModule.revise, SourceModule.fileNames, SourceFile.revise, Tally.value_each]

theorem fileNames_stripExpected : (stripExpected m).value.fileNames = m.fileNames := by
  simp [stripExpected, SourceModule.fileNames, SourceFile.withoutExpected, Tally.value_each]

theorem fileNames_mergeFileFacades : (mergeFileFacades m).value.fileNames = m.fileNames := by
  have hName (f : SourceFile) : f.mergeFacade.value.name = f.name := by
    unfold SourceFile.mergeFacade
    split <;> rfl
  simp only [mergeFileFacades, Tally.value_bind, Tally.value_pure, SourceModule.retarget,
    SourceModule.fileNames_revise]
  simp [SourceModule.fileNames, Tally.value_each, hName]

/-- A relocation appends the files of its facades. -/
theorem fileNames_relocateExternals (declared : List ClassId) :
    (relocateExternals declared m).value.fileNames =
      m.fileNames ++ (m.externalContainers declared).map externalFacadeName := by
  rw [relocateExternals_value]
  split
  · rename_i hEmpty
    have hContainers : m.externalContainers declared = [] := by
      rw [SourceModule.externalContainers, List.isEmpty_iff.mp hEmpty]
      rfl
    rw [hContainers, List.map_nil, List.append_nil]
  · rw [SourceModule.retarget, SourceModule.fileNames_revise]
    simp [SourceModule.fileNames, SourceModule.withFacades, SourceModule.externalFiles,
      SourceFile.withoutExternals, externalFacadeFile, externalFacadeName, Function.comp_def]

theorem FilePass.fileNames_run (pass : FilePass) : (pass.run m).value.fileNames = m.fileNames := by
  have hName (f : SourceFile) : (pass.runOnFile f).value.name = f.name := by
    cases pass <;> rfl
  simp [FilePass.run, SourceModule.fileNames, Tally.value_each, hName]

theorem Pipeline.fileNames_filePasses (passes : List FilePass) (l : Lowering) :
    (passes.foldl Lowering.filePass l).module.fileNames = l.module.fileNames := by
  induction passes generalizing l with
  | nil => rfl
  | cons pass rest ih => rw [List.foldl_cons, ih, Lowering.filePass, pass.fileNames_run]

theorem Pipeline.fileNames_standard (context : LoweringContext) :
    (Pipeline.standard.run context m).module.fileNames =
      m.fileNames ++ (m.externalContainers context.declared).map externalFacadeName := by
  rw [Pipeline.run, Pipeline.fileNames_filePasses]
  simp only [Pipeline.standard, List.foldl_cons, List.foldl_nil, Lowering.modulePass,
    ModulePass.run, fileNames_mergeFileFacades, foldConstants, SourceModule.fileNames_revise,
    fileNames_stripExpected]
  exact fileNames_relocateExternals m context.declared

end Passes

def SourceModule.stems (m : SourceModule) : List String := m.files.map SourceFile.stem

def fileStem (name : String) : String := SourceFile.stem { name }

/-- What the output of the facade for the members of a class is named after. -/
def externalFacadeStem (container : ClassId) : String := fileStem (externalFacadeName container)

theorem SourceFile.stem_eq (f : SourceFile) : f.stem = fileStem f.name := by
  rw [fileStem, SourceFile.stem, SourceFile.stem]

theorem SourceModule.stems_eq (m : SourceModule) : m.stems = m.fileNames.map fileStem := by
  rw [SourceModule.stems, SourceModule.fileNames, List.map_map]
  refine List.map_congr_left fun f _ => ?_
  rw [f.stem_eq, Function.comp]

theorem map_fileStem_facades (containers : List ClassId) :
    (containers.map externalFacadeName).map fileStem = containers.map externalFacadeStem := by
  rw [List.map_map]
  refine List.map_congr_left fun c _ => ?_
  rw [externalFacadeStem, Function.comp]

theorem Pipeline.stems_standard (context : LoweringContext) (m : SourceModule) :
    (Pipeline.standard.run context m).module.stems =
      m.stems ++ (m.externalContainers context.declared).map externalFacadeStem := by
  rw [SourceModule.stems_eq, Pipeline.fileNames_standard, List.map_append, ← SourceModule.stems_eq,
    map_fileStem_facades]

/-- No collision is found exactly if no file has the stem of a file before it. -/
theorem collisions_eq_nil {seen files : List SourceFile} :
    collisions seen files = [] ↔
      (files.map SourceFile.stem).Nodup ∧ ∀ f ∈ files, ∀ other ∈ seen, other.stem ≠ f.stem := by
  induction files generalizing seen with
  | nil => simp [collisions]
  | cons file rest ih =>
    have hEarlier : (seen.find? fun other => other.stem == file.stem).toList.map (·, file) = [] ↔
        ∀ other ∈ seen, other.stem ≠ file.stem := by
      simp [Option.toList_eq_nil_iff, List.find?_eq_none]
    rw [collisions, List.append_eq_nil_iff, hEarlier, ih, List.map_cons, List.nodup_cons]
    constructor
    · rintro ⟨hSeen, hNodup, hRest⟩
      refine ⟨⟨fun hMem => ?_, hNodup⟩,
        List.forall_mem_cons.mpr ⟨hSeen, fun f hf other hOther => ?_⟩⟩
      · obtain ⟨f, hf, hStem⟩ := List.mem_map.mp hMem
        exact hRest f hf file List.mem_cons_self hStem.symm
      · exact hRest f hf other (List.mem_cons_of_mem _ hOther)
    · rintro ⟨⟨hFresh, hNodup⟩, hSeen⟩
      refine ⟨hSeen file List.mem_cons_self, hNodup, fun f hf => List.forall_mem_cons.mpr ⟨?_, ?_⟩⟩
      · exact fun hStem => hFresh (List.mem_map.mpr ⟨f, hf, hStem.symm⟩)
      · exact hSeen f (List.mem_cons_of_mem _ hf)

end KotlinBackend
