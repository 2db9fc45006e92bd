import KotlinBackend.Lowering
import KotlinBackend.Proofs.Relocation
import KotlinBackend.Proofs.Resolution.Conserves

/-!
# Module passes conserve classes

A facade is declared where it is named, removed declarations are announced ones only, and a constant
names nothing.
-/

namespace KotlinBackend

/-- The members of a facade keep to what the module may name, and so does the facade. -/
theorem namesOnly_facade {P : ClassId → Prop} {id : ClassId} {origin : Origin}
    {members : List Declaration} (hId : P id) (h : ∀ d ∈ members, NamesOnly P d.nodes) :
    NamesOnly P
      (Declaration.ofClass
        (facadeClass id origin (members.map (Declaration.moveInto id)))).nodes := by
  simp only [Declaration.nodes, facadeClass, ClassDecl.nodes, namesOnly_cons, namesOnly_append,
    namesOnly_listNodes]
  refine ⟨by simp [Node.class?], by simp [Node.class?, hId], by simp [SourceType.listNodes], ?_⟩
  intro moved hMoved
  obtain ⟨d, hd, rfl⟩ := List.mem_map.mp hMoved
  exact Declaration.namesOnly_moveInto hId (h d hd)

theorem mem_actualClasses_facade {id : ClassId} {origin : Origin} {members : List Declaration} :
    id ∈ (Declaration.ofClass (facadeClass id origin members)).actualClasses := by
  simp [Declaration.actualClasses, facadeClass, ClassDecl.actualClasses]

theorem SourceModule.externalFacade_declared {declared : List ClassId} {m : SourceModule}
    {container : ClassId} {d : Declaration} (h : (container, d) ∈ m.externals declared) :
    externalFacadeId container ∈ (m.withFacades declared).actualClasses := by
  have hFile : externalFacadeFile container (m.externalMembers declared container) ∈
      (m.withFacades declared).files :=
    List.mem_append_right _ (List.mem_map.mpr
      ⟨container, SourceModule.mem_externalContainers.mpr ⟨d, h⟩, rfl⟩)
  exact SourceModule.mem_actualClasses.mpr
    ⟨_, hFile, _, List.mem_singleton.mpr rfl, mem_actualClasses_facade⟩

theorem SourceModule.conserves_withFacades (declared : List ClassId) (m : SourceModule) :
    Conserves m (m.withFacades declared) := by
  have hNamed := mayName_of_named m (m.withFacades declared)
  rw [namesOnly_module] at hNamed
  have hDecl (f : SourceFile) (hf : f ∈ m.files) := namesOnly_file.mp (hNamed f hf)
  constructor
  · intro id hid
    obtain ⟨f, hf, d, hd, hActual⟩ := SourceModule.mem_actualClasses.mp hid
    -- A declaration with an actual class is no callable, so it does not move.
    have hStays : d.externalContainer? declared = none := by
      cases hContainer : d.externalContainer? declared with
      | none => rfl
      | some container =>
        obtain ⟨callable, hCallable⟩ := Declaration.callable?_of_externalContainer? hContainer
        simp [Declaration.actualClasses_of_callable hCallable] at hActual
    refine SourceModule.mem_actualClasses.mpr ⟨f.withoutExternals declared, ?_, d, ?_, hActual⟩
    · exact List.mem_append_left _ (List.mem_map_of_mem hf)
    · exact List.mem_filter.mpr ⟨hd, by simp [hStays]⟩
  · rw [namesOnly_module]
    intro file hFile
    rcases List.mem_append.mp hFile with hFile | hFile
    · obtain ⟨f, hf, rfl⟩ := List.mem_map.mp hFile
      exact namesOnly_file.mpr fun d hd => hDecl f hf d (List.mem_filter.mp hd).1
    · obtain ⟨container, hContainer, rfl⟩ := List.mem_map.mp hFile
      obtain ⟨d, hd⟩ := SourceModule.mem_externalContainers.mp hContainer
      refine namesOnly_file.mpr fun facade hFacade => ?_
      rw [List.mem_singleton.mp hFacade]
      refine namesOnly_facade (.inr (.inl (SourceModule.externalFacade_declared hd))) ?_
      intro member hMember
      obtain ⟨f, hf, hMem, _⟩ :=
        SourceModule.mem_externals.mp (SourceModule.mem_externalMembers.mp hMember)
      exact hDecl f hf member hMem

theorem conserves_relocateExternals (declared : List ClassId) (m : SourceModule) :
    Conserves m (relocateExternals declared m).value := by
  rw [relocateExternals_value]
  split
  · exact Conserves.refl m
  · refine SourceModule.conserves_retarget (SourceModule.conserves_withFacades declared m) ?_
    intro id target hMem holder hHolder
    obtain ⟨⟨container, d⟩, hExternal, hInto⟩ := List.mem_flatMap.mp hMem
    have hTarget := (Moves.mem_into hInto).1
    obtain rfl : externalFacadeId container = holder := by simpa [hTarget] using hHolder
    exact SourceModule.externalFacade_declared hExternal

theorem Declaration.not_isCallable {d : Declaration} {id : ClassId} (h : id ∈ d.actualClasses) :
    d.isCallable = false := by
  cases d with
  | ofClass | constructor | field => rfl
  | function | property => simp [Declaration.actualClasses] at h

theorem SourceFile.mergeFacade_value (f : SourceFile) :
    f.mergeFacade.value =
      if f.callables.isEmpty then f
      else { f with
        declarations := f.declarations.filter (!·.isCallable) ++
          [.ofClass (facadeClass f.facadeId .fileFacade
            (f.callables.map (Declaration.moveInto f.facadeId)))] } := by
  unfold SourceFile.mergeFacade
  split <;> rfl

/-- The module with the callables of its files in facades, before calls follow. -/
def SourceModule.withFileFacades (m : SourceModule) : SourceModule :=
  { m with files := m.files.map (·.mergeFacade.value) }

theorem SourceModule.fileFacade_declared {m : SourceModule} {f : SourceFile} (hf : f ∈ m.files)
    (h : f.callables.isEmpty = false) : f.facadeId ∈ m.withFileFacades.actualClasses := by
  refine SourceModule.mem_actualClasses.mpr ⟨_, List.mem_map_of_mem hf, ?_⟩
  rw [SourceFile.mergeFacade_value, if_neg (by simp [h])]
  exact ⟨_, List.mem_append_right _ (List.mem_singleton.mpr rfl), mem_actualClasses_facade⟩

theorem SourceModule.conserves_withFileFacades (m : SourceModule) :
    Conserves m m.withFileFacades := by
  have hNamed := mayName_of_named m m.withFileFacades
  rw [namesOnly_module] at hNamed
  have hDecl (f : SourceFile) (hf : f ∈ m.files) := namesOnly_file.mp (hNamed f hf)
  constructor
  · intro id hid
    obtain ⟨f, hf, d, hd, hActual⟩ := SourceModule.mem_actualClasses.mp hid
    refine SourceModule.mem_actualClasses.mpr ⟨_, List.mem_map_of_mem hf, d, ?_, hActual⟩
    rw [SourceFile.mergeFacade_value]
    split
    · exact hd
    · exact List.mem_append_left _
        (List.mem_filter.mpr ⟨hd, by simp [Declaration.not_isCallable hActual]⟩)
  · rw [namesOnly_module]
    intro file hFile
    obtain ⟨f, hf, rfl⟩ := List.mem_map.mp hFile
    rw [SourceFile.mergeFacade_value]
    split
    · exact hNamed f hf
    · rename_i hCallables
      have hFacade := SourceModule.fileFacade_declared hf (by simpa using hCallables)
      refine namesOnly_file.mpr fun d hd => ?_
      rcases List.mem_append.mp hd with hd | hd
      · exact hDecl f hf d (List.mem_filter.mp hd).1
      · rw [List.mem_singleton.mp hd]
        exact namesOnly_facade (.inr (.inl hFacade))
          fun member hMember => hDecl f hf member (List.mem_filter.mp hMember).1

/-- The moves of all callables of files into the facades of their files. -/
def SourceModule.fileMoves (m : SourceModule) : Moves :=
  m.files.flatMap fun f => Moves.into f.facadeId f.callables

theorem mergeFileFacades_value (m : SourceModule) :
    (mergeFileFacades m).value = m.withFileFacades.retarget m.fileMoves := by
  simp [mergeFileFacades, SourceModule.withFileFacades, SourceModule.fileMoves, Tally.value_each]

theorem conserves_mergeFileFacades (m : SourceModule) :
    Conserves m (mergeFileFacades m).value := by
  rw [mergeFileFacades_value]
  refine SourceModule.conserves_retarget m.conserves_withFileFacades ?_
  intro id target hMem holder hHolder
  obtain ⟨f, hf, hInto⟩ := List.mem_flatMap.mp hMem
  obtain ⟨hTarget, d, hd, _⟩ := Moves.mem_into hInto
  obtain rfl : f.facadeId = holder := by simpa [hTarget] using hHolder
  refine SourceModule.fileFacade_declared hf ?_
  cases hCallables : f.callables with
  | nil => simp [hCallables] at hd
  | cons => rfl

section Expected

variable {P : ClassId → Prop}

mutual

theorem ClassDecl.namesOnly_withoutExpected (c : ClassDecl) (h : NamesOnly P c.nodes) :
    NamesOnly P c.withoutExpected.value.nodes := by
  obtain ⟨cid, kind, modality, visibility, isLocal, isValue, isExpect, isExternal, isCompanion,
    typeParameters, supertypes, annotations, enumEntries, declarations, origin⟩ := c
  simp only [ClassDecl.nodes, namesOnly_cons, namesOnly_append] at h
  simp only [ClassDecl.withoutExpected, ClassDecl.nodes, Tally.value_bind, Tally.value_pure,
    namesOnly_cons, namesOnly_append]
  exact ⟨h.1, h.2.1, Declaration.namesOnly_withoutExpectedList declarations h.2.2⟩

theorem Declaration.namesOnly_withoutExpected (d : Declaration) (h : NamesOnly P d.nodes) :
    NamesOnly P d.withoutExpected.value.nodes := by
  cases d with
  | ofClass decl =>
    simp only [Declaration.nodes, namesOnly_cons] at h
    exact namesOnly_cons.mpr
      ⟨by simp [Node.class?], ClassDecl.namesOnly_withoutExpected decl h.2⟩
  | function | constructor | property | field => exact h

theorem Declaration.namesOnly_withoutExpectedList (ds : List Declaration)
    (h : NamesOnly P (Declaration.listNodes ds)) :
    NamesOnly P (Declaration.listNodes (Declaration.withoutExpectedList ds).value) := by
  cases ds with
  | nil => exact namesOnly_nil
  | cons d rest =>
    simp only [Declaration.listNodes, namesOnly_append] at h
    have hRest := Declaration.namesOnly_withoutExpectedList rest h.2
    simp only [Declaration.withoutExpectedList]
    split
    · exact hRest
    · exact namesOnly_append.mpr ⟨Declaration.namesOnly_withoutExpected d h.1, hRest⟩

end

end Expected

theorem conserves_stripExpected (m : SourceModule) : Conserves m (stripExpected m).value := by
  refine ⟨fun id hid => by rwa [actualClasses_stripExpected], ?_⟩
  have hNamed := mayName_of_named m (stripExpected m).value
  rw [namesOnly_module] at hNamed ⊢
  simp only [stripExpected, Tally.value_bind, Tally.value_pure, Tally.value_each] at hNamed ⊢
  intro file hFile
  obtain ⟨f, hf, rfl⟩ := List.mem_map.mp hFile
  have h := hNamed f hf
  simp only [SourceFile.nodes, namesOnly_cons] at h
  exact namesOnly_cons.mpr ⟨h.1, Declaration.namesOnly_withoutExpectedList _ h.2⟩

/-- A constant names nothing. -/
theorem foldStep_keeps {P : ClassId → Prop} : StepKeeps P foldStep := by
  intro e e' hStep _
  obtain ⟨value, _, rfl⟩ := Option.map_eq_some_iff.mp hStep
  simp [Expression.nodes, Node.class?]

theorem conserves_foldConstants (m : SourceModule) : Conserves m (foldConstants m).value :=
  ⟨fun id hid => by rwa [foldConstants, SourceModule.actualClasses_revise],
    SourceModule.namesOnly_revise foldStep_keeps m (mayName_of_named m _)⟩

theorem ModulePass.conserves (pass : ModulePass) (context : LoweringContext) (m : SourceModule) :
    Conserves m (pass.run context m).value := by
  cases pass with
  | relocateExternals => exact conserves_relocateExternals context.declared m
  | stripExpected => exact conserves_stripExpected m
  | foldConstants => exact conserves_foldConstants m
  | mergeFileFacades => exact conserves_mergeFileFacades m

end KotlinBackend
