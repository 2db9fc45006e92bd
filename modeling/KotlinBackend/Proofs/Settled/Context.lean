import KotlinBackend.Proofs.Settled.Passes

/-!
# The context follows the module

The context is renewed only after a pass over the module that counted something, and never after a
pass over files. That is enough: a pass over the module that counts nothing has left the classes as
they were, at any depth, and a pass over files adds and removes no class.
-/

namespace KotlinBackend

section Uncounted

variable {m : SourceModule}

theorem Tally.count_each_eq_zero {α β : Type} {f : α → Tally β} {items : List α}
    (h : (Tally.each f items).count = 0) : ∀ a ∈ items, (f a).count = 0 := by
  intro a ha
  rw [count_each] at h
  exact total_eq_zero h _ (List.mem_map_of_mem ha)

mutual

theorem ClassDecl.noneExpected_of_count (c : ClassDecl) (h : c.withoutExpected.count = 0) :
    NoneExpected c.declarations := by
  obtain ⟨id, kind, modality, visibility, isLocal, isValue, isExpect, isExternal, isCompanion,
    typeParameters, supertypes, annotations, enumEntries, declarations, origin⟩ := c
  exact Declaration.noneExpected_of_count declarations h

theorem Declaration.noneExpected_of_count (ds : List Declaration)
    (h : (Declaration.withoutExpectedList ds).count = 0) : NoneExpected ds := by
  cases ds with
  | nil => exact noneExpected_nil
  | cons d rest =>
    rw [Declaration.withoutExpectedList] at h
    split at h
    · simp only [Tally.count_bind, Tally.count_once] at h
      omega
    · rename_i hFirst
      simp only [Tally.count_bind, Tally.count_pure] at h
      have hRest := Declaration.noneExpected_of_count rest (by omega)
      refine noneExpected_cons.mpr ⟨⟨by simpa using hFirst, ?_⟩, hRest⟩
      cases d with
      | ofClass decl =>
        have hClass : decl.withoutExpected.count = 0 := by
          simp only [Declaration.withoutExpected, Tally.count_bind] at h
          omega
        exact ClassDecl.noneExpected_iff.mpr (ClassDecl.noneExpected_of_count decl hClass)
      | function | constructor | property | field => exact nofun

end

theorem noneExpected_of_stripExpected (h : (stripExpected m).count = 0) :
    ∀ f ∈ m.files, NoneExpected f.declarations := by
  intro f hf
  simp only [stripExpected, Tally.count_bind, Tally.count_pure, Nat.add_zero] at h
  exact Declaration.noneExpected_of_count f.declarations (Tally.count_each_eq_zero h f hf)

theorem relocateExternals_count (declared : List ClassId) (m : SourceModule) :
    (relocateExternals declared m).count =
      (distinct ((m.externalMoves declared).map (·.1))).length := by
  by_cases h : (m.externals declared).isEmpty = true
  · have hMoves : m.externalMoves declared = [] := by
      rw [SourceModule.externalMoves, List.isEmpty_iff.mp h, List.flatMap_nil]
    simp only [relocateExternals, if_pos h, hMoves]
    rfl
  · simp only [relocateExternals, if_neg h]
    rfl

theorem noExternals_of_relocateExternals
    (h : (relocateExternals m.declaredClasses m).count = 0) : m.NoExternals := by
  rw [relocateExternals_count, List.length_eq_zero_iff] at h
  intro f hf d hd
  refine Option.eq_none_iff_forall_ne_some.mpr fun container hContainer => ?_
  -- What moves is a callable, so its move is counted.
  obtain ⟨id, hid⟩ := Declaration.callable?_of_externalContainer? hContainer
  have hMove := SourceModule.mem_externalMoves hf hd hid hContainer
  have hCounted := mem_distinct.mpr (List.mem_map_of_mem (f := Prod.fst) hMove)
  rw [h] at hCounted
  cases hCounted

theorem noFileCallables_of_mergeFileFacades (h : (mergeFileFacades m).count = 0) :
    m.NoFileCallables := by
  intro f hf d hd
  simp only [mergeFileFacades, Tally.count_bind, Tally.count_pure, Nat.add_zero] at h
  have hFile := Tally.count_each_eq_zero h f hf
  unfold SourceFile.mergeFacade at hFile
  split at hFile
  · rename_i hEmpty
    have hNone := List.filter_eq_nil_iff.mp (List.isEmpty_iff.mp hEmpty) d hd
    simpa using hNone
  · cases hFile

end Uncounted

theorem ModulePass.declaredClasses_of_count {pass : ModulePass} {context : LoweringContext}
    {m : SourceModule} (hContext : context.declared = m.declaredClasses)
    (h : (pass.run context m).count = 0) :
    (pass.run context m).value.declaredClasses = m.declaredClasses := by
  have hUnchanged (hSettled : pass.Settled m) :
      (pass.run context m).value.declaredClasses = m.declaredClasses := by
    rw [ModulePass.run_of_settled hContext hSettled]
    rfl
  cases pass with
  | relocateExternals =>
    rw [ModulePass.run, hContext] at h
    exact hUnchanged (noExternals_of_relocateExternals h)
  | stripExpected => exact hUnchanged (noneExpected_of_stripExpected h)
  | foldConstants => exact SourceModule.declaredClasses_revise foldStep m
  | mergeFileFacades => exact hUnchanged (noFileCallables_of_mergeFileFacades h)

/-- The context holds the classes of the module. -/
def Lowering.Fresh (l : Lowering) : Prop := l.context.declared = l.module.declaredClasses

theorem Lowering.Fresh.modulePass {l : Lowering} (h : l.Fresh) (pass : ModulePass) :
    (l.modulePass pass).Fresh := by
  rw [Lowering.Fresh, Lowering.modulePass]
  split
  · rfl
  · rename_i hCount
    rw [ModulePass.declaredClasses_of_count h (by omega)]
    exact h

theorem Lowering.Fresh.filePass {l : Lowering} (h : l.Fresh) (pass : FilePass) :
    (l.filePass pass).Fresh :=
  Eq.trans h (pass.declaredClasses_run l.module).symm

/-- What a pipeline does, pass by pass. -/
def Pipeline.steps (p : Pipeline) : List (Lowering → Lowering) :=
  p.modulePasses.map (fun pass l => l.modulePass pass) ++
    p.filePasses.map fun pass l => l.filePass pass

/-- The states that a run goes through: before the first pass, and after each of them. -/
def Pipeline.states (p : Pipeline) (context : LoweringContext) (m : SourceModule) :
    List Lowering :=
  p.steps.scanl (fun l step => step l) (Lowering.start context m)

theorem Pipeline.fresh_step {p : Pipeline} {step : Lowering → Lowering} (hStep : step ∈ p.steps)
    {l : Lowering} (h : l.Fresh) : (step l).Fresh := by
  rcases List.mem_append.mp hStep with hStep | hStep
  · obtain ⟨pass, _, rfl⟩ := List.mem_map.mp hStep
    exact h.modulePass pass
  · obtain ⟨pass, _, rfl⟩ := List.mem_map.mp hStep
    exact h.filePass pass

theorem fresh_scanl {steps : List (Lowering → Lowering)}
    (hSteps : ∀ step ∈ steps, ∀ l, l.Fresh → (step l).Fresh) {start : Lowering}
    (h : start.Fresh) : ∀ l ∈ steps.scanl (fun l step => step l) start, l.Fresh := by
  induction steps generalizing start with
  | nil => simpa using h
  | cons step rest ih =>
    obtain ⟨hStep, hRest⟩ := List.forall_mem_cons.mp hSteps
    rw [List.scanl_cons]
    refine List.forall_mem_cons.mpr ⟨h, ?_⟩
    exact ih hRest (hStep start h)

theorem Pipeline.run_eq_foldl (p : Pipeline) (context : LoweringContext) (m : SourceModule) :
    p.run context m = p.steps.foldl (fun l step => step l) (Lowering.start context m) := by
  rw [Pipeline.run, Pipeline.steps, List.foldl_append, List.foldl_map, List.foldl_map]

theorem Pipeline.getLast?_states (p : Pipeline) (context : LoweringContext) (m : SourceModule) :
    (p.states context m).getLast? = some (p.run context m) := by
  rw [Pipeline.states, List.getLast?_scanl, Pipeline.run_eq_foldl]

/-- In every state of a run, up to the last, the context declares exactly the classes that the
module of that state declares. -/
theorem context_declares_module_classes (p : Pipeline) (known : ClassId → Bool)
    (m : SourceModule) :
    (p.states (.ofModule known m) m).getLast? = some (p.run (.ofModule known m) m) ∧
      ∀ l ∈ p.states (.ofModule known m) m, ∀ id,
        l.context.isDeclared id = true ↔ id ∈ l.module.declaredClasses := by
  refine ⟨p.getLast?_states _ m, ?_⟩
  intro l hl id
  have hStart : (Lowering.start (.ofModule known m) m).Fresh := rfl
  have hFresh := fresh_scanl (fun step hStep l => p.fresh_step hStep) hStart l hl
  rw [LoweringContext.isDeclared, hFresh, List.contains_iff_mem]

end KotlinBackend
