import KotlinBackend.Proofs.Call.Moved
import KotlinBackend.Proofs.FacadeName
import KotlinBackend.Proofs.Settled.Revision

/-!
# Normal forms of the passes

For each pass it is said, without the pass, what there is left to do in a module or in a file. One
run leaves nothing to do: neither what it adds nor what it changes calls for the same pass once
more. Where nothing is left to do, the pass changes nothing and counts nothing.
-/

namespace KotlinBackend

/-- No declaration of a list is announced, and none inside of its classes at any depth. -/
def NoneExpected (ds : List Declaration) : Prop :=
  (∀ d ∈ ds, d.isExpect = false) ∧
    ∀ c ∈ Declaration.listTree ds, ∀ d ∈ c.declarations, d.isExpect = false

section Expected

theorem noneExpected_nil : NoneExpected [] := by simp [NoneExpected, Declaration.listTree]

theorem noneExpected_cons {d : Declaration} {rest : List Declaration} :
    NoneExpected (d :: rest) ↔
      (d.isExpect = false ∧ ∀ c ∈ d.tree, ∀ d' ∈ c.declarations, d'.isExpect = false) ∧
        NoneExpected rest := by
  simp only [NoneExpected, Declaration.listTree, List.forall_mem_cons, List.forall_mem_append]
  exact and_and_and_comm

theorem ClassDecl.tree_eq (c : ClassDecl) : c.tree = c :: Declaration.listTree c.declarations := by
  obtain ⟨id, kind, modality, visibility, isLocal, isValue, isExpect, isExternal, isCompanion,
    typeParameters, supertypes, annotations, enumEntries, declarations, origin⟩ := c
  rw [ClassDecl.tree]

theorem ClassDecl.noneExpected_iff {c : ClassDecl} :
    (∀ inner ∈ c.tree, ∀ d ∈ inner.declarations, d.isExpect = false) ↔
      NoneExpected c.declarations := by
  rw [ClassDecl.tree_eq, List.forall_mem_cons, NoneExpected]

mutual

theorem ClassDecl.withoutExpected_of_none (c : ClassDecl) (h : NoneExpected c.declarations) :
    c.withoutExpected = pure c := by
  obtain ⟨id, kind, modality, visibility, isLocal, isValue, isExpect, isExternal, isCompanion,
    typeParameters, supertypes, annotations, enumEntries, declarations, origin⟩ := c
  rw [ClassDecl.withoutExpected, Declaration.withoutExpectedList_of_none declarations h,
    Tally.pure_bind]

theorem Declaration.withoutExpectedList_of_none (ds : List Declaration) (h : NoneExpected ds) :
    Declaration.withoutExpectedList ds = pure ds := by
  cases ds with
  | nil => rfl
  | cons d rest =>
    obtain ⟨⟨hFirst, hInner⟩, hRest⟩ := noneExpected_cons.mp h
    have hDeclaration : d.withoutExpected = pure d := by
      cases d with
      | ofClass decl =>
        have hClass := ClassDecl.withoutExpected_of_none decl (ClassDecl.noneExpected_iff.mp hInner)
        rw [Declaration.withoutExpected, hClass, Tally.pure_bind]
      | function | constructor | property | field => rfl
    rw [Declaration.withoutExpectedList, if_neg (by simp [hFirst]), hDeclaration, Tally.pure_bind,
      Declaration.withoutExpectedList_of_none rest hRest, Tally.pure_bind]

end

theorem Declaration.isExpect_withoutExpected (d : Declaration) :
    d.withoutExpected.value.isExpect = d.isExpect := by
  cases d with
  | ofClass decl =>
    obtain ⟨id, kind, modality, visibility, isLocal, isValue, isExpect, isExternal, isCompanion,
      typeParameters, supertypes, annotations, enumEntries, declarations, origin⟩ := decl
    rfl
  | function | constructor | property | field => rfl

mutual

theorem ClassDecl.noneExpected_withoutExpected (c : ClassDecl) :
    NoneExpected c.withoutExpected.value.declarations := by
  obtain ⟨id, kind, modality, visibility, isLocal, isValue, isExpect, isExternal, isCompanion,
    typeParameters, supertypes, annotations, enumEntries, declarations, origin⟩ := c
  exact Declaration.noneExpected_withoutExpectedList declarations

theorem Declaration.noneExpected_withoutExpectedList (ds : List Declaration) :
    NoneExpected (Declaration.withoutExpectedList ds).value := by
  cases ds with
  | nil => exact noneExpected_nil
  | cons d rest =>
    have hRest := Declaration.noneExpected_withoutExpectedList rest
    rw [Declaration.withoutExpectedList]
    split
    · exact hRest
    · rename_i hFirst
      refine noneExpected_cons.mpr ⟨⟨?_, ?_⟩, hRest⟩
      · rw [Declaration.isExpect_withoutExpected]
        simpa using hFirst
      · cases d with
        | ofClass decl =>
          exact ClassDecl.noneExpected_iff.mpr (ClassDecl.noneExpected_withoutExpected decl)
        | function | constructor | property | field => exact nofun

end

end Expected

/-- No class of a list, at any depth, should have one more constructor. -/
def ConstructorsPresent (ds : List Declaration) : Prop :=
  ∀ c ∈ Declaration.listTree ds, c.defaultConstructor? = none

section Constructors

theorem constructorsPresent_cons {d : Declaration} {rest : List Declaration} :
    ConstructorsPresent (d :: rest) ↔
      (∀ c ∈ d.tree, c.defaultConstructor? = none) ∧ ConstructorsPresent rest := by
  rw [ConstructorsPresent, Declaration.listTree, List.forall_mem_append, ConstructorsPresent]

theorem ClassDecl.addDefaultConstructor_of_none {c : ClassDecl}
    (h : c.defaultConstructor? = none) : c.addDefaultConstructor = pure c := by
  rw [ClassDecl.addDefaultConstructor, h]

mutual

theorem ClassDecl.addDefaultConstructors_of_present (c : ClassDecl)
    (h : ∀ inner ∈ c.tree, inner.defaultConstructor? = none) :
    c.addDefaultConstructors = pure c := by
  obtain ⟨id, kind, modality, visibility, isLocal, isValue, isExpect, isExternal, isCompanion,
    typeParameters, supertypes, annotations, enumEntries, declarations, origin⟩ := c
  rw [ClassDecl.tree, List.forall_mem_cons] at h
  rw [ClassDecl.addDefaultConstructors,
    Declaration.addDefaultConstructorsList_of_present declarations h.2, Tally.pure_bind]
  exact ClassDecl.addDefaultConstructor_of_none h.1

theorem Declaration.addDefaultConstructorsList_of_present (ds : List Declaration)
    (h : ConstructorsPresent ds) : Declaration.addDefaultConstructorsList ds = pure ds := by
  cases ds with
  | nil => rfl
  | cons d rest =>
    obtain ⟨hFirst, hRest⟩ := constructorsPresent_cons.mp h
    have hDeclaration : d.addDefaultConstructors = pure d := by
      cases d with
      | ofClass decl =>
        rw [Declaration.addDefaultConstructors,
          ClassDecl.addDefaultConstructors_of_present decl hFirst, Tally.pure_bind]
      | function | constructor | property | field => rfl
    rw [Declaration.addDefaultConstructorsList, hDeclaration, Tally.pure_bind,
      Declaration.addDefaultConstructorsList_of_present rest hRest, Tally.pure_bind]

end

theorem ClassDecl.defaultConstructor?_of_parameterless {c : ClassDecl}
    (h : ∃ d ∈ c.constructors, d.valueParameters = []) : c.defaultConstructor? = none := by
  obtain ⟨d, hConstructor, hEmpty⟩ := h
  have hAny : c.constructors.any (·.valueParameters.isEmpty) = true :=
    List.any_eq_true.mpr ⟨d, hConstructor, by simp [hEmpty]⟩
  rw [ClassDecl.defaultConstructor?, if_pos (by simp [hAny])]

theorem ClassDecl.valueParameters_of_defaultConstructor? {c : ClassDecl} {d : ConstructorDecl}
    (h : c.defaultConstructor? = some d) : d.valueParameters = [] := by
  unfold ClassDecl.defaultConstructor? at h
  split at h
  · cases h
  · obtain ⟨target, _, h⟩ := Option.bind_eq_some_iff.mp h
    obtain ⟨defaults, _, h⟩ := Option.bind_eq_some_iff.mp h
    split at h
    · cases h
    · cases h
      rfl

-- The constructor that is added takes no parameters, so the class asks for no other.
theorem ClassDecl.present_addDefaultConstructor {c : ClassDecl}
    (h : ConstructorsPresent c.declarations) :
    ∀ inner ∈ c.addDefaultConstructor.value.tree, inner.defaultConstructor? = none := by
  rw [ClassDecl.tree_eq, List.forall_mem_cons]
  cases hDefault : c.defaultConstructor? with
  | none =>
    rw [ClassDecl.addDefaultConstructor_of_none hDefault]
    exact ⟨hDefault, h⟩
  | some d =>
    have hEmpty := ClassDecl.valueParameters_of_defaultConstructor? hDefault
    have hAdded : c.addDefaultConstructor =
        Tally.once { c with declarations := c.declarations ++ [.constructor d] } := by
      rw [ClassDecl.addDefaultConstructor, hDefault]
    rw [hAdded]
    constructor
    · refine ClassDecl.defaultConstructor?_of_parameterless ⟨d, ?_, hEmpty⟩
      simp [Tally.once, ClassDecl.constructors, Declaration.constructor?]
    · intro inner hInner
      rw [Tally.value_once, Declaration.listTree_append, List.mem_append] at hInner
      rcases hInner with hInner | hInner
      · exact h inner hInner
      · cases hInner

mutual

theorem ClassDecl.present_addDefaultConstructors (c : ClassDecl) :
    ∀ inner ∈ c.addDefaultConstructors.value.tree, inner.defaultConstructor? = none := by
  obtain ⟨id, kind, modality, visibility, isLocal, isValue, isExpect, isExternal, isCompanion,
    typeParameters, supertypes, annotations, enumEntries, declarations, origin⟩ := c
  rw [ClassDecl.addDefaultConstructors, Tally.value_bind]
  exact ClassDecl.present_addDefaultConstructor
    (Declaration.present_addDefaultConstructorsList declarations)

theorem Declaration.present_addDefaultConstructorsList (ds : List Declaration) :
    ConstructorsPresent (Declaration.addDefaultConstructorsList ds).value := by
  cases ds with
  | nil => exact nofun
  | cons d rest =>
    refine constructorsPresent_cons.mpr
      ⟨?_, Declaration.present_addDefaultConstructorsList rest⟩
    cases d with
    | ofClass decl => exact ClassDecl.present_addDefaultConstructors decl
    | function | constructor | property | field => exact nofun

end

end Constructors

def ClassDecl.hasEntryPoint (c : ClassDecl) : Bool := c.functions.any (·.origin = .entryPoint)

def ClassDecl.hasMain (c : ClassDecl) : Bool := c.functions.any FunctionDecl.isEntryPoint

/-- The facades of files among some declarations. -/
def fileFacades (ds : List Declaration) : List ClassDecl :=
  (ds.filterMap Declaration.class?).filter (·.origin = .fileFacade)

/-- The first facade with an entry point or a `main` has an entry point. -/
def EntryPointPresent (ds : List Declaration) : Prop :=
  ∀ c, (fileFacades ds).find? (fun c => c.hasEntryPoint || c.hasMain) = some c →
    c.hasEntryPoint = true

section EntryPoints

variable {ds : List Declaration}

theorem entryPointPresent_first {c : ClassDecl} (hOrigin : c.origin = .fileFacade)
    (h : c.hasEntryPoint = true ∨ c.hasMain = true) :
    EntryPointPresent (.ofClass c :: ds) ↔ c.hasEntryPoint = true := by
  have hFound : (fileFacades (.ofClass c :: ds)).find? (fun c => c.hasEntryPoint || c.hasMain) =
      some c := by
    simp [fileFacades, Declaration.class?, hOrigin, h]
  simp [EntryPointPresent, hFound]

theorem entryPointPresent_other {d : Declaration}
    (h : ∀ c, d = .ofClass c → c.origin ≠ .fileFacade) :
    EntryPointPresent (d :: ds) ↔ EntryPointPresent ds := by
  have hFacades : fileFacades (d :: ds) = fileFacades ds := by
    cases d with
    | ofClass c => simp [fileFacades, Declaration.class?, h c rfl]
    | function | constructor | property | field => rfl
  rw [EntryPointPresent, hFacades, EntryPointPresent]

theorem entryPointPresent_rest {c : ClassDecl} (hOrigin : c.origin = .fileFacade)
    (hEntry : ¬ c.hasEntryPoint = true)
    (hMain : c.functions.find? FunctionDecl.isEntryPoint = none) :
    EntryPointPresent (.ofClass c :: ds) ↔ EntryPointPresent ds := by
  have hNoMain : c.hasMain = false := by simpa [ClassDecl.hasMain] using hMain
  have hFacades : fileFacades (.ofClass c :: ds) = c :: fileFacades ds := by
    simp [fileFacades, Declaration.class?, hOrigin]
  rw [EntryPointPresent, hFacades, List.find?_cons_of_neg (by simp [hEntry, hNoMain]),
    EntryPointPresent]

theorem entryPointPresent_addEntryPointTo (ds : List Declaration) :
    EntryPointPresent (addEntryPointTo ds).value := by
  fun_induction addEntryPointTo ds with
  | case1 =>
    intro c hFind
    cases hFind
  | case2 facade rest hOrigin hPresent =>
    exact (entryPointPresent_first hOrigin (.inl hPresent)).mpr hPresent
  | case3 facade rest hOrigin hAbsent main hMain wrapper =>
    let extended : ClassDecl := { facade with declarations := facade.declarations ++ [wrapper] }
    have hEntry : extended.hasEntryPoint = true := by
      simp [extended, ClassDecl.hasEntryPoint, ClassDecl.functions, wrapper,
        Declaration.function?, entryWrapper]
    have hExtended : extended.origin = .fileFacade := hOrigin
    exact (entryPointPresent_first hExtended (.inl hEntry)).mpr hEntry
  | case4 facade rest hOrigin hAbsent hNoMain ih =>
    exact (entryPointPresent_rest hOrigin hAbsent hNoMain).mpr ih
  | case5 facade rest hOrigin ih =>
    refine (entryPointPresent_other ?_).mpr ih
    rintro _ ⟨⟩
    exact hOrigin
  | case6 d rest hOther ih =>
    exact (entryPointPresent_other fun c hClass => (hOther c hClass).elim).mpr ih

theorem addEntryPointTo_of_present (h : EntryPointPresent ds) :
    addEntryPointTo ds = pure ds := by
  fun_induction addEntryPointTo ds with
  | case1 => rfl
  | case2 facade rest hOrigin hPresent => rfl
  | case3 facade rest hOrigin hAbsent main hMain wrapper =>
    have hHasMain : facade.hasMain = true :=
      List.any_eq_true.mpr ⟨main, List.mem_of_find?_eq_some hMain, List.find?_some hMain⟩
    exact absurd ((entryPointPresent_first hOrigin (.inr hHasMain)).mp h) hAbsent
  | case4 facade rest hOrigin hAbsent hNoMain ih =>
    rw [ih ((entryPointPresent_rest hOrigin hAbsent hNoMain).mp h)]
    rfl
  | case5 facade rest hOrigin ih =>
    have hOther : ∀ c, Declaration.ofClass facade = .ofClass c → c.origin ≠ .fileFacade := by
      rintro _ ⟨⟩
      exact hOrigin
    rw [ih ((entryPointPresent_other hOther).mp h)]
    rfl
  | case6 d rest hOther ih =>
    rw [ih ((entryPointPresent_other fun c hClass => (hOther c hClass).elim).mp h)]
    rfl

end EntryPoints

section Steps

theorem stepSettles_foldStep : StepSettles foldStep := by
  intro e e' hStep _
  obtain ⟨c, _, rfl⟩ := Option.map_eq_some_iff.mp hStep
  rw [Expression.nodes, settledIn_cons]
  refine ⟨?_, settledIn_nil⟩
  rintro _ ⟨⟩
  rfl

theorem intrinsicFor?_callee (i : Intrinsic) : intrinsicFor? i.callee = none := by
  have hOther : ∀ entry ∈ intrinsics, entry.1.class? ≠ some intrinsicsClass := by decide
  have hCallee : i.callee.class? = some intrinsicsClass := rfl
  rw [intrinsicFor?, List.lookup_eq_none_iff]
  intro entry hEntry
  rw [bne_iff_ne]
  intro hSame
  exact hOther entry hEntry (hSame ▸ hCallee)

theorem stepSettles_intrinsicStep : StepSettles intrinsicStep := by
  intro e e' hStep hParts
  cases e with
  | call c =>
    obtain ⟨i, _, hSome⟩ := Option.bind_eq_some_iff.mp hStep
    obtain ⟨c', hc, rfl⟩ := Option.map_eq_some_iff.mp hSome
    unfold Call.withIntrinsic? at hc
    split at hc
    · cases hc
    · obtain ⟨operands, hFits, rfl⟩ := Option.map_eq_some_iff.mp hc
      have hOperands : ∀ e, some e ∈ operands.map some → SettledIn intrinsicStep e.nodes := by
        intro e he
        obtain ⟨_, he, ⟨⟩⟩ := List.mem_map.mp he
        exact hParts.of_subset (Call.nodes_subset (mem_of_fittingOperands? hFits e he))
      simp only [Expression.nodes, Call.nodes, settledIn_cons, settledIn_append,
        Expression.optionNodes, settledIn_nil, settledIn_callable, settledIn_types, settledIn_type,
        settledIn_argumentNodes, and_true, true_and]
      refine ⟨?_, hOperands⟩
      rintro _ ⟨⟩
      -- A function of the platform has no intrinsic itself.
      simp [intrinsicStep, intrinsicFor?_callee]
  | constant | readValue | self | readField | object | construct | concatenation |
    typeOperation | «when» | block | unsupported => simp [intrinsicStep] at hStep

end Steps

section Moves

variable {m : SourceModule}

theorem SourceModule.revise_step_nil (m : SourceModule) : m.revise (Moves.step []) = pure m := by
  refine SourceModule.revise_of_settled m fun e _ => ?_
  cases e <;> rfl

theorem relocateExternals_eq_retarget (declared : List ClassId) (m : SourceModule) :
    (relocateExternals declared m).value =
      (m.withFacades declared).retarget (m.externalMoves declared) := by
  rw [relocateExternals_value]
  split
  · rename_i hEmpty
    have hMoves : m.externalMoves declared = [] := by
      rw [SourceModule.externalMoves, List.isEmpty_iff.mp hEmpty, List.flatMap_nil]
    rw [SourceModule.withFacades_of_isEmpty hEmpty, hMoves, SourceModule.retarget,
      SourceModule.revise_step_nil, Tally.value_pure]
  · rfl

theorem SourceModule.forall_retarget {p : Declaration → Bool} {moves : Moves}
    (hp : IgnoresBodies p) (h : ∀ f ∈ m.files, ∀ d ∈ f.declarations, p d = true) :
    ∀ f ∈ (m.retarget moves).files, ∀ d ∈ f.declarations, p d = true := by
  intro f hf d hd
  rw [SourceModule.retarget, SourceModule.files_revise] at hf
  obtain ⟨f₀, hf₀, rfl⟩ := List.mem_map.mp hf
  rw [SourceFile.declarations_revise] at hd
  obtain ⟨d₀, hd₀, rfl⟩ := List.mem_map.mp hd
  rw [hp moves.step d₀]
  exact h f₀ hf₀ d₀ hd₀

/-- No callable at file level names a class that the module does not declare. -/
def SourceModule.NoExternals (m : SourceModule) : Prop :=
  ∀ f ∈ m.files, ∀ d ∈ f.declarations, d.externalContainer? m.declaredClasses = none

theorem relocateExternals_of_none (h : m.NoExternals) :
    relocateExternals m.declaredClasses m = pure m := by
  have hEmpty : m.externals m.declaredClasses = [] := by
    refine List.eq_nil_iff_forall_not_mem.mpr fun ⟨container, d⟩ hMem => ?_
    obtain ⟨f, hf, hd, hContainer⟩ := SourceModule.mem_externals.mp hMem
    rw [h f hf d hd] at hContainer
    cases hContainer
  rw [relocateExternals, hEmpty]
  rfl

theorem Declaration.externalContainer?_mono {declared declared' : List ClassId} {d : Declaration}
    (hMore : declared ⊆ declared') (h : d.externalContainer? declared = none) :
    d.externalContainer? declared' = none := by
  refine Option.eq_none_iff_forall_ne_some.mpr fun container hLater => ?_
  obtain ⟨id, hid, hClass, hNew⟩ := Declaration.externalContainer?_eq_some_iff.mp hLater
  have hSome : d.externalContainer? declared = some container :=
    Declaration.externalContainer?_eq_some_iff.mpr ⟨id, hid, hClass, fun hOld => hNew (hMore hOld)⟩
  rw [h] at hSome
  cases hSome

theorem declaredClasses_subset_relocateExternals (declared : List ClassId) (m : SourceModule) :
    m.declaredClasses ⊆ (relocateExternals declared m).value.declaredClasses := by
  rw [view_relocateExternals SourceModule.declaredClasses
      (fun m moves => SourceModule.declaredClasses_revise moves.step m) m,
    SourceModule.declaredClasses_eq, SourceModule.declaredClasses_eq,
    SourceModule.allClasses_withFacades, List.map_append]
  exact List.subset_append_left _ _

theorem SourceModule.withFacades_stays (declared : List ClassId) (m : SourceModule) :
    ∀ f ∈ (m.withFacades declared).files, ∀ d ∈ f.declarations,
      (d.externalContainer? declared).isNone = true := by
  intro f hf d hd
  rcases List.mem_append.mp hf with hf | hf
  · obtain ⟨f₀, _, rfl⟩ := List.mem_map.mp hf
    exact (List.mem_filter.mp hd).2
  · obtain ⟨container, _, rfl⟩ := List.mem_map.mp hf
    rw [List.mem_singleton.mp hd]
    rfl

theorem relocateExternals_stays (declared : List ClassId) (m : SourceModule) :
    ∀ f ∈ (relocateExternals declared m).value.files, ∀ d ∈ f.declarations,
      (d.externalContainer? declared).isNone = true := by
  have hIgnores : IgnoresBodies fun d => (d.externalContainer? declared).isNone := by
    intro step d
    simp only [Declaration.externalContainer?, Declaration.callable?_revise]
  rw [relocateExternals_eq_retarget]
  exact SourceModule.forall_retarget hIgnores (SourceModule.withFacades_stays declared m)

theorem noExternals_relocateExternals (m : SourceModule) :
    (relocateExternals m.declaredClasses m).value.NoExternals := by
  intro f hf d hd
  have hNone := Option.isNone_iff_eq_none.mp (relocateExternals_stays m.declaredClasses m f hf d hd)
  exact Declaration.externalContainer?_mono (declaredClasses_subset_relocateExternals _ m) hNone

/-- No callable stands at file level. -/
def SourceModule.NoFileCallables (m : SourceModule) : Prop :=
  ∀ f ∈ m.files, ∀ d ∈ f.declarations, d.isCallable = false

theorem mergeFileFacades_of_none (h : m.NoFileCallables) : mergeFileFacades m = pure m := by
  have hCallables : ∀ f ∈ m.files, f.callables = [] := by
    intro f hf
    refine List.filter_eq_nil_iff.mpr fun d hd => ?_
    rw [h f hf d hd]
    exact Bool.false_ne_true
  have hMoves : m.files.flatMap (fun f => Moves.into f.facadeId f.callables) = [] := by
    refine List.flatMap_eq_nil_iff.mpr fun f hf => ?_
    rw [hCallables f hf]
    rfl
  have hFiles : Tally.each SourceFile.mergeFacade m.files = pure m.files := by
    refine Tally.each_eq_pure fun f hf => ?_
    rw [SourceFile.mergeFacade, if_pos (by rw [hCallables f hf]; rfl)]
  rw [mergeFileFacades, hMoves, hFiles, Tally.pure_bind, SourceModule.retarget,
    SourceModule.revise_step_nil]
  rfl

theorem noFileCallables_mergeFileFacades (m : SourceModule) :
    (mergeFileFacades m).value.NoFileCallables := by
  have hIgnores : IgnoresBodies fun d => !d.isCallable := by
    intro step d
    simp only [Declaration.isCallable, Declaration.callable?_revise]
  have hMerged : ∀ f ∈ m.withFileFacades.files, ∀ d ∈ f.declarations, (!d.isCallable) = true := by
    intro f hf d hd
    obtain ⟨f₀, _, rfl⟩ := List.mem_map.mp hf
    rw [SourceFile.mergeFacade_value] at hd
    split at hd
    · rename_i hEmpty
      have hNone := List.filter_eq_nil_iff.mp (List.isEmpty_iff.mp hEmpty) d hd
      simpa using hNone
    · rcases List.mem_append.mp hd with hd | hd
      · exact (List.mem_filter.mp hd).2
      · rw [List.mem_singleton.mp hd]
        rfl
  rw [mergeFileFacades_value]
  intro f hf d hd
  simpa using SourceModule.forall_retarget hIgnores hMerged f hf d hd

end Moves

/-- Nothing is left to do for a pass in a module. -/
def ModulePass.Settled : ModulePass → SourceModule → Prop
  | .relocateExternals, m => m.NoExternals
  | .stripExpected, m => ∀ f ∈ m.files, NoneExpected f.declarations
  | .foldConstants, m => SettledIn foldStep m.nodes
  | .mergeFileFacades, m => m.NoFileCallables

/-- Nothing is left to do for a pass in a file. -/
def FilePass.Settled : FilePass → SourceFile → Prop
  | .addEntryPoints, f => EntryPointPresent f.declarations
  | .useIntrinsics, f => SettledIn intrinsicStep f.nodes
  | .addDefaultConstructors, f => ConstructorsPresent f.declarations

theorem ModulePass.settled_run (pass : ModulePass) (known : ClassId → Bool) (m : SourceModule) :
    pass.Settled (pass.run (.ofModule known m) m).value := by
  cases pass with
  | relocateExternals => exact noExternals_relocateExternals m
  | stripExpected =>
    intro f hf
    simp only [ModulePass.run, KotlinBackend.stripExpected, Tally.value_bind, Tally.value_pure,
      Tally.value_each] at hf
    obtain ⟨f₀, _, rfl⟩ := List.mem_map.mp hf
    exact Declaration.noneExpected_withoutExpectedList f₀.declarations
  | foldConstants => exact SourceModule.settledIn_revise stepSettles_foldStep m
  | mergeFileFacades => exact noFileCallables_mergeFileFacades m

theorem ModulePass.run_of_settled {pass : ModulePass} {context : LoweringContext}
    {m : SourceModule} (hContext : context.declared = m.declaredClasses) (h : pass.Settled m) :
    pass.run context m = pure m := by
  cases pass with
  | relocateExternals =>
    rw [ModulePass.run, hContext]
    exact relocateExternals_of_none h
  | stripExpected =>
    have hFiles : Tally.each SourceFile.withoutExpected m.files = pure m.files := by
      refine Tally.each_eq_pure fun f hf => ?_
      rw [SourceFile.withoutExpected,
        Declaration.withoutExpectedList_of_none f.declarations (h f hf), Tally.pure_bind]
    rw [ModulePass.run, KotlinBackend.stripExpected, hFiles, Tally.pure_bind]
  | foldConstants => exact SourceModule.revise_of_settled m h
  | mergeFileFacades => exact mergeFileFacades_of_none h

theorem FilePass.settled_runOnFile (pass : FilePass) (f : SourceFile) :
    pass.Settled (pass.runOnFile f).value := by
  cases pass with
  | addEntryPoints => exact entryPointPresent_addEntryPointTo f.declarations
  | useIntrinsics => exact SourceFile.settledIn_revise stepSettles_intrinsicStep f
  | addDefaultConstructors => exact Declaration.present_addDefaultConstructorsList f.declarations

theorem FilePass.runOnFile_of_settled {pass : FilePass} {f : SourceFile} (h : pass.Settled f) :
    pass.runOnFile f = pure f := by
  cases pass with
  | addEntryPoints =>
    rw [FilePass.runOnFile, SourceFile.addEntryPoint, addEntryPointTo_of_present h,
      Tally.pure_bind]
  | useIntrinsics => exact SourceFile.revise_of_settled f h
  | addDefaultConstructors =>
    rw [FilePass.runOnFile, SourceFile.addDefaultConstructors,
      Declaration.addDefaultConstructorsList_of_present f.declarations h, Tally.pure_bind]

/-- What a pass makes of a module, in the context that belongs to the module. -/
def ModulePass.lowered (pass : ModulePass) (known : ClassId → Bool) (m : SourceModule) :
    SourceModule :=
  (pass.run (.ofModule known m) m).value

def FilePass.lowered (pass : FilePass) (f : SourceFile) : SourceFile := (pass.runOnFile f).value

/-- One run of a pass reaches the normal form of the pass, and from there a second run, with the
context that belongs to the result, changes nothing and counts nothing. -/
theorem passes_idempotent :
    (∀ (pass : ModulePass) (known : ClassId → Bool) (m : SourceModule),
      pass.Settled (pass.lowered known m) ∧
        pass.run ((LoweringContext.ofModule known m).refresh (pass.lowered known m))
          (pass.lowered known m) = ⟨pass.lowered known m, 0⟩) ∧
    (∀ (pass : FilePass) (f : SourceFile),
      pass.Settled (pass.lowered f) ∧ pass.runOnFile (pass.lowered f) = ⟨pass.lowered f, 0⟩) := by
  constructor
  · intro pass known m
    have hSettled : pass.Settled (pass.lowered known m) := pass.settled_run known m
    exact ⟨hSettled, ModulePass.run_of_settled rfl hSettled⟩
  · intro pass f
    have hSettled : pass.Settled (pass.lowered f) := pass.settled_runOnFile f
    exact ⟨hSettled, FilePass.runOnFile_of_settled hSettled⟩

end KotlinBackend
