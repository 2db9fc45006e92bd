import KotlinBackend.Proofs.Call.Overload
import KotlinBackend.Proofs.Settled.Passes

/-!
# Functions on their way through the passes

What decides on entry points is how functions are declared, not what their bodies say: passes over
expressions leave it alone, and the passes that drop or move declarations act on it in plain ways.
Here that is said for the functions of a file outside of classes, in their order, and for all
declarations of a file that have neither a facade of a file nor an entry point in them.
-/

namespace KotlinBackend

def ValueParameter.head (p : ValueParameter) : ValueParameter := { p with defaultValue := none }

/-- A function without its body and the default values of its parameters. -/
def FunctionDecl.head (d : FunctionDecl) : FunctionDecl :=
  { d with
    extensionReceiver := d.extensionReceiver.map ValueParameter.head
    valueParameters := d.valueParameters.map ValueParameter.head
    body := none }

def SourceFile.heads (f : SourceFile) : List FunctionDecl := f.functions.map FunctionDecl.head

theorem FunctionDecl.head_head (d : FunctionDecl) : d.head.head = d.head := by
  have hParameter : ValueParameter.head ∘ ValueParameter.head = ValueParameter.head := rfl
  simp only [FunctionDecl.head, Option.map_map, List.map_map, hParameter]

theorem FunctionDecl.head_revise (step : Expression → Option Expression) (d : FunctionDecl) :
    (d.revise step).value.head = d.head := by
  have hReceiver : ((Tally.each (·.revise step) d.extensionReceiver.toList).value.head?).map
      ValueParameter.head = d.extensionReceiver.map ValueParameter.head := by
    cases d.extensionReceiver <;> rfl
  have hParameters : (Tally.each (·.revise step) d.valueParameters).value.map
      ValueParameter.head = d.valueParameters.map ValueParameter.head := by
    rw [Tally.value_each, List.map_map]
    exact List.map_congr_left fun _ _ => rfl
  simp only [FunctionDecl.revise, FunctionDecl.head, Tally.value_bind, Tally.value_pure,
    hReceiver, hParameters]

theorem Declaration.heads_reviseList (step : Expression → Option Expression)
    (ds : List Declaration) :
    ((Declaration.reviseList step ds).value.filterMap Declaration.function?).map
        FunctionDecl.head =
      (ds.filterMap Declaration.function?).map FunctionDecl.head := by
  rw [Declaration.reviseList_value, List.filterMap_map, List.map_filterMap, List.map_filterMap]
  refine List.filterMap_congr fun d _ => ?_
  simp only [Function.comp, Declaration.function?_revise, Option.map_map]
  exact congrArg (Option.map · d.function?) (funext (FunctionDecl.head_revise step))

theorem SourceFile.heads_revise (step : Expression → Option Expression) (f : SourceFile) :
    (f.revise step).value.heads = f.heads :=
  Declaration.heads_reviseList step f.declarations

theorem filterMap_function?_filter {keep : Declaration → Bool} (keepFunction : FunctionDecl → Bool)
    (h : ∀ d, keep (.function d) = keepFunction d) (ds : List Declaration) :
    (ds.filter keep).filterMap Declaration.function? =
      (ds.filterMap Declaration.function?).filter keepFunction := by
  rw [List.filterMap_filter, List.filter_filterMap]
  refine List.filterMap_congr fun d _ => ?_
  cases d with
  | function decl => simp [Declaration.function?, Option.filter, h decl]
  | ofClass | constructor | property | field => simp [Declaration.function?]

/-- A function does not name a class that the module lacks. -/
def FunctionDecl.stays (declared : List ClassId) (d : FunctionDecl) : Bool :=
  ((Declaration.function d).externalContainer? declared).isNone

theorem SourceFile.heads_withoutExternals (declared : List ClassId) (f : SourceFile) :
    (f.withoutExternals declared).heads = f.heads.filter (FunctionDecl.stays declared) := by
  rw [SourceFile.heads, SourceFile.functions, SourceFile.withoutExternals,
    filterMap_function?_filter (FunctionDecl.stays declared) (fun _ => rfl), SourceFile.heads,
    List.filter_map]
  rfl

theorem Declaration.withoutExpectedList_value (ds : List Declaration) :
    (Declaration.withoutExpectedList ds).value =
      (ds.filter fun d => !d.isExpect).map fun d => d.withoutExpected.value := by
  induction ds with
  | nil => rfl
  | cons d rest ih =>
    cases h : d.isExpect with
    | true => simp [Declaration.withoutExpectedList, h, ih]
    | false => simp [Declaration.withoutExpectedList, h, ih]

theorem SourceFile.heads_withoutExpected (f : SourceFile) :
    f.withoutExpected.value.heads = f.heads.filter (fun d => !d.isExpect) := by
  have hFunction (d : Declaration) : d.withoutExpected.value.function? = d.function? := by
    cases d <;> rfl
  have hFunctions : f.withoutExpected.value.functions =
      f.functions.filter (fun d => !d.isExpect) := by
    rw [SourceFile.functions, SourceFile.withoutExpected, Tally.value_bind, Tally.value_pure,
      Declaration.withoutExpectedList_value, List.filterMap_map]
    calc _ = (f.declarations.filter fun d => !d.isExpect).filterMap Declaration.function? :=
          List.filterMap_congr fun d _ => hFunction d
      _ = f.functions.filter (fun d => !d.isExpect) :=
          filterMap_function?_filter (fun d => !d.isExpect) (fun _ => rfl) f.declarations
  rw [SourceFile.heads, hFunctions, SourceFile.heads, List.filter_map]
  rfl

/-- The functions of a declaration, at any depth. -/
def Declaration.allFunctions (d : Declaration) : List FunctionDecl :=
  d.function?.toList ++ d.tree.flatMap ClassDecl.functions

/-- There is no facade of a file and no entry point in a declaration. -/
structure Declaration.Quiet (d : Declaration) : Prop where
  classes : ∀ c ∈ d.tree, c.origin ≠ .fileFacade
  functions : ∀ fn ∈ d.allFunctions, fn.origin ≠ .entryPoint

def SourceFile.Quiet (f : SourceFile) : Prop := ∀ d ∈ f.declarations, d.Quiet

theorem Declaration.quiet_function {fn : FunctionDecl} :
    (Declaration.function fn).Quiet ↔ fn.origin ≠ .entryPoint := by
  constructor
  · intro h
    exact h.functions fn List.mem_cons_self
  · intro h
    refine ⟨List.forall_mem_nil _, fun other hOther => ?_⟩
    obtain rfl := List.mem_singleton.mp hOther
    exact h

theorem ClassDecl.mem_functions {c : ClassDecl} {fn : FunctionDecl} :
    fn ∈ c.functions ↔ .function fn ∈ c.declarations := by
  rw [ClassDecl.functions, List.mem_filterMap]
  constructor
  · rintro ⟨d, hd, hFunction⟩
    cases d with
    | function decl =>
      obtain rfl := Option.some.inj hFunction
      exact hd
    | ofClass | constructor | property | field => cases hFunction
  · intro h
    exact ⟨.function fn, h, rfl⟩

theorem Declaration.quiet_ofClass {c : ClassDecl} :
    (Declaration.ofClass c).Quiet ↔ c.origin ≠ .fileFacade ∧ ∀ d ∈ c.declarations, d.Quiet := by
  have hTree : (Declaration.ofClass c).tree = c :: c.declarations.flatMap Declaration.tree := by
    rw [Declaration.tree, ClassDecl.tree_eq, Declaration.listTree_eq_flatMap]
  have hFunctions (fn : FunctionDecl) : fn ∈ (Declaration.ofClass c).allFunctions ↔
      ∃ d ∈ c.declarations, fn ∈ d.allFunctions := by
    simp only [Declaration.allFunctions, hTree, Declaration.function?, Option.toList_none,
      List.nil_append, List.flatMap_cons, List.mem_append, List.mem_flatMap, Option.mem_toList,
      ClassDecl.functions, List.mem_filterMap]
    constructor
    · rintro (⟨d, hd, hfn⟩ | ⟨inner, ⟨d, hd, hInner⟩, hfn⟩)
      · exact ⟨d, hd, .inl hfn⟩
      · exact ⟨d, hd, .inr ⟨inner, hInner, hfn⟩⟩
    · rintro ⟨d, hd, hfn | ⟨inner, hInner, hfn⟩⟩
      · exact .inl ⟨d, hd, hfn⟩
      · exact .inr ⟨inner, ⟨d, hd, hInner⟩, hfn⟩
  constructor
  · rintro ⟨hClasses, hFunctions'⟩
    rw [hTree, List.forall_mem_cons] at hClasses
    refine ⟨hClasses.1, fun d hd => ⟨fun inner hInner => ?_, fun fn hfn => ?_⟩⟩
    · exact hClasses.2 inner (List.mem_flatMap.mpr ⟨d, hd, hInner⟩)
    · exact hFunctions' fn ((hFunctions fn).mpr ⟨d, hd, hfn⟩)
  · rintro ⟨hOrigin, hQuiet⟩
    constructor
    · rw [hTree, List.forall_mem_cons]
      refine ⟨hOrigin, fun inner hInner => ?_⟩
      obtain ⟨d, hd, hInner⟩ := List.mem_flatMap.mp hInner
      exact (hQuiet d hd).classes inner hInner
    · intro fn hfn
      obtain ⟨d, hd, hfn⟩ := (hFunctions fn).mp hfn
      exact (hQuiet d hd).functions fn hfn

theorem Declaration.quiet_of_none {d : Declaration} (hClass : d.class? = none)
    (hFunction : d.function? = none) : d.Quiet := by
  cases d with
  | ofClass | function => simp [Declaration.class?, Declaration.function?] at hClass hFunction
  | constructor | property | field => exact ⟨List.forall_mem_nil _, List.forall_mem_nil _⟩

mutual

theorem Declaration.quiet_revise (step : Expression → Option Expression) (d : Declaration)
    (h : d.Quiet) : (d.revise step).value.Quiet := by
  cases d with
  | ofClass c =>
    obtain ⟨id, kind, modality, visibility, isLocal, isValue, isExpect, isExternal, isCompanion,
      typeParameters, supertypes, annotations, enumEntries, declarations, origin⟩ := c
    obtain ⟨hOrigin, hMembers⟩ := Declaration.quiet_ofClass.mp h
    exact Declaration.quiet_ofClass.mpr
      ⟨hOrigin, Declaration.quiet_reviseList step declarations hMembers⟩
  | function decl =>
    have hOrigin : decl.origin ≠ .entryPoint := Declaration.quiet_function.mp h
    exact Declaration.quiet_function.mpr hOrigin
  | constructor | property | field => exact Declaration.quiet_of_none rfl rfl

theorem Declaration.quiet_reviseList (step : Expression → Option Expression)
    (ds : List Declaration) (h : ∀ d ∈ ds, d.Quiet) :
    ∀ d ∈ (Declaration.reviseList step ds).value, d.Quiet := by
  cases ds with
  | nil => exact List.forall_mem_nil _
  | cons d rest =>
    obtain ⟨hFirst, hRest⟩ := List.forall_mem_cons.mp h
    exact List.forall_mem_cons.mpr
      ⟨Declaration.quiet_revise step d hFirst, Declaration.quiet_reviseList step rest hRest⟩

end

mutual

theorem Declaration.quiet_withoutExpected (d : Declaration) (h : d.Quiet) :
    d.withoutExpected.value.Quiet := by
  cases d with
  | ofClass c =>
    obtain ⟨id, kind, modality, visibility, isLocal, isValue, isExpect, isExternal, isCompanion,
      typeParameters, supertypes, annotations, enumEntries, declarations, origin⟩ := c
    obtain ⟨hOrigin, hMembers⟩ := Declaration.quiet_ofClass.mp h
    exact Declaration.quiet_ofClass.mpr
      ⟨hOrigin, Declaration.quiet_withoutExpectedList declarations hMembers⟩
  | function | constructor | property | field => exact h

theorem Declaration.quiet_withoutExpectedList (ds : List Declaration) (h : ∀ d ∈ ds, d.Quiet) :
    ∀ d ∈ (Declaration.withoutExpectedList ds).value, d.Quiet := by
  cases ds with
  | nil => exact List.forall_mem_nil _
  | cons d rest =>
    obtain ⟨hFirst, hRest⟩ := List.forall_mem_cons.mp h
    rw [Declaration.withoutExpectedList]
    split
    · exact Declaration.quiet_withoutExpectedList rest hRest
    · exact List.forall_mem_cons.mpr
        ⟨Declaration.quiet_withoutExpected d hFirst,
          Declaration.quiet_withoutExpectedList rest hRest⟩

end

theorem Declaration.quiet_moveInto {holder : ClassId} {d : Declaration} (h : d.Quiet) :
    (d.moveInto holder).Quiet := by
  cases d with
  | function decl =>
    have hOrigin : decl.origin ≠ .entryPoint := Declaration.quiet_function.mp h
    exact Declaration.quiet_function.mpr hOrigin
  | property => exact Declaration.quiet_of_none rfl rfl
  | ofClass | constructor | field => exact h

section Files

variable {f : SourceFile}

theorem SourceFile.Quiet.revise (h : f.Quiet) (step : Expression → Option Expression) :
    (f.revise step).value.Quiet :=
  Declaration.quiet_reviseList step f.declarations h

theorem SourceFile.Quiet.withoutExpected (h : f.Quiet) : f.withoutExpected.value.Quiet :=
  Declaration.quiet_withoutExpectedList f.declarations h

theorem SourceFile.Quiet.withoutExternals (h : f.Quiet) (declared : List ClassId) :
    (f.withoutExternals declared).Quiet :=
  fun d hd => h d (List.mem_filter.mp hd).1

/-- The files that a relocation adds have functions in their facades only. -/
theorem SourceModule.externalFiles_quiet {declared : List ClassId} {m : SourceModule}
    (h : ∀ f ∈ m.files, f.Quiet) (hf : f ∈ m.externalFiles declared) :
    f.Quiet ∧ f.heads = [] := by
  obtain ⟨container, _, rfl⟩ := List.mem_map.mp hf
  refine ⟨fun d hd => ?_, rfl⟩
  obtain rfl := List.mem_singleton.mp hd
  refine Declaration.quiet_ofClass.mpr ⟨by simp [facadeClass], fun moved hMoved => ?_⟩
  obtain ⟨member, hMember, rfl⟩ := List.mem_map.mp hMoved
  obtain ⟨f, hf, hMem, _⟩ :=
    SourceModule.mem_externals.mp (SourceModule.mem_externalMembers.mp hMember)
  exact Declaration.quiet_moveInto (h f hf member hMem)

end Files

end KotlinBackend
