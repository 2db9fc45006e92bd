import KotlinBackend.Proofs.EntryPoint.Tracked

/-!
# Adding an entry point

A file whose functions are all in its facade gets an entry point there if one of them is a `main`.
Which one is called depends on the heads of the functions that moved into the facade.
-/

namespace KotlinBackend

/-- The parameters that a `main` may have. -/
inductive StartParameters : List ValueParameter → Prop
  | nothing : StartParameters []
  | arguments {p : ValueParameter} : p.type.isStringArray = true → p.isVararg = false →
    StartParameters [p]

/-- The function that calls `main` in a class. -/
def startWrapper (holder : ClassId) (main : FunctionDecl) : FunctionDecl :=
  { id := holder.member "Main"
    valueParameters := [{ name := "args", type := .arrayOf .string }]
    returnType := .unit
    body := some [.evaluate (.call
      { callee := holder.member "main"
        dispatchReceiver := none
        extensionReceiver := none
        arguments :=
          if main.valueParameters.isEmpty then []
          else [some (.readValue "args" (.arrayOf .string))]
        typeArguments := []
        type := main.returnType })]
    isStatic := true
    origin := .entryPoint }

/-- A function as a static member of a class. -/
def FunctionDecl.movedInto (holder : ClassId) (d : FunctionDecl) : FunctionDecl :=
  { d with id := holder.member d.id.name, isStatic := true }

def SourceFile.allFunctions (f : SourceFile) : List FunctionDecl :=
  f.declarations.flatMap Declaration.allFunctions

def SourceFile.entryPoints (f : SourceFile) : List FunctionDecl :=
  f.allFunctions.filter fun d => d.origin = .entryPoint

/-- The one entry point of a file calls a `main`, and both are in the facade of the file. -/
structure SourceFile.HasStart (f : SourceFile) (holder : ClassId) (main : FunctionDecl) :
    Prop where
  entryPoints : f.entryPoints = [startWrapper holder main]
  facade : ∃ facade ∈ f.classes, facade.id = holder ∧ facade.origin = .fileFacade ∧
    startWrapper holder main ∈ facade.functions ∧
    (main.movedInto holder).head ∈ facade.functions.map FunctionDecl.head

section Heads

variable {d main : FunctionDecl} {holder : ClassId}

/-- Whether a function is an entry point once it is in a facade. -/
def FunctionDecl.isMain (d : FunctionDecl) : Bool :=
  ({ d with isStatic := true } : FunctionDecl).isEntryPoint

theorem FunctionDecl.isEntryPoint_head : d.head.isEntryPoint = d.isEntryPoint := by
  obtain ⟨id, typeParameters, extensionReceiver, valueParameters, returnType, body, isStatic,
    visibility, modality, isExpect, isExternal, isOperator, annotations, origin⟩ := d
  have hReceiver : (extensionReceiver.map ValueParameter.head).isNone =
      extensionReceiver.isNone := Option.isNone_map
  simp only [FunctionDecl.isEntryPoint, FunctionDecl.head, hReceiver]
  rcases valueParameters with _ | ⟨p, _ | ⟨q, rest⟩⟩ <;> rfl

theorem FunctionDecl.isMain_head : d.head.isMain = d.isMain :=
  FunctionDecl.isEntryPoint_head (d := { d with isStatic := true })

theorem startParameters_singleton {p : ValueParameter} :
    StartParameters [p] ↔ p.type.isStringArray = true ∧ p.isVararg = false := by
  constructor
  · rintro (_ | ⟨hType, hVararg⟩)
    exact ⟨hType, hVararg⟩
  · rintro ⟨hType, hVararg⟩
    exact .arguments hType hVararg

theorem FunctionDecl.isMain_iff :
    d.isMain = true ↔ d.id.name = "main" ∧ d.typeParameters = [] ∧ d.extensionReceiver = none ∧
      StartParameters d.valueParameters := by
  obtain ⟨id, typeParameters, extensionReceiver, valueParameters, returnType, body, isStatic,
    visibility, modality, isExpect, isExternal, isOperator, annotations, origin⟩ := d
  simp only [FunctionDecl.isMain, FunctionDecl.isEntryPoint, Bool.and_eq_true, beq_iff_eq,
    List.isEmpty_iff, Option.isNone_iff_eq_none, and_true, and_assoc]
  rcases valueParameters with _ | ⟨p, _ | ⟨q, rest⟩⟩
  · simp only [StartParameters.nothing]
  · simp only [Bool.and_eq_true, Bool.not_eq_true', startParameters_singleton]
  · have hMany : ¬ StartParameters (p :: q :: rest) := by
      intro h
      cases h
    simp only [hMany, Bool.false_eq_true]

theorem startWrapper_head : startWrapper holder main.head = startWrapper holder main := by
  have hEmpty : main.head.valueParameters.isEmpty = main.valueParameters.isEmpty :=
    List.isEmpty_map
  rw [startWrapper, hEmpty]
  rfl

/-- The function that is added calls the `main` that was found, whatever became of its body. -/
theorem entryWrapper_eq {moved : FunctionDecl} (hHead : moved.head = main.movedInto holder)
    (hName : main.id.name = "main") : entryWrapper holder moved = startWrapper holder main := by
  have hId : moved.id = holder.member "main" := by
    rw [← hName]
    exact congrArg FunctionDecl.id hHead
  have hReturn : moved.returnType = main.returnType := by
    have hHeads : moved.head.returnType = (main.movedInto holder).returnType := by rw [hHead]
    exact hHeads
  have hParameters : moved.valueParameters.isEmpty = main.valueParameters.isEmpty := by
    have hMapped : moved.valueParameters.map ValueParameter.head = main.valueParameters :=
      congrArg FunctionDecl.valueParameters hHead
    rw [← hMapped, List.isEmpty_map]
  rw [entryWrapper, FunctionDecl.startCall, hId, hReturn, hParameters]
  rfl

end Heads

section Facade

variable {f : SourceFile} {holder : ClassId} {heads : List FunctionDecl}

/-- A class holds functions with given heads, moved into it, and is the facade of a file. -/
structure IsFileFacade (holder : ClassId) (heads : List FunctionDecl) (facade : ClassDecl) :
    Prop where
  id : facade.id = holder
  origin : facade.origin = .fileFacade
  members : ∀ d ∈ facade.declarations, d.class? = none
  heads : facade.functions.map FunctionDecl.head = heads.map (FunctionDecl.movedInto holder)
  quiet : ∀ d ∈ facade.declarations, d.Quiet

/-- Functions with given heads are in a facade behind everything else, which is quiet. -/
inductive SourceFile.Merged (f : SourceFile) (holder : ClassId) (heads : List FunctionDecl) : Prop
  | without : f.Quiet → heads = [] → Merged f holder heads
  | within {others : List Declaration} {facade : ClassDecl} :
    f.declarations = others ++ [.ofClass facade] → (∀ d ∈ others, d.Quiet) →
    IsFileFacade holder heads facade → Merged f holder heads

theorem functions_facadeClass {origin : Origin} {members : List Declaration} :
    (facadeClass holder origin (members.map (Declaration.moveInto holder))).functions =
      (members.filterMap Declaration.function?).map (FunctionDecl.movedInto holder) := by
  rw [facadeClass, ClassDecl.functions, List.filterMap_map, List.map_filterMap]
  exact List.filterMap_congr fun d _ => Declaration.function?_moveInto holder d

theorem isFileFacade_mergeFacade (hQuiet : f.Quiet) :
    IsFileFacade f.facadeId f.heads
      (facadeClass f.facadeId .fileFacade
        (f.callables.map (Declaration.moveInto f.facadeId))) where
  id := rfl
  origin := rfl
  members := by
    intro d hd
    obtain ⟨member, hMember, rfl⟩ := List.mem_map.mp hd
    have hCallable := (List.mem_filter.mp hMember).2
    cases member with
    | function | property => rfl
    | ofClass | constructor | field => cases hCallable
  heads := by
    rw [functions_facadeClass, f.filterMap_callables, SourceFile.heads, List.map_map,
      List.map_map]
    rfl
  quiet := by
    intro d hd
    obtain ⟨member, hMember, rfl⟩ := List.mem_map.mp hd
    exact Declaration.quiet_moveInto (hQuiet member (List.mem_filter.mp hMember).1)

theorem IsFileFacade.revise {facade : ClassDecl} (h : IsFileFacade holder heads facade)
    (step : Expression → Option Expression) :
    IsFileFacade holder heads (facade.revise step).value where
  id := (facade.id_revise step).trans h.id
  origin := by
    rw [← h.origin]
    cases facade
    rfl
  members := by
    intro d hd
    rw [ClassDecl.declarations_revise] at hd
    obtain ⟨member, hMember, rfl⟩ := List.mem_map.mp hd
    have hClass := h.members member hMember
    cases member with
    | ofClass => cases hClass
    | function | constructor | property | field => rfl
  heads := by
    rw [← h.heads, ClassDecl.functions, ClassDecl.functions, ClassDecl.declarations_revise,
      ← Declaration.reviseList_value]
    exact Declaration.heads_reviseList step facade.declarations
  quiet := by
    intro d hd
    rw [ClassDecl.declarations_revise] at hd
    obtain ⟨member, hMember, rfl⟩ := List.mem_map.mp hd
    exact Declaration.quiet_revise step member (h.quiet member hMember)

theorem SourceFile.merged_mergeFacade (hQuiet : f.Quiet) :
    f.mergeFacade.value.Merged f.facadeId f.heads := by
  rw [SourceFile.mergeFacade_value]
  split
  case isTrue hNone =>
    refine .without hQuiet ?_
    rw [SourceFile.heads, ← f.filterMap_callables, List.isEmpty_iff.mp hNone]
    rfl
  case isFalse =>
    exact .within rfl (fun d hd => hQuiet d (List.mem_filter.mp hd).1)
      (isFileFacade_mergeFacade hQuiet)

theorem SourceFile.Merged.revise (h : f.Merged holder heads)
    (step : Expression → Option Expression) : (f.revise step).value.Merged holder heads := by
  cases h with
  | without hQuiet hHeads => exact .without (hQuiet.revise step) hHeads
  | @within others facade hDeclarations hQuiet hFacade =>
    have hRevised : (f.revise step).value.declarations =
        (Declaration.reviseList step others).value ++ [.ofClass (facade.revise step).value] := by
      rw [SourceFile.declarations_revise, hDeclarations, List.map_append,
        Declaration.reviseList_value]
      rfl
    exact .within hRevised (Declaration.quiet_reviseList step others hQuiet)
      (hFacade.revise step)

end Facade

section Added

variable {f : SourceFile} {holder : ClassId} {heads : List FunctionDecl} {main : FunctionDecl}

/-- A file starts with the first `main` among some functions that moved into its facade. -/
structure SourceFile.StartsAs (f : SourceFile) (holder : ClassId) (heads : List FunctionDecl) :
    Prop where
  nothing : heads.find? FunctionDecl.isMain = none → f.entryPoints = []
  first : ∀ main, heads.find? FunctionDecl.isMain = some main → f.HasStart holder main

theorem addEntryPointTo_append {others rest : List Declaration} (h : ∀ d ∈ others, d.Quiet) :
    (addEntryPointTo (others ++ rest)).value = others ++ (addEntryPointTo rest).value := by
  induction others with
  | nil => rfl
  | cons d others ih =>
    obtain ⟨hFirst, hOthers⟩ := List.forall_mem_cons.mp h
    have hRest := congrArg (d :: ·) (ih hOthers)
    cases d with
    | ofClass c =>
      have hOrigin := (Declaration.quiet_ofClass.mp hFirst).1
      rw [List.cons_append, addEntryPointTo, if_neg hOrigin]
      exact hRest
    | function | constructor | property | field => exact hRest

theorem filter_entryPoint_of_quiet {ds : List Declaration} (h : ∀ d ∈ ds, d.Quiet) :
    (ds.flatMap Declaration.allFunctions).filter (fun d => d.origin = .entryPoint) = [] := by
  rw [List.filter_eq_nil_iff]
  intro fn hfn
  obtain ⟨d, hd, hfn⟩ := List.mem_flatMap.mp hfn
  rw [decide_eq_true_eq]
  exact (h d hd).functions fn hfn

theorem allFunctions_ofClass {c : ClassDecl} (h : ∀ d ∈ c.declarations, d.class? = none) :
    (Declaration.ofClass c).allFunctions = c.functions := by
  have hTree : c.tree = [c] := by
    rw [ClassDecl.tree_eq, Declaration.listTree_eq_flatMap, List.flatMap_eq_nil_iff.mpr]
    intro d hd
    have hClass := h d hd
    cases d with
    | ofClass => cases hClass
    | function | constructor | property | field => rfl
  rw [Declaration.allFunctions, Declaration.tree, hTree]
  exact List.append_nil _

/-- The first `main` in a facade is the first among the functions that moved into it. -/
theorem IsFileFacade.find? {facade : ClassDecl} (h : IsFileFacade holder heads facade) :
    (facade.functions.find? FunctionDecl.isEntryPoint).map FunctionDecl.head =
      (heads.find? FunctionDecl.isMain).map (FunctionDecl.movedInto holder) := by
  have hHead : FunctionDecl.isEntryPoint ∘ FunctionDecl.head = FunctionDecl.isEntryPoint :=
    funext fun _ => FunctionDecl.isEntryPoint_head
  have hMoved : FunctionDecl.isEntryPoint ∘ FunctionDecl.movedInto holder = FunctionDecl.isMain :=
    rfl
  calc _ = (facade.functions.map FunctionDecl.head).find? FunctionDecl.isEntryPoint := by
        rw [List.find?_map, hHead]
    _ = (heads.map (FunctionDecl.movedInto holder)).find? FunctionDecl.isEntryPoint := by
        rw [h.heads]
    _ = _ := by rw [List.find?_map, hMoved]

theorem IsFileFacade.filter_entryPoint {facade : ClassDecl}
    (h : IsFileFacade holder heads facade) :
    facade.functions.filter (fun d => d.origin = .entryPoint) = [] := by
  rw [List.filter_eq_nil_iff]
  intro fn hfn
  rw [decide_eq_true_eq]
  exact Declaration.quiet_function.mp (h.quiet _ (ClassDecl.mem_functions.mp hfn))

theorem SourceFile.entryPoints_of_facade {others : List Declaration} {facade : ClassDecl}
    (hDeclarations : f.declarations = others ++ [.ofClass facade])
    (hQuiet : ∀ d ∈ others, d.Quiet) (hMembers : ∀ d ∈ facade.declarations, d.class? = none) :
    f.entryPoints = facade.functions.filter fun d => d.origin = .entryPoint := by
  rw [SourceFile.entryPoints, SourceFile.allFunctions, hDeclarations, List.flatMap_append,
    List.filter_append, filter_entryPoint_of_quiet hQuiet, List.flatMap_singleton,
    allFunctions_ofClass hMembers, List.nil_append]

/-- A class with one more function. -/
def ClassDecl.addFunction (c : ClassDecl) (d : FunctionDecl) : ClassDecl :=
  { c with declarations := c.declarations ++ [.function d] }

theorem ClassDecl.functions_addFunction (c : ClassDecl) (d : FunctionDecl) :
    (c.addFunction d).functions = c.functions ++ [d] := by
  simp [ClassDecl.functions, ClassDecl.addFunction, Declaration.function?]

/-- A facade in which no `main` is found stays as it is. -/
theorem IsFileFacade.addEntryPointTo_of_none {facade : ClassDecl}
    (h : IsFileFacade holder heads facade)
    (hFind : facade.functions.find? FunctionDecl.isEntryPoint = none) :
    (addEntryPointTo [.ofClass facade]).value = [.ofClass facade] := by
  rw [addEntryPointTo, if_pos h.origin]
  split
  · rfl
  · rw [hFind]
    rfl

theorem IsFileFacade.addEntryPointTo_of_some {facade : ClassDecl} {moved : FunctionDecl}
    (h : IsFileFacade holder heads facade)
    (hFind : facade.functions.find? FunctionDecl.isEntryPoint = some moved) :
    (addEntryPointTo [.ofClass facade]).value =
      [.ofClass (facade.addFunction (entryWrapper holder moved))] := by
  have hAbsent : facade.functions.any (fun d => d.origin = .entryPoint) = false := by
    rw [List.any_eq_false]
    exact List.filter_eq_nil_iff.mp h.filter_entryPoint
  rw [addEntryPointTo, if_pos h.origin, hAbsent, if_neg Bool.false_ne_true, hFind, ← h.id]
  rfl

theorem IsFileFacade.hasStart {others : List Declaration} {facade : ClassDecl}
    {moved : FunctionDecl} (h : IsFileFacade holder heads facade)
    (hAdded : f.declarations =
      others ++ [.ofClass (facade.addFunction (startWrapper holder main))])
    (hQuiet : ∀ d ∈ others, d.Quiet) (hMoved : moved ∈ facade.functions)
    (hHead : moved.head = main.movedInto holder) : f.HasStart holder main := by
  have hMembers : ∀ d ∈ (facade.addFunction (startWrapper holder main)).declarations,
      d.class? = none := by
    rw [ClassDecl.addFunction, List.forall_mem_append, List.forall_mem_singleton]
    exact ⟨h.members, rfl⟩
  constructor
  · rw [SourceFile.entryPoints_of_facade hAdded hQuiet hMembers,
      ClassDecl.functions_addFunction, List.filter_append, h.filter_entryPoint]
    rfl
  · refine ⟨facade.addFunction (startWrapper holder main), ?_, h.id, h.origin, ?_, ?_⟩
    · rw [SourceFile.classes, hAdded, List.filterMap_append]
      exact List.mem_append_right _ List.mem_cons_self
    · rw [ClassDecl.functions_addFunction]
      exact List.mem_append_right _ List.mem_cons_self
    · rw [ClassDecl.functions_addFunction, List.map_append, ← hHead, FunctionDecl.head_head]
      exact List.mem_append_left _ (List.mem_map_of_mem hMoved)

theorem SourceFile.Merged.startsAs (h : f.Merged holder heads) :
    f.addEntryPoint.value.StartsAs holder heads := by
  cases h with
  | without hQuiet hHeads =>
    have hSame : f.addEntryPoint.value.declarations = f.declarations := by
      have hAppend : (addEntryPointTo (f.declarations ++ [])).value = f.declarations ++ [] :=
        addEntryPointTo_append hQuiet
      rw [List.append_nil] at hAppend
      exact hAppend
    refine ⟨fun _ => ?_, fun main hMain => ?_⟩
    · rw [SourceFile.entryPoints, SourceFile.allFunctions, hSame]
      exact filter_entryPoint_of_quiet hQuiet
    · rw [hHeads] at hMain
      cases hMain
  | @within others facade hDeclarations hQuiet hFacade =>
    have hAdded : f.addEntryPoint.value.declarations =
        others ++ (addEntryPointTo [.ofClass facade]).value := by
      rw [← addEntryPointTo_append hQuiet, ← hDeclarations]
      rfl
    have hFind := hFacade.find?
    cases hMoved : facade.functions.find? FunctionDecl.isEntryPoint with
    | none =>
      rw [hMoved, Option.map_none, eq_comm, Option.map_eq_none_iff] at hFind
      rw [hFacade.addEntryPointTo_of_none hMoved] at hAdded
      refine ⟨fun _ => ?_, fun main hMain => ?_⟩
      · rw [SourceFile.entryPoints_of_facade hAdded hQuiet hFacade.members,
          hFacade.filter_entryPoint]
      · rw [hFind] at hMain
        cases hMain
    | some moved =>
      rw [hMoved, Option.map_some, eq_comm, Option.map_eq_some_iff] at hFind
      obtain ⟨main, hMain, hHead⟩ := hFind
      have hName : main.id.name = "main" :=
        (FunctionDecl.isMain_iff.mp (List.find?_some hMain)).1
      rw [hFacade.addEntryPointTo_of_some hMoved, entryWrapper_eq hHead.symm hName] at hAdded
      refine ⟨fun hNone => ?_, fun other hOther => ?_⟩
      · rw [hMain] at hNone
        cases hNone
      · obtain rfl : main = other := Option.some.inj (hMain.symm.trans hOther)
        exact hFacade.hasStart hAdded hQuiet (List.mem_of_find?_eq_some hMoved) hHead.symm

end Added

end KotlinBackend
