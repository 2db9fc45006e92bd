import KotlinBackend.Lowering
import KotlinBackend.Proofs.Resolution.Conserves

/-!
# File passes conserve classes

What a file pass adds is made of what the file names already and of trusted classes: the wrapper of
a `main`, the intrinsics, and constructors that repeat default values.
-/

namespace KotlinBackend

section FilePasses

variable {P : ClassId → Prop}

theorem namesOnly_argumentNodes {es : List (Option Expression)} :
    NamesOnly P (Expression.argumentNodes es) ↔
      ∀ e ∈ es, NamesOnly P (Expression.optionNodes e) := by
  induction es with
  | nil => simp [Expression.argumentNodes]
  | cons e rest ih => simp [Expression.argumentNodes, ih]

theorem namesOnly_givenArguments {es : List Expression} :
    NamesOnly P (Expression.argumentNodes (es.map some)) ↔ ∀ e ∈ es, NamesOnly P e.nodes := by
  simp [namesOnly_argumentNodes, Expression.optionNodes]

theorem mem_of_fittingOperands? {operands : List (Option Expression)}
    {parameters : List SourceType} {es : List Expression}
    (h : fittingOperands? operands parameters = some es) : ∀ e ∈ es, some e ∈ operands := by
  fun_induction fittingOperands? operands parameters generalizing es with
  | case1 =>
    cases h
    simp
  | case2 operand operands parameter parameters hFits ih =>
    obtain ⟨rest, hRest, rfl⟩ := Option.map_eq_some_iff.mp h
    intro e he
    rcases List.mem_cons.mp he with rfl | he
    · exact List.mem_cons_self
    · exact List.mem_cons_of_mem _ (ih hRest e he)
  | case3 => cases h
  | case4 => cases h

theorem intrinsicStep_keeps (hTrusted : ∀ id, isTrustedPackage id.package = true → P id) :
    StepKeeps P intrinsicStep := by
  intro e e' hStep hNames
  cases e with
  | call c =>
    obtain ⟨i, _, hSome⟩ := Option.bind_eq_some_iff.mp hStep
    obtain ⟨c', hc, rfl⟩ := Option.map_eq_some_iff.mp hSome
    simp only [Expression.nodes, namesOnly_cons] at hNames
    unfold Call.withIntrinsic? at hc
    split at hc
    · cases hc
    · obtain ⟨operands, hFits, rfl⟩ := Option.map_eq_some_iff.mp hc
      have hOperands : ∀ e ∈ operands, NamesOnly P e.nodes := fun e he =>
        hNames.2.of_subset (Call.nodes_subset (mem_of_fittingOperands? hFits e he))
      have hType : NamesOnly P c.type.nodes := by
        obtain ⟨callee, dispatchReceiver, extensionReceiver, arguments, typeArguments, type⟩ := c
        simp only [Call.nodes, namesOnly_append] at hNames
        exact hNames.2.2
      have hClass : P intrinsicsClass := hTrusted intrinsicsClass (by decide)
      simp only [Expression.nodes, Call.nodes, namesOnly_cons, namesOnly_append]
      refine ⟨by simp [Node.class?], ⟨⟨⟨⟨?_, namesOnly_nil⟩, namesOnly_nil⟩, ?_⟩, ?_⟩, hType⟩
      · simp [namesOnly_callable, Intrinsic.callee, ClassId.member, CallableId.class?,
          Owner.class?, hClass]
      · exact namesOnly_givenArguments.mpr hOperands
      · simp [SourceType.listNodes]
  | constant | readValue | self | readField | object | construct | concatenation |
    typeOperation | «when» | block | unsupported => simp [intrinsicStep] at hStep

/-- The function that starts a program names its facade, what `main` names, and trusted classes. -/
theorem namesOnly_entryWrapper (hTrusted : ∀ id, isTrustedPackage id.package = true → P id)
    {facade : ClassId} {main : FunctionDecl} (hFacade : P facade) (hMain : NamesOnly P main.nodes) :
    NamesOnly P (entryWrapper facade main).nodes := by
  simp only [FunctionDecl.nodes, namesOnly_append] at hMain
  obtain ⟨⟨⟨⟨⟨⟨hId, _⟩, _⟩, _⟩, hReturn⟩, _⟩, _⟩ := hMain
  have hArguments : NamesOnly P argumentsType.nodes := by
    refine namesOnly_type.mpr fun id hid => hTrusted id ?_
    have hAll : ∀ id ∈ argumentsType.classIds, isTrustedPackage id.package = true := by decide
    exact hAll id hid
  have hUnit : NamesOnly P SourceType.unit.nodes := by
    refine namesOnly_type.mpr fun id hid => hTrusted id ?_
    have hAll : ∀ id ∈ SourceType.unit.classIds, isTrustedPackage id.package = true := by decide
    exact hAll id hid
  have hCall : NamesOnly P main.startCall.nodes := by
    simp only [FunctionDecl.startCall, Call.nodes, namesOnly_append]
    refine ⟨⟨⟨⟨⟨hId, namesOnly_nil⟩, namesOnly_nil⟩, ?_⟩, by simp [SourceType.listNodes]⟩, hReturn⟩
    split
    · exact namesOnly_nil
    · simp [Expression.argumentNodes, Expression.optionNodes, Expression.nodes, Node.class?,
        hArguments]
  have hMember : NamesOnly P (facade.member "Main").nodes := by
    simp [namesOnly_callable, ClassId.member, CallableId.class?, Owner.class?, hFacade]
  simp [entryWrapper, FunctionDecl.nodes, ValueParameter.nodes, bodyNodes, Statement.listNodes,
    Statement.nodes, Expression.nodes, Expression.optionNodes, Node.class?, hArguments, hUnit,
    hCall, hMember]

theorem ClassDecl.namesOnly_member {c : ClassDecl} (h : NamesOnly P c.nodes) :
    ∀ d ∈ c.declarations, NamesOnly P d.nodes := by
  obtain ⟨cid, kind, modality, visibility, isLocal, isValue, isExpect, isExternal, isCompanion,
    typeParameters, supertypes, annotations, enumEntries, declarations, origin⟩ := c
  simp only [ClassDecl.nodes, namesOnly_cons, namesOnly_append, namesOnly_listNodes] at h
  exact h.2.2

theorem FunctionDecl.namesOnly_of_mem {c : ClassDecl} {d : FunctionDecl}
    (h : NamesOnly P c.nodes) (hd : d ∈ c.functions) : NamesOnly P d.nodes := by
  obtain ⟨member, hMember, hFunction⟩ := List.mem_filterMap.mp hd
  have hNodes := ClassDecl.namesOnly_member h member hMember
  cases member with
  | function decl =>
    obtain rfl : decl = d := by simpa [Declaration.function?] using hFunction
    simp only [Declaration.nodes, namesOnly_cons] at hNodes
    exact hNodes.2
  | ofClass | constructor | property | field => simp [Declaration.function?] at hFunction

/-- A class with one more member names what it named and what the member names. -/
theorem ClassDecl.namesOnly_addMember {c : ClassDecl} {d : Declaration}
    (h : NamesOnly P c.nodes) (hd : NamesOnly P d.nodes) :
    NamesOnly P ({ c with declarations := c.declarations ++ [d] } : ClassDecl).nodes := by
  obtain ⟨cid, kind, modality, visibility, isLocal, isValue, isExpect, isExternal, isCompanion,
    typeParameters, supertypes, annotations, enumEntries, declarations, origin⟩ := c
  simp only [ClassDecl.nodes, namesOnly_cons, namesOnly_append, namesOnly_listNodes,
    List.forall_mem_append, List.forall_mem_singleton] at h ⊢
  exact ⟨h.1, h.2.1, h.2.2, hd⟩

theorem ClassDecl.actualClasses_addMember {c : ClassDecl} {d : Declaration}
    (h : d.actualClasses = []) :
    ({ c with declarations := c.declarations ++ [d] } : ClassDecl).actualClasses =
      c.actualClasses := by
  have hList (ds : List Declaration) :
      Declaration.listActualClasses (ds ++ [d]) = Declaration.listActualClasses ds := by
    induction ds with
    | nil => simp [Declaration.listActualClasses, h]
    | cons first rest ih => simp [Declaration.listActualClasses, ih]
  obtain ⟨cid, kind, modality, visibility, isLocal, isValue, isExpect, isExternal, isCompanion,
    typeParameters, supertypes, annotations, enumEntries, declarations, origin⟩ := c
  simp [ClassDecl.actualClasses, hList]

theorem ClassDecl.names_id {c : ClassDecl} (h : NamesOnly P c.nodes) : P c.id := by
  obtain ⟨cid, kind, modality, visibility, isLocal, isValue, isExpect, isExternal, isCompanion,
    typeParameters, supertypes, annotations, enumEntries, declarations, origin⟩ := c
  simp only [ClassDecl.nodes, namesOnly_cons] at h
  exact h.1 cid rfl

theorem namesOnly_addEntryPointTo (hTrusted : ∀ id, isTrustedPackage id.package = true → P id)
    (ds : List Declaration) (h : NamesOnly P (Declaration.listNodes ds)) :
    NamesOnly P (Declaration.listNodes (addEntryPointTo ds).value) := by
  fun_induction addEntryPointTo ds with
  | case1 => exact namesOnly_nil
  | case2 facade rest hOrigin hPresent => exact h
  | case3 facade rest hOrigin hAbsent main hMain wrapper =>
    simp only [Declaration.listNodes, Declaration.nodes, namesOnly_cons, namesOnly_append] at h
    simp only [Tally.value_once, Declaration.listNodes, Declaration.nodes, namesOnly_cons,
      namesOnly_append]
    refine ⟨⟨h.1.1, ClassDecl.namesOnly_addMember h.1.2 ?_⟩, h.2⟩
    simp only [wrapper, Declaration.nodes, namesOnly_cons]
    exact ⟨by simp [Node.class?], namesOnly_entryWrapper hTrusted (ClassDecl.names_id h.1.2)
      (FunctionDecl.namesOnly_of_mem h.1.2 (List.mem_of_find?_eq_some hMain))⟩
  | case4 facade rest hOrigin hAbsent hNoMain ih =>
    simp only [Declaration.listNodes, namesOnly_append] at h
    exact namesOnly_append.mpr ⟨h.1, ih h.2⟩
  | case5 facade rest hOrigin ih =>
    simp only [Declaration.listNodes, namesOnly_append] at h
    exact namesOnly_append.mpr ⟨h.1, ih h.2⟩
  | case6 d rest hOther ih =>
    simp only [Declaration.listNodes, namesOnly_append] at h
    exact namesOnly_append.mpr ⟨h.1, ih h.2⟩

theorem listActualClasses_addEntryPointTo (ds : List Declaration) :
    Declaration.listActualClasses (addEntryPointTo ds).value =
      Declaration.listActualClasses ds := by
  fun_induction addEntryPointTo ds with
  | case1 => rfl
  | case2 facade rest hOrigin hPresent => rfl
  | case3 facade rest hOrigin hAbsent main hMain wrapper =>
    simp only [Tally.value_once, Declaration.listActualClasses, Declaration.actualClasses]
    rw [ClassDecl.actualClasses_addMember rfl]
  | case4 facade rest hOrigin hAbsent hNoMain ih =>
    simp [Declaration.listActualClasses, ih]
  | case5 facade rest hOrigin ih => simp [Declaration.listActualClasses, ih]
  | case6 d rest hOther ih => simp [Declaration.listActualClasses, ih]

theorem exists_of_mem_mapM {α β : Type} {f : α → Option β} {items : List α} {results : List β}
    (h : items.mapM f = some results) : ∀ b ∈ results, ∃ a ∈ items, f a = some b := by
  induction items generalizing results with
  | nil =>
    cases h
    simp
  | cons a rest ih =>
    simp only [List.mapM_cons, Option.bind_eq_bind, Option.bind_eq_some_iff] at h
    obtain ⟨b, hb, tail, hTail, hResults⟩ := h
    obtain rfl : b :: tail = results := by simpa using hResults
    intro b' hMem
    rcases List.mem_cons.mp hMem with rfl | hMem
    · exact ⟨a, List.mem_cons_self, hb⟩
    · obtain ⟨a', ha', hSome⟩ := ih hTail b' hMem
      exact ⟨a', List.mem_cons_of_mem _ ha', hSome⟩

theorem ClassDecl.mem_constructors_of_onlyConstructor? {c : ClassDecl} {d : ConstructorDecl}
    (h : c.onlyConstructor? = some d) : d ∈ c.constructors := by
  unfold ClassDecl.onlyConstructor? at h
  split at h
  · rename_i target hFilter
    obtain rfl : target = d := by simpa using h
    have hMem : target ∈ c.constructors.filter (·.visibility.isAccessible) := by simp [hFilter]
    exact (List.mem_filter.mp hMem).1
  · cases h

theorem ConstructorDecl.namesOnly_of_mem {c : ClassDecl} {d : ConstructorDecl}
    (h : NamesOnly P c.nodes) (hd : d ∈ c.constructors) : NamesOnly P d.nodes := by
  obtain ⟨member, hMember, hConstructor⟩ := List.mem_filterMap.mp hd
  have hNodes := ClassDecl.namesOnly_member h member hMember
  cases member with
  | constructor decl =>
    obtain rfl : decl = d := by simpa [Declaration.constructor?] using hConstructor
    simp only [Declaration.nodes, namesOnly_cons] at hNodes
    exact hNodes.2
  | ofClass | function | property | field => simp [Declaration.constructor?] at hConstructor

/-- The constructor without parameters names its class and what the defaults name. -/
theorem ClassDecl.namesOnly_defaultConstructor? {c : ClassDecl} {d : ConstructorDecl}
    (h : NamesOnly P c.nodes) (hd : c.defaultConstructor? = some d) : NamesOnly P d.nodes := by
  unfold ClassDecl.defaultConstructor? at hd
  split at hd
  · cases hd
  · obtain ⟨target, hTarget, hd⟩ := Option.bind_eq_some_iff.mp hd
    obtain ⟨defaults, hDefaults, hd⟩ := Option.bind_eq_some_iff.mp hd
    split at hd
    · cases hd
    · obtain rfl : target.parameterless c.id defaults = d := by simpa using hd
      have hNodes := ConstructorDecl.namesOnly_of_mem h
        (ClassDecl.mem_constructors_of_onlyConstructor? hTarget)
      simp only [ConstructorDecl.nodes, namesOnly_cons, namesOnly_append, namesOnly_flatMap]
        at hNodes
      have hArguments : ∀ e ∈ defaults, NamesOnly P e.nodes := by
        intro e he
        obtain ⟨p, hp, hDefault⟩ := exists_of_mem_mapM hDefaults e he
        have hParameter := hNodes.2.1.1 p hp
        simp only [ValueParameter.nodes, namesOnly_cons, namesOnly_append, hDefault] at hParameter
        exact hParameter.2.2
      have hId := ClassDecl.names_id h
      simp [ConstructorDecl.parameterless, ConstructorDecl.nodes, bodyNodes, Node.class?, hId,
        namesOnly_givenArguments.mpr hArguments]

theorem ClassDecl.namesOnly_addDefaultConstructor {c : ClassDecl} (h : NamesOnly P c.nodes) :
    NamesOnly P c.addDefaultConstructor.value.nodes := by
  unfold ClassDecl.addDefaultConstructor
  split
  · rename_i d hd
    refine ClassDecl.namesOnly_addMember h ?_
    simp only [Declaration.nodes, namesOnly_cons]
    exact ⟨by simp [Node.class?], ClassDecl.namesOnly_defaultConstructor? h hd⟩
  · exact h

theorem ClassDecl.actualClasses_addDefaultConstructor (c : ClassDecl) :
    c.addDefaultConstructor.value.actualClasses = c.actualClasses := by
  unfold ClassDecl.addDefaultConstructor
  split
  · exact ClassDecl.actualClasses_addMember rfl
  · rfl

mutual

theorem ClassDecl.namesOnly_addDefaultConstructors (c : ClassDecl) (h : NamesOnly P c.nodes) :
    NamesOnly P c.addDefaultConstructors.value.nodes := by
  obtain ⟨cid, kind, modality, visibility, isLocal, isValue, isExpect, isExternal, isCompanion,
    typeParameters, supertypes, annotations, enumEntries, declarations, origin⟩ := c
  simp only [ClassDecl.nodes, namesOnly_cons, namesOnly_append] at h
  simp only [ClassDecl.addDefaultConstructors, Tally.value_bind]
  refine ClassDecl.namesOnly_addDefaultConstructor ?_
  simp only [ClassDecl.nodes, namesOnly_cons, namesOnly_append]
  exact ⟨h.1, h.2.1, Declaration.namesOnly_addDefaultConstructorsList declarations h.2.2⟩

theorem Declaration.namesOnly_addDefaultConstructors (d : Declaration)
    (h : NamesOnly P d.nodes) : NamesOnly P d.addDefaultConstructors.value.nodes := by
  cases d with
  | ofClass decl =>
    simp only [Declaration.nodes, namesOnly_cons] at h
    exact namesOnly_cons.mpr
      ⟨by simp [Node.class?], ClassDecl.namesOnly_addDefaultConstructors decl h.2⟩
  | function | constructor | property | field => exact h

theorem Declaration.namesOnly_addDefaultConstructorsList (ds : List Declaration)
    (h : NamesOnly P (Declaration.listNodes ds)) :
    NamesOnly P (Declaration.listNodes (Declaration.addDefaultConstructorsList ds).value) := by
  cases ds with
  | nil => exact namesOnly_nil
  | cons d rest =>
    simp only [Declaration.listNodes, namesOnly_append] at h
    exact namesOnly_append.mpr ⟨Declaration.namesOnly_addDefaultConstructors d h.1,
      Declaration.namesOnly_addDefaultConstructorsList rest h.2⟩

end

mutual

theorem ClassDecl.actualClasses_addDefaultConstructors (c : ClassDecl) :
    c.addDefaultConstructors.value.actualClasses = c.actualClasses := by
  obtain ⟨cid, kind, modality, visibility, isLocal, isValue, isExpect, isExternal, isCompanion,
    typeParameters, supertypes, annotations, enumEntries, declarations, origin⟩ := c
  simp only [ClassDecl.addDefaultConstructors, Tally.value_bind,
    ClassDecl.actualClasses_addDefaultConstructor]
  simp [ClassDecl.actualClasses,
    Declaration.listActualClasses_addDefaultConstructors declarations]

theorem Declaration.actualClasses_addDefaultConstructors (d : Declaration) :
    d.addDefaultConstructors.value.actualClasses = d.actualClasses := by
  cases d with
  | ofClass decl => exact ClassDecl.actualClasses_addDefaultConstructors decl
  | function | constructor | property | field => rfl

theorem Declaration.listActualClasses_addDefaultConstructors (ds : List Declaration) :
    Declaration.listActualClasses (Declaration.addDefaultConstructorsList ds).value =
      Declaration.listActualClasses ds := by
  cases ds with
  | nil => rfl
  | cons d rest =>
    simp [Declaration.addDefaultConstructorsList, Declaration.listActualClasses,
      Declaration.actualClasses_addDefaultConstructors d,
      Declaration.listActualClasses_addDefaultConstructors rest]

end

theorem FilePass.namesOnly_runOnFile
    (hTrusted : ∀ id, isTrustedPackage id.package = true → P id) (pass : FilePass)
    (f : SourceFile) (h : NamesOnly P f.nodes) :
    NamesOnly P (pass.runOnFile f).value.nodes := by
  have hDeclarations : NamesOnly P (Declaration.listNodes f.declarations) := by
    simp only [SourceFile.nodes, namesOnly_cons] at h
    exact h.2
  cases pass with
  | addEntryPoints =>
    exact namesOnly_cons.mpr
      ⟨by simp [Node.class?], namesOnly_addEntryPointTo hTrusted _ hDeclarations⟩
  | useIntrinsics => exact SourceFile.namesOnly_revise (intrinsicStep_keeps hTrusted) f h
  | addDefaultConstructors =>
    exact namesOnly_cons.mpr
      ⟨by simp [Node.class?], Declaration.namesOnly_addDefaultConstructorsList _ hDeclarations⟩

end FilePasses

theorem FilePass.listActualClasses_runOnFile (pass : FilePass) (f : SourceFile) :
    Declaration.listActualClasses (pass.runOnFile f).value.declarations =
      Declaration.listActualClasses f.declarations := by
  cases pass with
  | addEntryPoints => exact listActualClasses_addEntryPointTo f.declarations
  | useIntrinsics => exact Declaration.listActualClasses_revise f.declarations
  | addDefaultConstructors =>
    exact Declaration.listActualClasses_addDefaultConstructors f.declarations

theorem FilePass.conserves (pass : FilePass) (m : SourceModule) :
    Conserves m (pass.run m).value := by
  have hFiles : (pass.run m).value.files = m.files.map fun f => (pass.runOnFile f).value := by
    simp [FilePass.run, Tally.value_each]
  constructor
  · intro id hid
    simpa [SourceModule.actualClasses, hFiles, List.flatMap_map,
      FilePass.listActualClasses_runOnFile] using hid
  · have hNamed := mayName_of_named m (pass.run m).value
    rw [namesOnly_module] at hNamed ⊢
    rw [hFiles]
    intro file hFile
    obtain ⟨f, hf, rfl⟩ := List.mem_map.mp hFile
    exact pass.namesOnly_runOnFile (fun id h => .inr (.inr h)) f (hNamed f hf)

end KotlinBackend
