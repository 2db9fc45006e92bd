import KotlinBackend.Proofs.Call.Moved

/-!
# Overloads behind calls

Overloads share one identifier, so a call names a class and a name, and the number of its arguments
tells which function is meant. After a relocation the class that a re-pointed call names always has
that function. After the merge of files into facades it need not: the overloads of one package may
be in several files, and all calls go to the facade of the last one.
-/

namespace KotlinBackend

/-- The functions of a file outside of classes. -/
def SourceFile.functions (f : SourceFile) : List FunctionDecl :=
  f.declarations.filterMap Declaration.function?

theorem SourceFile.mem_functions {f : SourceFile} {d : FunctionDecl} :
    d ∈ f.functions ↔ .function d ∈ f.declarations := by
  rw [SourceFile.functions, List.mem_filterMap]
  constructor
  · rintro ⟨member, hMember, hFunction⟩
    cases member with
    | function decl =>
      obtain rfl : decl = d := by simpa [Declaration.function?] using hFunction
      exact hMember
    | ofClass | constructor | property | field => simp [Declaration.function?] at hFunction
  · exact fun h => ⟨.function d, h, rfl⟩

/-- Among some functions there is one of a name with a number of parameters. -/
def HasOverload (functions : List FunctionDecl) (name : String) (count : Nat) : Prop :=
  ∃ d ∈ functions, d.id.name = name ∧ d.valueParameters.length = count

/-- A class of an identifier has a function of a name with a number of parameters. -/
def SourceModule.Offers (m : SourceModule) (holder : ClassId) (name : String) (count : Nat) :
    Prop :=
  ∃ c ∈ m.allClasses, c.id = holder ∧ HasOverload c.functions name count

/-- The class that a call names has a function for it. -/
def SourceModule.FindsOverload (m : SourceModule) (site : CallSite) : Prop :=
  ∃ holder, site.callee.class? = some holder ∧ m.Offers holder site.callee.name site.arguments

/-- What is called is a function at file level. -/
def SourceModule.HasFileFunction (m : SourceModule) (site : CallSite) : Prop :=
  ∃ f ∈ m.files, ∃ d ∈ f.functions,
    d.id = site.callee ∧ d.valueParameters.length = site.arguments

instance (functions : List FunctionDecl) (name : String) (count : Nat) :
    Decidable (HasOverload functions name count) :=
  inferInstanceAs (Decidable (∃ d ∈ functions, _))

instance (m : SourceModule) (holder : ClassId) (name : String) (count : Nat) :
    Decidable (m.Offers holder name count) :=
  inferInstanceAs (Decidable (∃ c ∈ m.allClasses, _))

instance (m : SourceModule) (site : CallSite) : Decidable (m.HasFileFunction site) :=
  inferInstanceAs (Decidable (∃ f ∈ m.files, _))

section Functions

variable {name : String} {count : Nat}

/-- What a function is found by. -/
def FunctionDecl.signature (d : FunctionDecl) : CallableId × Nat := (d.id, d.valueParameters.length)

theorem FunctionDecl.signature_revise (step : Expression → Option Expression) (d : FunctionDecl) :
    (d.revise step).value.signature = d.signature := by
  simp [FunctionDecl.signature, FunctionDecl.revise, Tally.value_each]

theorem hasOverload_iff {functions : List FunctionDecl} :
    HasOverload functions name count ↔
      ∃ s ∈ functions.map FunctionDecl.signature, s.1.name = name ∧ s.2 = count := by
  simp [HasOverload, FunctionDecl.signature]

theorem Declaration.function?_revise (step : Expression → Option Expression) (d : Declaration) :
    (d.revise step).value.function? = d.function?.map fun f => (f.revise step).value := by
  cases d <;> rfl

theorem signatures_revise (step : Expression → Option Expression) (ds : List Declaration) :
    ((Declaration.reviseList step ds).value.filterMap Declaration.function?).map
        FunctionDecl.signature =
      (ds.filterMap Declaration.function?).map FunctionDecl.signature := by
  rw [Declaration.reviseList_value, List.filterMap_map, List.map_filterMap, List.map_filterMap]
  refine List.filterMap_congr fun d _ => ?_
  simp only [Function.comp, Declaration.function?_revise, Option.map_map]
  exact congrArg (Option.map · d.function?) (funext (FunctionDecl.signature_revise step))

theorem ClassDecl.hasOverload_revise (step : Expression → Option Expression) (c : ClassDecl) :
    HasOverload (c.revise step).value.functions name count ↔
      HasOverload c.functions name count := by
  obtain ⟨id, kind, modality, visibility, isLocal, isValue, isExpect, isExternal, isCompanion,
    typeParameters, supertypes, annotations, enumEntries, declarations, origin⟩ := c
  rw [hasOverload_iff, hasOverload_iff]
  simp [ClassDecl.revise, ClassDecl.functions, signatures_revise]

theorem SourceModule.offers_retarget (m : SourceModule) (moves : Moves) (holder : ClassId) :
    (m.retarget moves).Offers holder name count ↔ m.Offers holder name count := by
  simp [SourceModule.Offers, SourceModule.retarget, SourceModule.allClasses_revise,
    ClassDecl.id_revise, ClassDecl.hasOverload_revise]

theorem SourceModule.hasFileFunction_retarget (m : SourceModule) (moves : Moves)
    (site : CallSite) : (m.retarget moves).HasFileFunction site ↔ m.HasFileFunction site := by
  have hFile (f : SourceFile) :
      (∃ d ∈ f.functions, d.id = site.callee ∧ d.valueParameters.length = site.arguments) ↔
        (site.callee, site.arguments) ∈ f.functions.map FunctionDecl.signature := by
    simp [FunctionDecl.signature]
  have hRevised (f : SourceFile) : (f.revise moves.step).value.functions.map
      FunctionDecl.signature = f.functions.map FunctionDecl.signature :=
    signatures_revise moves.step f.declarations
  simp only [SourceModule.HasFileFunction, SourceModule.retarget, SourceModule.revise, hFile,
    Tally.value_bind, Tally.value_pure, Tally.value_each, List.mem_map, exists_exists_and_eq_and]
  simp only [← List.mem_map, hRevised]

theorem Declaration.function?_moveInto (holder : ClassId) (d : Declaration) :
    (d.moveInto holder).function? = d.function?.map fun f =>
      { f with id := holder.member f.id.name, isStatic := true } := by
  cases d <;> rfl

/-- Functions keep their names and parameters when they move into a facade. -/
theorem hasOverload_facade {id : ClassId} {origin : Origin} {members : List Declaration} :
    HasOverload (facadeClass id origin (members.map (Declaration.moveInto id))).functions name
        count ↔
      HasOverload (members.filterMap Declaration.function?) name count := by
  have hMoved : (members.map (Declaration.moveInto id)).filterMap Declaration.function? =
      (members.filterMap Declaration.function?).map fun f =>
        { f with id := id.member f.id.name, isStatic := true } := by
    rw [List.filterMap_map, List.map_filterMap]
    exact List.filterMap_congr fun d _ => Declaration.function?_moveInto id d
  simp [facadeClass, ClassDecl.functions, hMoved, HasOverload, ClassId.member]

end Functions

section Facades

variable {m : SourceModule} {holder : ClassId} {name : String} {count : Nat}

theorem SourceFile.filterMap_callables (f : SourceFile) :
    f.callables.filterMap Declaration.function? = f.functions := by
  rw [SourceFile.callables, SourceFile.functions, List.filterMap_filter]
  refine List.filterMap_congr fun d _ => ?_
  cases d <;> rfl

/-- After a merge a class offers what it did, and facades offer the functions of their files. -/
theorem offers_mergeFileFacades :
    (mergeFileFacades m).value.Offers holder name count ↔
      m.Offers holder name count ∨
        ∃ f ∈ m.files, f.facadeId = holder ∧ HasOverload f.functions name count := by
  rw [mergeFileFacades_value, SourceModule.offers_retarget]
  simp only [SourceModule.Offers, m.allClasses_withFileFacades.mem_iff, List.mem_append,
    or_and_right, exists_or, List.mem_filterMap]
  refine or_congr_right ?_
  constructor
  · rintro ⟨c, ⟨f, hf, hFacade⟩, hId, hOverload⟩
    unfold SourceFile.facade? at hFacade
    split at hFacade
    · cases hFacade
    · cases hFacade
      rw [hasOverload_facade, f.filterMap_callables] at hOverload
      exact ⟨f, hf, hId, hOverload⟩
  · rintro ⟨f, hf, rfl, hOverload⟩
    have hCallables : ¬ f.callables.isEmpty = true := by
      rw [← f.filterMap_callables] at hOverload
      obtain ⟨d, hd, _⟩ := hOverload
      obtain ⟨member, hMember, _⟩ := List.mem_filterMap.mp hd
      intro hEmpty
      rw [List.isEmpty_iff.mp hEmpty] at hMember
      cases hMember
    refine ⟨_, ⟨f, hf, by rw [SourceFile.facade?, if_neg hCallables]⟩, rfl, ?_⟩
    rw [hasOverload_facade, f.filterMap_callables]
    exact hOverload

/-- After a relocation the facade for an undeclared class offers the functions that name the
class. -/
theorem offers_relocateExternals {declared : List ClassId} :
    (relocateExternals declared m).value.Offers holder name count ↔
      m.Offers holder name count ∨
        ∃ container ∈ m.externalContainers declared, externalFacadeId container = holder ∧
          HasOverload ((m.externalMembers declared container).filterMap Declaration.function?)
            name count := by
  have hMoved : (m.withFacades declared).Offers holder name count ↔
      m.Offers holder name count ∨
        ∃ container ∈ m.externalContainers declared, externalFacadeId container = holder ∧
          HasOverload ((m.externalMembers declared container).filterMap Declaration.function?)
            name count := by
    simp only [SourceModule.Offers, m.allClasses_withFacades declared, List.mem_append,
      or_and_right, exists_or, List.mem_map, exists_exists_and_eq_and]
    refine or_congr_right (exists_congr fun container => and_congr_right fun _ => ?_)
    rw [SourceModule.externalFacade, hasOverload_facade]
    rfl
  rw [← hMoved]
  exact iff_of_eq (view_relocateExternals (·.Offers holder name count)
    (fun m moves => propext (m.offers_retarget moves holder)) m)

end Facades

section Calls

variable {declared : List ClassId} {m : SourceModule} {site : CallSite}

/-- A callable names a class that is not declared. -/
def CallableId.NamesUndeclared (declared : List ClassId) (id : CallableId) : Prop :=
  ∃ container, id.class? = some container ∧ container ∉ declared

theorem SourceModule.HasFileFunction.hasCallable (h : m.HasFileFunction site) :
    m.HasCallable site.callee := by
  obtain ⟨f, hf, d, hd, hId, _⟩ := h
  exact ⟨f, hf, .function d, SourceFile.mem_functions.mp hd, congrArg some hId⟩

/-- A call that a relocation re-points finds its function in the facade. -/
theorem findsOverload_relocateExternals (h : m.HasFileFunction site)
    (hUndeclared : site.callee.NamesUndeclared declared) :
    (relocateExternals declared m).value.FindsOverload
      ((m.externalMoves declared).follow site) := by
  obtain ⟨container, hClass, hDeclared⟩ := hUndeclared
  have hFollow := SourceModule.callee_follow_externalMoves h.hasCallable hClass hDeclared
  refine ⟨externalFacadeId container, by rw [hFollow]; rfl, ?_⟩
  rw [hFollow, offers_relocateExternals]
  obtain ⟨f, hf, d, hd, hId, hCount⟩ := h
  have hContainer : (Declaration.function d).externalContainer? declared = some container :=
    Declaration.externalContainer?_eq_some_iff.mpr
      ⟨site.callee, congrArg some hId, hClass, hDeclared⟩
  have hExternal :=
    SourceModule.mem_externals.mpr ⟨f, hf, SourceFile.mem_functions.mp hd, hContainer⟩
  refine .inr ⟨container, SourceModule.mem_externalContainers.mpr ⟨_, hExternal⟩, rfl, d, ?_,
    by rw [hId]; rfl, hCount⟩
  exact List.mem_filterMap.mpr ⟨_, SourceModule.mem_externalMembers.mpr hExternal, rfl⟩

/-- A call of a function that names no undeclared class stays, and so does the function. -/
theorem stays_relocateExternals (h : m.HasFileFunction site)
    (hDeclared : ¬ site.callee.NamesUndeclared declared) :
    (m.externalMoves declared).follow site = site ∧
      (relocateExternals declared m).value.HasFileFunction site := by
  constructor
  · refine SourceModule.follow_externalMoves_of_not fun _ container hClass => ?_
    by_contra hUndeclared
    exact hDeclared ⟨container, hClass, hUndeclared⟩
  · refine (view_relocateExternals (·.HasFileFunction site)
      (fun m moves => propext (m.hasFileFunction_retarget moves site)) m).mpr ?_
    obtain ⟨f, hf, d, hd, hId, hCount⟩ := h
    have hStays : (Declaration.function d).externalContainer? declared = none := by
      rw [Option.eq_none_iff_forall_ne_some]
      intro container hContainer
      obtain ⟨id, hid, hClass, hUndeclared⟩ :=
        Declaration.externalContainer?_eq_some_iff.mp hContainer
      obtain rfl : d.id = id := Option.some.inj hid
      exact hDeclared ⟨container, hId ▸ hClass, hUndeclared⟩
    refine ⟨f.withoutExternals declared, List.mem_append_left _ (List.mem_map_of_mem hf), d, ?_,
      hId, hCount⟩
    exact SourceFile.mem_functions.mpr
      (List.mem_filter.mpr ⟨SourceFile.mem_functions.mp hd, by simp [hStays]⟩)

theorem findsOverload_mergeFileFacades {f : SourceFile} (h : m.lastFileOf? site.callee = some f) :
    (mergeFileFacades m).value.FindsOverload (m.fileMoves.follow site) ↔
      m.Offers f.facadeId site.callee.name site.arguments ∨
        ∃ g ∈ m.files, g.facadeId = f.facadeId ∧
          HasOverload g.functions site.callee.name site.arguments := by
  rw [SourceModule.FindsOverload, SourceModule.callee_follow_fileMoves h,
    ← offers_mergeFileFacades]
  constructor
  · rintro ⟨holder, hHolder, hOffers⟩
    obtain rfl : f.facadeId = holder := Option.some.inj hHolder
    exact hOffers
  · exact fun hOffers => ⟨f.facadeId, rfl, hOffers⟩

end Calls

/-- A relocation lets every call that it re-points find its function, and leaves the others alone.
A merge lets a call find its function exactly if the facade of the last file with the identifier, or
a class of the same name, has it. -/
theorem repointed_calls_find_overload (declared : List ClassId) (m : SourceModule) :
    ((relocateExternals declared m).value.sites.Perm
        (m.sites.map (m.externalMoves declared).follow) ∧
      ∀ site, m.HasFileFunction site →
        (site.callee.NamesUndeclared declared →
          (relocateExternals declared m).value.FindsOverload
            ((m.externalMoves declared).follow site)) ∧
        (¬ site.callee.NamesUndeclared declared →
          (m.externalMoves declared).follow site = site ∧
            (relocateExternals declared m).value.HasFileFunction site)) ∧
    ((mergeFileFacades m).value.sites.Perm (m.sites.map m.fileMoves.follow) ∧
      ∀ site, m.HasFileFunction site → ∃ f, m.lastFileOf? site.callee = some f ∧
        ((mergeFileFacades m).value.FindsOverload (m.fileMoves.follow site) ↔
          m.Offers f.facadeId site.callee.name site.arguments ∨
            ∃ g ∈ m.files, g.facadeId = f.facadeId ∧
              HasOverload g.functions site.callee.name site.arguments)) := by
  refine ⟨⟨sites_relocateExternals declared m, fun site h => ?_⟩,
    sites_mergeFileFacades m, fun site h => ?_⟩
  · exact ⟨findsOverload_relocateExternals h, stays_relocateExternals h⟩
  · cases hLast : m.lastFileOf? site.callee with
    | none => exact absurd h.hasCallable (SourceModule.lastFileOf?_eq_none_iff.mp hLast)
    | some f => exact ⟨f, rfl, findsOverload_mergeFileFacades hLast⟩

/-- Two overloads in two files; the first one is called. -/
def splitOverloads : SourceModule :=
  let overload (parameters : List ValueParameter) (body : List Statement) (name : String) :
      Declaration :=
    .function
      { id := .topLevel "app" name, valueParameters := parameters, returnType := .unit
        body := some body }
  let call : Call :=
    { callee := .topLevel "app" "f", dispatchReceiver := none, extensionReceiver := none
      arguments := [], typeArguments := [], type := .unit }
  { name := "main"
    files :=
      [{ name := "a.kt"
         package := ⟨"app"⟩
         declarations := [overload [] [] "f", overload [] [.evaluate (.call call)] "g"] },
        { name := "b.kt"
          package := ⟨"app"⟩
          declarations := [overload [{ name := "x", type := .int }] [] "f"] }] }

/-- The call goes to the facade of the second file, which has no function without parameters. -/
theorem splitOverloads_misdirects :
    let site : CallSite := ⟨.topLevel "app" "f", 0⟩
    site ∈ splitOverloads.sites ∧ splitOverloads.HasFileFunction site ∧
      (splitOverloads.fileMoves.follow site).callee = (ClassId.inPackage "app" "BKt").member "f" ∧
      ¬ (mergeFileFacades splitOverloads).value.FindsOverload
        (splitOverloads.fileMoves.follow site) := by
  intro site
  have hFunction : splitOverloads.HasFileFunction site := by decide
  refine ⟨by decide, hFunction, by decide +kernel, fun hFinds => ?_⟩
  obtain ⟨f, hLast, hIff⟩ :=
    (repointed_calls_find_overload [] splitOverloads).2.2 site hFunction
  have hFacade : (splitOverloads.lastFileOf? site.callee).map SourceFile.facadeId =
      some (ClassId.inPackage "app" "BKt") := by decide +kernel
  rw [hLast] at hFacade
  rw [Option.some.inj hFacade] at hIff
  exact absurd (hIff.mp hFinds) (by decide +kernel)

end KotlinBackend
