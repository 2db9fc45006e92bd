import KotlinBackend.Output.Body
import KotlinBackend.Proofs.Call.Moved

/-!
# Accesses to properties

A property is read and written by calls of its accessors, whose names are made from its own. A
facade takes over the property, and calls follow by the identifiers of what has moved. The
identifiers of accessors are not among them: an access follows only if something else at file level
is called like the accessor. Otherwise it keeps naming the package, and so does the code that is
generated for it.
-/

namespace KotlinBackend

open Output

inductive Accessor where
  | getter
  | setter
  deriving DecidableEq, Repr

def Accessor.opening : Accessor → String
  | getter => "<get-"
  | setter => "<set-"

/-- What is called to get or to set a property. -/
def PropertyDecl.accessor (p : PropertyDecl) (a : Accessor) : CallableId :=
  ⟨p.id.owner, a.opening ++ p.id.name ++ ">"⟩

/-- A class of an identifier has a property of a name. -/
def SourceModule.HasProperty (m : SourceModule) (holder : ClassId) (name : String) : Prop :=
  ∃ c ∈ m.allClasses, c.id = holder ∧ ∃ p, .property p ∈ c.declarations ∧ p.id = holder.member name

section Facades

variable {m : SourceModule} {holder : ClassId} {p : PropertyDecl}

theorem SourceModule.hasProperty_retarget {name : String} (moves : Moves)
    (h : m.HasProperty holder name) : (m.retarget moves).HasProperty holder name := by
  obtain ⟨c, hc, hId, p, hp, hName⟩ := h
  refine ⟨(c.revise moves.step).value, ?_, by rw [ClassDecl.id_revise, hId],
    (p.revise moves.step).value, ?_, hName⟩
  · rw [SourceModule.retarget, SourceModule.allClasses_revise]
    exact List.mem_map_of_mem hc
  · rw [ClassDecl.declarations_revise]
    exact List.mem_map_of_mem hp

theorem hasProperty_facade {origin : Origin} {members : List Declaration}
    (h : .property p ∈ members) :
    ∃ q, .property q ∈
        (facadeClass holder origin (members.map (Declaration.moveInto holder))).declarations ∧
      q.id = holder.member p.id.name :=
  ⟨{ p with id := holder.member p.id.name, isStatic := true }, List.mem_map_of_mem h, rfl⟩

/-- Merging puts a property into the facade of its file. -/
theorem hasProperty_mergeFileFacades {f : SourceFile} (hf : f ∈ m.files)
    (hp : .property p ∈ f.declarations) :
    (mergeFileFacades m).value.HasProperty f.facadeId p.id.name := by
  have hMember : .property p ∈ f.callables := List.mem_filter.mpr ⟨hp, rfl⟩
  have hFacade : f.facade? = some (facadeClass f.facadeId .fileFacade
      (f.callables.map (Declaration.moveInto f.facadeId))) := by
    rw [SourceFile.facade?, if_neg (by simpa using List.ne_nil_of_mem hMember)]
  rw [mergeFileFacades_value]
  refine SourceModule.hasProperty_retarget _
    ⟨facadeClass f.facadeId .fileFacade (f.callables.map (Declaration.moveInto f.facadeId)), ?_,
      rfl, hasProperty_facade hMember⟩
  rw [m.allClasses_withFileFacades.mem_iff]
  exact List.mem_append_right _ (List.mem_filterMap.mpr ⟨f, hf, hFacade⟩)

/-- A relocation puts a property that names an undeclared class into the facade of that class. -/
theorem hasProperty_relocateExternals {declared : List ClassId} {f : SourceFile}
    {container : ClassId} (hf : f ∈ m.files) (hp : .property p ∈ f.declarations)
    (hClass : p.id.class? = some container) (hDeclared : container ∉ declared) :
    (relocateExternals declared m).value.HasProperty (externalFacadeId container) p.id.name := by
  have hExternal : (container, .property p) ∈ m.externals declared :=
    SourceModule.mem_externals.mpr ⟨f, hf, hp,
      Declaration.externalContainer?_eq_some_iff.mpr ⟨p.id, rfl, hClass, hDeclared⟩⟩
  have hSome : ¬ (m.externals declared).isEmpty = true := by
    simpa using List.ne_nil_of_mem hExternal
  rw [relocateExternals_value, if_neg hSome]
  refine SourceModule.hasProperty_retarget _
    ⟨m.externalFacade declared container, ?_, rfl,
      hasProperty_facade (SourceModule.mem_externalMembers.mpr hExternal)⟩
  rw [SourceModule.allClasses_withFacades]
  exact List.mem_append_right _
    (List.mem_map_of_mem (SourceModule.mem_externalContainers.mpr ⟨_, hExternal⟩))

end Facades

section Accesses

variable {m : SourceModule} {declared : List ClassId} {site : CallSite}

/-- Merging leads a call to the class of a facade if the last file with its callee has that facade,
or if it has been there before. -/
theorem class?_follow_fileMoves {holder : ClassId} :
    (m.fileMoves.follow site).callee.class? = some holder ↔
      (∃ g, m.lastFileOf? site.callee = some g ∧ g.facadeId = holder) ∨
        ¬ m.HasCallable site.callee ∧ site.callee.class? = some holder := by
  cases hLast : m.lastFileOf? site.callee with
  | none =>
    have hNone := SourceModule.lastFileOf?_eq_none_iff.mp hLast
    rw [SourceModule.follow_fileMoves_of_not hNone]
    simp [hNone]
  | some g =>
    obtain ⟨hFile, hCallable⟩ := SourceModule.mem_of_lastFileOf? hLast
    have hSome : m.HasCallable site.callee := ⟨g, hFile, hCallable⟩
    rw [SourceModule.callee_follow_fileMoves hLast]
    simp [hSome, ClassId.member, CallableId.class?, Owner.class?]

theorem ne_externalFacadeId (container : ClassId) : container ≠ externalFacadeId container := by
  intro h
  obtain ⟨package, names⟩ := container
  have hNames : names = [String.join names ++ "Facade"] := congrArg ClassId.names h
  have hLength : String.join names = String.join names ++ "Facade" := by
    nth_rewrite 1 [hNames]
    rfl
  have := congrArg String.length hLength
  simp at this

/-- A relocation leads a call of a callable in an undeclared class to the facade of the class
exactly if there is such a callable. -/
theorem class?_follow_externalMoves {container : ClassId}
    (hClass : site.callee.class? = some container) (hDeclared : container ∉ declared) :
    ((m.externalMoves declared).follow site).callee.class? = some (externalFacadeId container) ↔
      m.HasCallable site.callee := by
  constructor
  · intro hFollow
    by_contra hNone
    rw [SourceModule.follow_externalMoves_of_not fun hCallable => absurd hCallable hNone,
      hClass] at hFollow
    exact ne_externalFacadeId container (Option.some.inj hFollow)
  · intro hCallable
    rw [SourceModule.callee_follow_externalMoves hCallable hClass hDeclared]
    rfl

end Accesses

section Code

theorem accessorProperty?_opening (a : Accessor) (name : String) :
    accessorProperty? a.opening (a.opening ++ name ++ ">") = some name := by
  have hEnding : ">".toList = ['>'] := rfl
  simp [accessorProperty?, String.toList_append, Text.dropStart?_append, hEnding,
    Text.dropEnding?_append]

theorem accessorProperty?_setter (name : String) :
    accessorProperty? "<get-" (Accessor.setter.opening ++ name) = none := by
  simp [accessorProperty?, Accessor.opening, String.toList_append, Text.dropStart?]

/-- The code of an access, from the code of the property and of the value it is set to. -/
def Accessor.code (a : Accessor) (target : Code) (value : Tally Code) : Tally Code :=
  match a with
  | getter => pure target
  | setter => (fun code => .glue [target, .text " = ", code]) <$> value

variable {p : PropertyDecl} {a : Accessor} {c : Call}

/-- An access to a property of a package is qualified by what stands before functions of the
package. -/
theorem expressionCode_access (g : Context) (scope : Scope) (hCallee : c.callee = p.accessor a)
    (hPackage : p.id.class? = none) (hReceiver : c.dispatchReceiver = none) :
    expressionCode g scope (.call c) =
      a.code (qualified (g.packageQualifier? (p.accessor a)) p.id.name)
        (setterValue (argumentParts g scope c.arguments)) := by
  obtain ⟨callee, dispatchReceiver, extensionReceiver, arguments, typeArguments, type⟩ := c
  obtain rfl : callee = p.accessor a := hCallee
  obtain rfl : dispatchReceiver = none := hReceiver
  have hClass : (p.accessor a).class? = none := hPackage
  simp only [expressionCode, callExpressionCode, callCode, operatorCode?, hClass, memberCallCode,
    Context.qualifier, Context.implicitQualifier?]
  cases a with
  | getter =>
    have hProperty : accessorProperty? "<get-" (p.accessor .getter).name = some p.id.name :=
      accessorProperty?_opening .getter p.id.name
    simp only [hProperty]
    rfl
  | setter =>
    have hOther : accessorProperty? "<get-" (p.accessor .setter).name = none := by
      rw [PropertyDecl.accessor, String.append_assoc, accessorProperty?_setter]
    have hProperty : accessorProperty? "<set-" (p.accessor .setter).name = some p.id.name :=
      accessorProperty?_opening .setter p.id.name
    simp only [hOther, hProperty]
    -- finding the qualifier counts nothing
    exact congrArg (Tally.mk _) (Nat.zero_add _)

end Code

/-- A property moves into a facade, and an access to it follows exactly if something at file level
is called like the accessor and moves into a facade of that name. Without such a callable accesses
stay as they are, and their code is qualified as the symbols of the package say. -/
theorem accesses_follow_iff (declared : List ClassId) (m : SourceModule) {f : SourceFile}
    (hf : f ∈ m.files) {p : PropertyDecl} (hp : .property p ∈ f.declarations) (a : Accessor)
    (count : Nat) :
    let site : CallSite := ⟨p.accessor a, count⟩
    ((mergeFileFacades m).value.HasProperty f.facadeId p.id.name ∧
      (mergeFileFacades m).value.sites.Perm (m.sites.map m.fileMoves.follow) ∧
      ((m.fileMoves.follow site).callee.class? = some f.facadeId ↔
        (∃ g, m.lastFileOf? (p.accessor a) = some g ∧ g.facadeId = f.facadeId) ∨
          ¬ m.HasCallable (p.accessor a) ∧ p.id.class? = some f.facadeId)) ∧
    ((relocateExternals declared m).value.sites.Perm
        (m.sites.map (m.externalMoves declared).follow) ∧
      ∀ container, p.id.class? = some container → container ∉ declared →
        (relocateExternals declared m).value.HasProperty (externalFacadeId container) p.id.name ∧
        (((m.externalMoves declared).follow site).callee.class? =
            some (externalFacadeId container) ↔
          m.HasCallable (p.accessor a))) ∧
    (¬ m.HasCallable (p.accessor a) →
      m.fileMoves.follow site = site ∧ (m.externalMoves declared).follow site = site) ∧
    ∀ (g : Context) (scope : Scope) (c : Call), c.callee = p.accessor a → p.id.class? = none →
      c.dispatchReceiver = none →
      expressionCode g scope (.call c) =
        a.code (qualified (g.packageQualifier? (p.accessor a)) p.id.name)
          (setterValue (argumentParts g scope c.arguments)) := by
  intro site
  refine ⟨⟨hasProperty_mergeFileFacades hf hp, sites_mergeFileFacades m, class?_follow_fileMoves⟩,
    ⟨sites_relocateExternals declared m, ?_⟩, ?_, ?_⟩
  · intro container hClass hDeclared
    exact ⟨hasProperty_relocateExternals hf hp hClass hDeclared,
      class?_follow_externalMoves hClass hDeclared⟩
  · intro hNone
    exact ⟨SourceModule.follow_fileMoves_of_not hNone,
      SourceModule.follow_externalMoves_of_not fun hCallable => absurd hCallable hNone⟩
  · intro g scope c
    exact expressionCode_access g scope

def limit : PropertyDecl := { id := .topLevel "app" "limit", type := .int }

def limitFile : SourceFile :=
  { name := "a.kt", package := ⟨"app"⟩, declarations := [.property limit] }

def readLimit : Call :=
  { callee := limit.accessor .getter, dispatchReceiver := none, extensionReceiver := none
    arguments := [], typeArguments := [], type := .int }

/-- A property in one file and a function that returns it in another. -/
def sharedLimit : SourceModule :=
  { name := "main"
    files :=
      [limitFile,
        { name := "b.kt"
          package := ⟨"app"⟩
          declarations := [.function
            { id := .topLevel "app" "show", valueParameters := [], returnType := .int
              body := some [.returns (some (.call readLimit))] }] }] }

/-- The property is in the facade of the first file, the access stays, and its code is
`app.limit`. -/
theorem sharedLimit_access_stays :
    let site : CallSite := ⟨limit.accessor .getter, 0⟩
    let g := Context.ofModule SymbolGraph.empty.source (mergeFileFacades sharedLimit).value
    site ∈ sharedLimit.sites ∧
      (mergeFileFacades sharedLimit).value.HasProperty limitFile.facadeId "limit" ∧
      ¬ (sharedLimit.fileMoves.follow site).callee.class? = some limitFile.facadeId ∧
      expressionCode g ⟨.inPackage "app" "BKt", true⟩ (.call readLimit) =
        pure (Code.glue [.text "app", .text ".limit"]) := by
  intro site g
  obtain ⟨⟨hProperty, _, hFollow⟩, _, _, hCode⟩ :=
    accesses_follow_iff [] sharedLimit (f := limitFile) (List.mem_cons_self ..) (p := limit)
      (List.mem_cons_self ..) .getter 0
  refine ⟨by decide, hProperty, ?_, ?_⟩
  · rw [hFollow]
    rintro (⟨g, hLast, _⟩ | ⟨_, hClass⟩)
    · have hNone : (sharedLimit.lastFileOf? (limit.accessor .getter)).isNone = true := by
        decide +kernel
      rw [hLast] at hNone
      cases hNone
    · cases hClass
  · rw [hCode g ⟨.inPackage "app" "BKt", true⟩ readLimit rfl rfl rfl]
    rfl

end KotlinBackend
