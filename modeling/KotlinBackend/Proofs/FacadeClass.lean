import KotlinBackend.Proofs.ClassTree
import KotlinBackend.Proofs.Resolution.ModulePasses
import Mathlib.Data.List.Perm.Basic

/-!
# The classes that facades add

A relocation appends its facades to the classes of a module, and merging adds the facade of a file
behind the classes of the file. A facade holds what moved into it and no class.
-/

namespace KotlinBackend

theorem Declaration.callable?_moveInto (holder : ClassId) (d : Declaration) :
    (d.moveInto holder).callable? = d.callable?.map fun id => id.movedTo holder := by
  cases d <;> rfl

/-- A facade that only has callables has no class inside. -/
theorem tree_facadeClass {id : ClassId} {origin : Origin} {members : List Declaration}
    (h : ∀ d ∈ members, d.callable?.isSome) :
    (facadeClass id origin (members.map (Declaration.moveInto id))).tree =
      [facadeClass id origin (members.map (Declaration.moveInto id))] := by
  have hMembers : Declaration.listTree (members.map (Declaration.moveInto id)) = [] := by
    rw [Declaration.listTree_eq_flatMap, List.flatMap_map, List.flatMap_eq_nil_iff]
    intro d hd
    exact Declaration.tree_of_callable (by simp [Declaration.callable?_moveInto, h d hd])
  rw [facadeClass, ClassDecl.tree, hMembers]

section Relocation

variable (declared : List ClassId) (m : SourceModule)

/-- The facade for the members of a class. -/
def SourceModule.externalFacade (container : ClassId) : ClassDecl :=
  facadeClass (externalFacadeId container) .externalFacade
    ((m.externalMembers declared container).map
      (Declaration.moveInto (externalFacadeId container)))

theorem SourceModule.callable_of_externalMember {container : ClassId} :
    ∀ d ∈ m.externalMembers declared container, d.callable?.isSome := by
  intro d hd
  obtain ⟨f, _, _, hContainer⟩ :=
    SourceModule.mem_externals.mp (SourceModule.mem_externalMembers.mp hd)
  obtain ⟨id, hid⟩ := Declaration.callable?_of_externalContainer? hContainer
  rw [hid, Option.isSome_some]

/-- Only callables leave a file. -/
theorem Declaration.callable_of_not_stays {d : Declaration}
    (h : (d.externalContainer? declared).isNone = false) : d.callable?.isSome := by
  obtain ⟨container, hContainer⟩ := Option.isSome_iff_exists.mp (by simpa using h)
  obtain ⟨id, hid⟩ := Declaration.callable?_of_externalContainer? hContainer
  rw [hid, Option.isSome_some]

theorem SourceModule.allClasses_withFacades :
    (m.withFacades declared).allClasses =
      m.allClasses ++ (m.externalContainers declared).map (m.externalFacade declared) := by
  have hFile (f : SourceFile) :
      Declaration.listTree (f.withoutExternals declared).declarations =
        Declaration.listTree f.declarations := by
    rw [SourceFile.withoutExternals, Declaration.listTree_eq_flatMap,
      Declaration.listTree_eq_flatMap]
    refine flatMap_filter_of_nil fun d _ hd => ?_
    exact Declaration.tree_of_callable (Declaration.callable_of_not_stays declared hd)
  have hFacade (container : ClassId) :
      Declaration.listTree
          (externalFacadeFile container (m.externalMembers declared container)).declarations =
        [m.externalFacade declared container] := by
    simp only [externalFacadeFile, Declaration.listTree, Declaration.tree, List.append_nil]
    exact tree_facadeClass (m.callable_of_externalMember declared)
  simp only [SourceModule.allClasses, SourceModule.withFacades, SourceModule.externalFiles,
    List.flatMap_append, List.flatMap_map, hFile, hFacade]
  rw [← List.map_eq_flatMap]

end Relocation

section FileFacades

/-- The facade of a file, if it has callables. -/
def SourceFile.facade? (f : SourceFile) : Option ClassDecl :=
  if f.callables.isEmpty then none
  else some (facadeClass f.facadeId .fileFacade
    (f.callables.map (Declaration.moveInto f.facadeId)))

theorem SourceFile.listTree_mergeFacade (f : SourceFile) :
    Declaration.listTree f.mergeFacade.value.declarations =
      Declaration.listTree f.declarations ++ f.facade?.toList := by
  rw [SourceFile.mergeFacade_value, SourceFile.facade?]
  split
  · rw [Option.toList_none, List.append_nil]
  · have hKept : Declaration.listTree (f.declarations.filter (!·.isCallable)) =
        Declaration.listTree f.declarations := by
      rw [Declaration.listTree_eq_flatMap, Declaration.listTree_eq_flatMap]
      refine flatMap_filter_of_nil fun d _ hd => ?_
      exact Declaration.tree_of_callable (by simpa [Declaration.isCallable] using hd)
    have hCallables : ∀ d ∈ f.callables, d.callable?.isSome :=
      fun d hd => (List.mem_filter.mp hd).2
    rw [Declaration.listTree_append, hKept, Option.toList_some, Declaration.listTree,
      Declaration.tree, tree_facadeClass hCallables, Declaration.listTree, List.append_nil]

theorem SourceModule.allClasses_withFileFacades (m : SourceModule) :
    m.withFileFacades.allClasses.Perm (m.allClasses ++ m.files.filterMap SourceFile.facade?) := by
  simp only [SourceModule.allClasses, SourceModule.withFileFacades, List.flatMap_map,
    SourceFile.listTree_mergeFacade, List.filterMap_eq_flatMap_toList]
  exact (List.flatMap_append_perm _ _ _).symm

end FileFacades

end KotlinBackend
