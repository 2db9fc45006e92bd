import KotlinBackend.Facade.Basic
import KotlinBackend.Program.Revision

/-!
# The classes of a module, at any depth

`allClasses` lists the classes of a module with their declarations, nested ones behind the class
around them. The declared identifiers are read off this list. A revision changes what the bodies in
these classes say, and nothing else about them.
-/

namespace KotlinBackend

mutual

/-- A class and the classes nested in it. -/
def ClassDecl.tree : ClassDecl → List ClassDecl
  | decl@{ declarations, .. } => decl :: Declaration.listTree declarations

def Declaration.tree : Declaration → List ClassDecl
  | .ofClass decl => decl.tree
  | .function _ => []
  | .constructor _ => []
  | .property _ => []
  | .field _ => []

def Declaration.listTree : List Declaration → List ClassDecl
  | [] => []
  | declaration :: rest => declaration.tree ++ Declaration.listTree rest

end

def SourceModule.allClasses (m : SourceModule) : List ClassDecl :=
  m.files.flatMap fun f => Declaration.listTree f.declarations

theorem Declaration.listTree_eq_flatMap (ds : List Declaration) :
    Declaration.listTree ds = ds.flatMap Declaration.tree := by
  induction ds with
  | nil => rfl
  | cons d rest ih => rw [Declaration.listTree, ih, List.flatMap_cons]

theorem Declaration.listTree_append (ds ds' : List Declaration) :
    Declaration.listTree (ds ++ ds') = Declaration.listTree ds ++ Declaration.listTree ds' := by
  simp only [Declaration.listTree_eq_flatMap, List.flatMap_append]

theorem Declaration.tree_of_callable {d : Declaration} (h : d.callable?.isSome) : d.tree = [] := by
  rcases Declaration.isSome_callable?_iff.mp h with ⟨decl, rfl⟩ | ⟨decl, rfl⟩ <;> rfl

/-- Leaving out what gives nothing leaves the rest as it is. -/
theorem flatMap_filter_of_nil {α β : Type} {f : α → List β} {keep : α → Bool} {items : List α}
    (h : ∀ a ∈ items, keep a = false → f a = []) :
    (items.filter keep).flatMap f = items.flatMap f := by
  induction items with
  | nil => rfl
  | cons a rest ih =>
    have hRest := ih fun b hb => h b (List.mem_cons_of_mem _ hb)
    cases hKeep : keep a with
    | true => rw [List.filter_cons_of_pos hKeep, List.flatMap_cons, hRest, List.flatMap_cons]
    | false =>
      rw [List.filter_cons_of_neg (by simp [hKeep]), hRest, List.flatMap_cons,
        h a List.mem_cons_self hKeep, List.nil_append]

mutual

theorem ClassDecl.declaredClasses_eq (c : ClassDecl) :
    c.declaredClasses = c.tree.map ClassDecl.id := by
  obtain ⟨cid, kind, modality, visibility, isLocal, isValue, isExpect, isExternal, isCompanion,
    typeParameters, supertypes, annotations, enumEntries, declarations, origin⟩ := c
  simp [ClassDecl.declaredClasses, ClassDecl.tree, Declaration.listDeclaredClasses_eq declarations]

theorem Declaration.declaredClasses_eq (d : Declaration) :
    d.declaredClasses = d.tree.map ClassDecl.id := by
  cases d with
  | ofClass decl => exact ClassDecl.declaredClasses_eq decl
  | function | constructor | property | field => rfl

theorem Declaration.listDeclaredClasses_eq (ds : List Declaration) :
    Declaration.listDeclaredClasses ds = (Declaration.listTree ds).map ClassDecl.id := by
  cases ds with
  | nil => rfl
  | cons d rest =>
    rw [Declaration.listDeclaredClasses, Declaration.listTree, List.map_append,
      Declaration.declaredClasses_eq d, Declaration.listDeclaredClasses_eq rest]

end

theorem SourceModule.declaredClasses_eq (m : SourceModule) :
    m.declaredClasses = m.allClasses.map ClassDecl.id := by
  simp only [SourceModule.declaredClasses, SourceModule.allClasses, List.map_flatMap,
    Declaration.listDeclaredClasses_eq]

section Revision

variable (step : Expression → Option Expression)

mutual

theorem ClassDecl.tree_revise (c : ClassDecl) :
    (c.revise step).value.tree = c.tree.map fun inner => (inner.revise step).value := by
  obtain ⟨cid, kind, modality, visibility, isLocal, isValue, isExpect, isExternal, isCompanion,
    typeParameters, supertypes, annotations, enumEntries, declarations, origin⟩ := c
  simp [ClassDecl.revise, ClassDecl.tree, Declaration.listTree_revise declarations]

theorem Declaration.tree_revise (d : Declaration) :
    (d.revise step).value.tree = d.tree.map fun inner => (inner.revise step).value := by
  cases d with
  | ofClass decl => exact ClassDecl.tree_revise decl
  | function | constructor | property | field => rfl

theorem Declaration.listTree_revise (ds : List Declaration) :
    Declaration.listTree (Declaration.reviseList step ds).value =
      (Declaration.listTree ds).map fun inner => (inner.revise step).value := by
  cases ds with
  | nil => rfl
  | cons d rest =>
    simp [Declaration.reviseList, Declaration.listTree, Declaration.tree_revise d,
      Declaration.listTree_revise rest]

end

theorem Declaration.reviseList_value (ds : List Declaration) :
    (Declaration.reviseList step ds).value = ds.map fun d => (d.revise step).value := by
  induction ds with
  | nil => rfl
  | cons d rest ih => simp [Declaration.reviseList, ih]

theorem ClassDecl.declarations_revise (c : ClassDecl) :
    (c.revise step).value.declarations = c.declarations.map fun d => (d.revise step).value := by
  obtain ⟨id, kind, modality, visibility, isLocal, isValue, isExpect, isExternal, isCompanion,
    typeParameters, supertypes, annotations, enumEntries, declarations, origin⟩ := c
  exact Declaration.reviseList_value step declarations

theorem SourceFile.declarations_revise (f : SourceFile) :
    (f.revise step).value.declarations = f.declarations.map fun d => (d.revise step).value :=
  Declaration.reviseList_value step f.declarations

theorem SourceModule.files_revise (m : SourceModule) :
    (m.revise step).value.files = m.files.map fun f => (f.revise step).value :=
  Tally.value_each _ m.files

theorem ClassDecl.id_revise (c : ClassDecl) : (c.revise step).value.id = c.id := by
  obtain ⟨cid, kind, modality, visibility, isLocal, isValue, isExpect, isExternal, isCompanion,
    typeParameters, supertypes, annotations, enumEntries, declarations, origin⟩ := c
  rfl

theorem SourceModule.allClasses_revise (m : SourceModule) :
    (m.revise step).value.allClasses =
      m.allClasses.map fun inner => (inner.revise step).value := by
  simp [SourceModule.revise, SourceModule.allClasses, SourceFile.revise, Tally.value_each,
    List.flatMap_map, List.map_flatMap, Declaration.listTree_revise]

theorem SourceModule.declaredClasses_revise (m : SourceModule) :
    (m.revise step).value.declaredClasses = m.declaredClasses := by
  simp [SourceModule.declaredClasses_eq, SourceModule.allClasses_revise, ClassDecl.id_revise]

end Revision

end KotlinBackend
