import KotlinBackend.Proofs.Symbol.Inserts
import KotlinBackend.Reference
import KotlinBackend.Symbol.Builtins

/-!
# The classes of a graph

Whatever is added to a graph, only a class adds an identifier to its classes. The built-in classes
are therefore those of the list of insertions, and all of them are in trusted packages.
-/

namespace KotlinBackend

theorem map_modify_of_eq {α β : Type} {f : α → β} {g : α → α} (h : ∀ a, f (g a) = f a)
    (items : List α) (n : Nat) : (items.modify n g).map f = items.map f := by
  induction items generalizing n with
  | nil => simp
  | cons a rest ih => cases n <;> simp [h, ih]

namespace SymbolGraph

variable {g g' : SymbolGraph} {handle : Option Nat}

theorem classIds_addMember (position : Nat) (member : MemberRef) :
    (g.addMember position member).classIds = g.classIds := by
  simp only [classIds, addMember, Array.toList_modify]
  apply map_modify_of_eq
  intro node
  rfl

theorem classIds_setCompanionAt (position : Nat) (companion : ClassId) :
    (g.setCompanionAt position companion).classIds = g.classIds := by
  simp only [classIds, setCompanionAt, Array.toList_modify]
  apply map_modify_of_eq
  intro node
  rfl

theorem classIds_pushClass (node : ClassNode) :
    (g.pushClass node).classIds = g.classIds ++ [node.id] := by
  simp [classIds, pushClass]

theorem classIds_registerPackage (package : QualifiedName) :
    (g.registerPackage package).classIds = g.classIds := by
  simp only [classIds, registerPackage]

theorem classIds_alterPackage (package : QualifiedName) (f : PackageNode → PackageNode) :
    (g.alterPackage package f).classIds = g.classIds := by
  simp only [classIds, alterPackage]

theorem classIds_addCallable (id : CallableId) (callable : CallableRef) :
    (g.addCallable id callable).classIds = g.classIds := by
  rw [addCallable, classIds_alterPackage, classIds_registerPackage]

theorem classIds_pushCallable (c : CallableSymbol) : (g.pushCallable c).classIds = g.classIds := by
  cases c <;> rfl

/-- Only a class adds to the classes of a graph, and it adds itself. -/
theorem classIds_insert {i : Insertion} (h : g.insert i = .ok handle g') :
    g'.classIds = g.classIds ++ i.class?.toList := by
  cases inserts_of_insert h with
  | nested =>
    rw [classIds_pushClass, classIds_addMember, classIds_registerPackage, Insertion.class?,
      Option.toList_some]
  | free =>
    rw [classIds_pushClass, addToPackage, classIds_alterPackage, classIds_registerPackage,
      Insertion.class?, Option.toList_some]
  | companion => exact (classIds_setCompanionAt _ _).trans (List.append_nil _).symm
  | constructor => exact (classIds_addMember _ _).trans (List.append_nil _).symm
  | member =>
    rw [CallableSymbol.class?_insertion, classIds_pushCallable, classIds_addMember,
      Option.toList_none, List.append_nil]
  | carried =>
    rw [CallableSymbol.class?_insertion, classIds_pushCallable, classIds_addCallable,
      classIds_addMember, Option.toList_none, List.append_nil]
  | topLevel =>
    rw [CallableSymbol.class?_insertion, classIds_pushCallable, classIds_addCallable,
      Option.toList_none, List.append_nil]

theorem mem_classIds_insertAll {id : ClassId} {is : List Insertion}
    (h : id ∈ (g.insertAll is).1.classIds) :
    id ∈ g.classIds ∨ id ∈ is.filterMap Insertion.class? := by
  induction is generalizing g with
  | nil => exact .inl h
  | cons i rest ih =>
    unfold insertAll at h
    split at h
    · rename_i position g' hInsert
      rw [List.filterMap_cons]
      rcases ih h with h | h
      · rw [classIds_insert hInsert, List.mem_append, Option.mem_toList] at h
        rcases h with h | h
        · exact .inl h
        · exact .inr (by simp [Option.mem_def.mp h])
      · refine .inr ?_
        split
        · exact h
        · exact List.mem_cons_of_mem _ h
    · rename_i e g' hRefused
      rw [(insert_eq_error_iff.mp hRefused).2] at h
      exact .inl h

theorem mem_classIds_ofInsertions {id : ClassId} {is : List Insertion}
    (h : id ∈ (ofInsertions is).classIds) : id ∈ is.filterMap Insertion.class? := by
  rcases mem_classIds_insertAll h with h | h
  · simp [classIds, empty] at h
  · exact h

theorem contains_iff_mem_classIds {id : ClassId} : g.contains id = true ↔ id ∈ g.classIds := by
  rw [← isSome_position?_iff, contains, class?, Option.isSome_map, node?]
  cases hPosition : g.position? id with
  | none => simp
  | some position =>
    obtain ⟨node, hNode, _⟩ := Option.map_eq_some_iff.mp (map_id_of_position? hPosition)
    simp [hNode]

end SymbolGraph

theorem Builtins.isTrusted_insertions :
    ∀ id ∈ Builtins.insertions.filterMap Insertion.class?,
      isTrustedPackage id.package = true := by
  decide +kernel

theorem Builtins.isTrusted_of_contains {id : ClassId} (h : Builtins.graph.contains id = true) :
    isTrustedPackage id.package = true := by
  have hMem := SymbolGraph.contains_iff_mem_classIds.mp h
  exact Builtins.isTrusted_insertions id (SymbolGraph.mem_classIds_ofInsertions hMem)

end KotlinBackend
