import KotlinBackend.Proofs.Symbol.Closed
import Mathlib.Logic.Relation

/-!
# Types inside of types

The types of an assembly together with all that is nested in them, whether it is accepted or not.
What is listed is a part of it: nothing inside of a defective type is listed.
-/

namespace KotlinBackend

open Metadata (TypeDef)

namespace Metadata.TypeDef

mutual

/-- A type and everything that is nested in it. -/
def tree : TypeDef → List TypeDef
  | type@{ nestedTypes, .. } => type :: listTree nestedTypes

def listTree : List TypeDef → List TypeDef
  | [] => []
  | type :: rest => tree type ++ listTree rest

end

/-- A type is nested in another one, directly or further inside. -/
def Encloses : TypeDef → TypeDef → Prop :=
  Relation.TransGen fun outer inner => inner ∈ outer.nestedTypes

theorem tree_eq (t : TypeDef) : t.tree = t :: listTree t.nestedTypes := by
  obtain ⟨name, nameSpace, declaringType, baseType, interfaces, attributes, constructors, methods,
    fields, properties, events, nestedTypes, typeParameters, flags⟩ := t
  rw [tree]

theorem listTree_eq_flatMap (ts : List TypeDef) : listTree ts = ts.flatMap tree := by
  induction ts with
  | nil => rfl
  | cons t rest ih => rw [listTree, ih, List.flatMap_cons]

theorem mem_listTree {t : TypeDef} {ts : List TypeDef} (h : t ∈ ts) : t ∈ listTree ts := by
  rw [listTree_eq_flatMap, List.mem_flatMap]
  refine ⟨t, h, ?_⟩
  rw [tree_eq]
  exact List.mem_cons_self

theorem listTree_subset {ts us : List TypeDef} (h : ts ⊆ us) : listTree ts ⊆ listTree us := by
  intro u hu
  rw [listTree_eq_flatMap, List.mem_flatMap] at hu ⊢
  obtain ⟨t, ht, hu⟩ := hu
  exact ⟨t, h ht, hu⟩

mutual

theorem listed_subset_tree (t : TypeDef) : t.listed ⊆ t.tree := by
  obtain ⟨name, nameSpace, declaringType, baseType, interfaces, attributes, constructors, methods,
    fields, properties, events, nestedTypes, typeParameters, flags⟩ := t
  rw [listed_eq, tree_eq]
  apply List.cons_subset_cons
  split
  · exact listedIn_subset_listTree nestedTypes
  · exact List.nil_subset _

theorem listedIn_subset_listTree (ts : List TypeDef) : listedIn ts ⊆ listTree ts := by
  cases ts with
  | nil => exact List.Subset.refl _
  | cons t rest =>
    intro u hu
    rcases List.mem_append.mp hu with hu | hu
    · exact List.mem_append_left _ (listed_subset_tree t hu)
    · exact List.mem_append_right _ (listedIn_subset_listTree rest hu)

end

mutual

theorem nested_mem_tree (t : TypeDef) {u n : TypeDef} (hu : u ∈ t.tree) (hn : n ∈ u.nestedTypes) :
    n ∈ t.tree := by
  obtain ⟨name, nameSpace, declaringType, baseType, interfaces, attributes, constructors, methods,
    fields, properties, events, nestedTypes, typeParameters, flags⟩ := t
  rw [tree_eq] at hu ⊢
  apply List.mem_cons_of_mem
  rcases List.mem_cons.mp hu with rfl | hu
  · exact mem_listTree hn
  · exact nested_mem_listTree nestedTypes hu hn

theorem nested_mem_listTree (ts : List TypeDef) {u n : TypeDef} (hu : u ∈ listTree ts)
    (hn : n ∈ u.nestedTypes) : n ∈ listTree ts := by
  cases ts with
  | nil => cases hu
  | cons t rest =>
    rcases List.mem_append.mp hu with hu | hu
    · exact List.mem_append_left _ (nested_mem_tree t hu hn)
    · exact List.mem_append_right _ (nested_mem_listTree rest hu hn)

end

mutual

theorem tree_induction {Q : TypeDef → Prop} (t : TypeDef)
    (hNested : ∀ u ∈ t.tree, Q u → ∀ n ∈ u.nestedTypes, Q n) (h : Q t) : ∀ u ∈ t.tree, Q u := by
  obtain ⟨name, nameSpace, declaringType, baseType, interfaces, attributes, constructors, methods,
    fields, properties, events, nestedTypes, typeParameters, flags⟩ := t
  rw [tree_eq, List.forall_mem_cons] at hNested ⊢
  exact ⟨h, listTree_induction nestedTypes hNested.2 (hNested.1 h)⟩

/-- What holds of the types of a list, and of what is nested in a type whenever it holds of the
type, holds of the whole tree. -/
theorem listTree_induction {Q : TypeDef → Prop} (ts : List TypeDef)
    (hNested : ∀ u ∈ listTree ts, Q u → ∀ n ∈ u.nestedTypes, Q n) (h : ∀ t ∈ ts, Q t) :
    ∀ u ∈ listTree ts, Q u := by
  cases ts with
  | nil => exact List.forall_mem_nil _
  | cons t rest =>
    rw [listTree, List.forall_mem_append] at hNested ⊢
    obtain ⟨hFirst, hRest⟩ := List.forall_mem_cons.mp h
    exact ⟨tree_induction t hNested.1 hFirst, listTree_induction rest hNested.2 hRest⟩

end

theorem mem_listTree_of_encloses {ts : List TypeDef} {outer inner : TypeDef}
    (h : outer.Encloses inner) (hOuter : outer ∈ listTree ts) : inner ∈ listTree ts := by
  induction h with
  | single hn => exact nested_mem_listTree ts hOuter hn
  | tail _ hn ih => exact nested_mem_listTree ts ih hn

/-- If everything around a type is accepted, then everything around it is listed. -/
theorem mem_listedIn_of_encloses {ts : List TypeDef} {outer inner : TypeDef}
    (h : outer.Encloses inner) (hOuter : outer ∈ listTree ts)
    (hAccepted : ∀ u ∈ listTree ts, u.Encloses inner → u.isAccepted = true) :
    outer ∈ listedIn ts := by
  refine listTree_induction (Q := fun u => u.Encloses inner → u ∈ listedIn ts) ts ?_ ?_
    outer hOuter h
  · intro u hu hListed n hn hInner
    have hAround : u.Encloses inner := Relation.TransGen.head hn hInner
    exact nested_mem_listedIn ts (hListed hAround) (hAccepted u hu hAround) hn
  · intro t ht _
    exact mem_listedIn ht

end Metadata.TypeDef

end KotlinBackend
