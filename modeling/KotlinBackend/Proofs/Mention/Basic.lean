import KotlinBackend.Program.Node

/-!
# The classes that a program names

`NamesOnly P nodes` says that every class named among some nodes satisfies `P`. What a module
declares is not looked at here.
-/

namespace KotlinBackend

/-- Every class that is named by some node satisfies `P`. -/
def NamesOnly (P : ClassId → Prop) (nodes : List Node) : Prop :=
  ∀ id ∈ nodes.filterMap Node.class?, P id

section Lists

variable {P Q : ClassId → Prop} {nodes : List Node}

theorem NamesOnly.mono (h : NamesOnly P nodes) (hPQ : ∀ id, P id → Q id) : NamesOnly Q nodes :=
  fun id hid => hPQ id (h id hid)

theorem NamesOnly.of_subset {nodes' : List Node} (h : NamesOnly P nodes)
    (hSubset : nodes' ⊆ nodes) : NamesOnly P nodes' :=
  fun id hid => h id (List.filterMap_subset _ hSubset hid)

@[simp] theorem namesOnly_nil : NamesOnly P [] := by simp [NamesOnly]

@[simp] theorem namesOnly_cons {node : Node} :
    NamesOnly P (node :: nodes) ↔ (∀ id, node.class? = some id → P id) ∧ NamesOnly P nodes := by
  cases h : node.class? <;> simp [NamesOnly, h]

@[simp] theorem namesOnly_append {nodes' : List Node} :
    NamesOnly P (nodes ++ nodes') ↔ NamesOnly P nodes ∧ NamesOnly P nodes' := by
  simp only [NamesOnly, List.filterMap_append, List.forall_mem_append]

theorem namesOnly_flatMap {α : Type} {items : List α} {f : α → List Node} :
    NamesOnly P (items.flatMap f) ↔ ∀ a ∈ items, NamesOnly P (f a) := by
  induction items with
  | nil => simp
  | cons a rest ih => simp [ih]

theorem namesOnly_classRefs {ids : List ClassId} :
    NamesOnly P (ids.map .classRef) ↔ ∀ id ∈ ids, P id := by
  induction ids with
  | nil => simp
  | cons id rest ih => simp [ih, Node.class?]

theorem namesOnly_type {t : SourceType} : NamesOnly P t.nodes ↔ ∀ id ∈ t.classIds, P id := by
  simp [SourceType.nodes, namesOnly_classRefs, Node.class?]

theorem namesOnly_types {types : List SourceType} :
    NamesOnly P (SourceType.listNodes types) ↔ ∀ t ∈ types, NamesOnly P t.nodes :=
  namesOnly_flatMap

theorem namesOnly_callable {id : CallableId} :
    NamesOnly P id.nodes ↔ ∀ owner, id.class? = some owner → P owner := by
  simp [CallableId.nodes, namesOnly_classRefs, Node.class?]

end Lists

theorem Expression.mem_argumentNodes {node : Node} {es : List (Option Expression)} :
    node ∈ Expression.argumentNodes es ↔ ∃ e, some e ∈ es ∧ node ∈ e.nodes := by
  induction es with
  | nil => simp [Expression.argumentNodes]
  | cons first rest ih =>
    cases first <;> simp [Expression.argumentNodes, Expression.optionNodes, ih, or_and_right,
      exists_or]

theorem Call.nodes_subset {c : Call} {e : Expression} (h : some e ∈ c.operands) :
    e.nodes ⊆ c.nodes := by
  obtain ⟨callee, dispatchReceiver, extensionReceiver, arguments, typeArguments, type⟩ := c
  intro node hNode
  simp only [Call.nodes, List.mem_append]
  simp only [Call.operands, List.mem_append, List.mem_map, Option.mem_toList, Option.some.injEq,
    exists_eq_right] at h
  rcases h with (rfl | rfl) | h
  · exact .inl (.inl (.inl (.inl (.inr hNode))))
  · exact .inl (.inl (.inl (.inr hNode)))
  · exact .inl (.inl (.inr (Expression.mem_argumentNodes.mpr ⟨e, h, hNode⟩)))

end KotlinBackend
