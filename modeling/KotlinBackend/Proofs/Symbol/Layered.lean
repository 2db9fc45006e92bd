import KotlinBackend.Proofs.Symbol.Contribution
import KotlinBackend.Symbol.Source

/-!
# Functions behind shadowed classes

The first layer that knows a class decides which members the class has. The functions of an
identifier are taken from all layers, so that they are those of the members and in addition those of
the layers behind, where the same class is defined once more.
-/

namespace KotlinBackend

namespace SymbolSource

/-- The functions of a name among the members of a class. -/
def functionsNamed (s : SymbolSource) (c : ClassId) (name : String) : List FunctionSymbol :=
  ((s.members c).filterMap MemberSymbol.function?).filter (·.id.name == name)

def stack (graphs : List SymbolGraph) : SymbolSource := layered (graphs.map (·.source))

end SymbolSource

/-- The graphs behind the first one that knows a class. -/
def shadowed (c : ClassId) : List SymbolGraph → List SymbolGraph
  | [] => []
  | g :: rest => if g.contains c then rest else shadowed c rest

section Layers

variable (c : ClassId) (name : String) {g : SymbolGraph} (rest : List SymbolGraph)

theorem SymbolGraph.members_of_not_contains {c : ClassId} (h : g.contains c = false) :
    g.members c = [] := by
  unfold contains class? at h
  rw [Option.isSome_map, Option.isSome_eq_false_iff, Option.isNone_iff_eq_none] at h
  rw [members, h]

theorem SymbolGraph.functionsOf_member (g : SymbolGraph) :
    g.functionsOf (c.member name) = (g.functionsIn c).filter (·.id.name == name) := rfl

namespace SymbolSource

theorem members_stack_cons :
    (stack (g :: rest)).members c =
      if g.contains c then g.members c else (stack rest).members c := by
  have hSource : g.source.contains c = g.contains c := rfl
  simp only [stack, layered, List.map_cons, List.find?_cons, hSource]
  cases g.contains c <;> rfl

theorem functionsOf_stack_eq_flatMap (graphs : List SymbolGraph) (id : CallableId) :
    (stack graphs).functionsOf id = graphs.flatMap (·.functionsOf id) :=
  List.flatMap_map ..

/-- The functions of an identifier are those among the members of its class, followed by those of
the layers that are shadowed. -/
theorem functionsOf_stack (graphs : List SymbolGraph) :
    (stack graphs).functionsOf (c.member name) =
      (stack graphs).functionsNamed c name ++
        (shadowed c graphs).flatMap (·.functionsOf (c.member name)) := by
  induction graphs with
  | nil => rfl
  | cons g rest ih =>
    rw [functionsOf_stack_eq_flatMap] at ih ⊢
    rw [List.flatMap_cons, functionsNamed, members_stack_cons, shadowed]
    cases hKnown : g.contains c with
    | true => rfl
    | false =>
      have hNone : g.functionsOf (c.member name) = [] := by
        rw [SymbolGraph.functionsOf_member, SymbolGraph.functionsIn,
          SymbolGraph.members_of_not_contains hKnown]
        rfl
      rw [hNone, List.nil_append]
      exact ih

/-- The members of a class are those in the layer that shadows the ones behind it. -/
theorem exists_first_layer (graphs : List SymbolGraph) (h : ∃ g ∈ graphs, g.contains c = true) :
    ∃ before g, graphs = before ++ g :: shadowed c graphs ∧
      (∀ b ∈ before, b.contains c = false) ∧ g.contains c = true ∧
      (stack graphs).members c = g.members c := by
  induction graphs with
  | nil =>
    obtain ⟨g, hg, _⟩ := h
    cases hg
  | cons first rest ih =>
    rw [members_stack_cons, shadowed]
    cases hKnown : first.contains c with
    | true => exact ⟨[], first, rfl, List.forall_mem_nil _, hKnown, rfl⟩
    | false =>
      obtain ⟨g, hg, hContains⟩ := h
      have hRest : g ∈ rest := by
        refine (List.mem_cons.mp hg).resolve_left ?_
        rintro rfl
        rw [hKnown] at hContains
        cases hContains
      obtain ⟨before, first', hSplit, hBefore, hFirst, hMembers⟩ := ih ⟨g, hRest, hContains⟩
      refine ⟨first :: before, first', congrArg (first :: ·) hSplit, ?_, hFirst, hMembers⟩
      exact List.forall_mem_cons.mpr ⟨hKnown, hBefore⟩

end SymbolSource

end Layers

/-- The functions of an identifier are those among the members of its class, which are in the first
layer that knows the class, and those of the layers behind. They are the members alone if and only
if no layer behind has a function of that name in the class. -/
theorem layered_functions_eq_iff (graphs : List SymbolGraph) (c : ClassId) (name : String) :
    let source := SymbolSource.stack graphs
    ((∃ g ∈ graphs, g.contains c = true) →
      ∃ before g, graphs = before ++ g :: shadowed c graphs ∧
        (∀ b ∈ before, b.contains c = false) ∧ g.contains c = true ∧
        source.members c = g.members c) ∧
      source.functionsOf (c.member name) =
        source.functionsNamed c name ++
          (shadowed c graphs).flatMap (·.functionsOf (c.member name)) ∧
      (source.functionsOf (c.member name) = source.functionsNamed c name ↔
        ∀ g ∈ shadowed c graphs, ∀ f ∈ g.functionsIn c, f.id.name ≠ name) := by
  intro source
  have hSplit := SymbolSource.functionsOf_stack c name graphs
  refine ⟨SymbolSource.exists_first_layer c graphs, hSplit, ?_⟩
  rw [hSplit, List.append_right_eq_self, List.flatMap_eq_nil_iff]
  refine forall₂_congr fun g _ => ?_
  rw [SymbolGraph.functionsOf_member, List.filter_eq_nil_iff]
  simp

/-- A class with one function, which is static or is not. -/
def sizedBox (isStatic : Bool) : SymbolGraph :=
  let box := ClassId.inPackage "app" "Box"
  .ofInsertions [.ofClass { id := box },
    .function { id := box.member "size", returnType := default, isStatic }]

/-- The member of the class is not static, but a function of the shadowed class is found too. -/
theorem shadowed_function_found :
    let source := SymbolSource.stack [sizedBox false, sizedBox true]
    let box := ClassId.inPackage "app" "Box"
    (source.functionsNamed box "size").map (·.isStatic) = [false] ∧
      (source.functionsOf (box.member "size")).map (·.isStatic) = [false, true] ∧
      source.functionsOf (box.member "size") ≠ source.functionsNamed box "size" := by
  intro source box
  have hMembers : (source.functionsNamed box "size").map (·.isStatic) = [false] := by
    decide +kernel
  have hFound : (source.functionsOf (box.member "size")).map (·.isStatic) = [false, true] := by
    decide +kernel
  refine ⟨hMembers, hFound, fun hSame => ?_⟩
  rw [hSame, hMembers] at hFound
  cases hFound

end KotlinBackend
