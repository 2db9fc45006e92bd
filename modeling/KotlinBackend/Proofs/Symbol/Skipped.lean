import KotlinBackend.Proofs.Symbol.Placement
import KotlinBackend.Proofs.Symbol.TypeTree

/-!
# What skipped types leave behind

A type with a defect can be taken out of its assembly: the graph stays the same, and the report
loses the entry for the type and no other. A type without a defect that cannot be added leaves the
graph as it is too, except where the class of its companion is taken. Then its own class has been
added before the failure, and it is not taken back. That cannot happen if no accepted type has the
class of a companion.
-/

namespace KotlinBackend

open Metadata (Assembly TypeDef)

namespace Synthesis

section Runs

variable {known : ClassId → Bool} {entry : SkippedType} {hidden : List ClassId}
  {s s' : Synthesis}

/-- The first state has one more entry in its report, and it may have looked at some more classes.
There is no other difference. -/
structure DiffersBy (entry : SkippedType) (hidden : List ClassId) (s s' : Synthesis) : Prop where
  graph : s.graph = s'.graph
  definedBy : s.definedBy = s'.definedBy
  visited : ∀ id, id ∉ hidden → (id ∈ s.visited ↔ id ∈ s'.visited)
  skipped : ∃ earlier later, s.skipped = earlier ++ entry :: later ∧ s'.skipped = earlier ++ later

theorem addType_congr (known : ClassId → Bool) (assembly : String) (t : TypeDef)
    (hGraph : s.graph = s'.graph) (hDefined : s.definedBy = s'.definedBy) :
    (s.addType known assembly t).2 = (s'.addType known assembly t).2 ∧
      (s.addType known assembly t).1.graph = (s'.addType known assembly t).1.graph ∧
      (s.addType known assembly t).1.definedBy = (s'.addType known assembly t).1.definedBy := by
  unfold addType
  rw [hGraph, hDefined]
  split
  · exact ⟨rfl, hGraph, hDefined⟩
  · exact ⟨rfl, hGraph, hDefined⟩
  · split <;> exact ⟨rfl, rfl, rfl⟩

theorem DiffersBy.look (h : s.DiffersBy entry hidden s') (t : TypeDef) :
    (s.look t).DiffersBy entry hidden (s'.look t) where
  graph := h.graph
  definedBy := h.definedBy
  visited id hId := by
    simp only [Synthesis.look, List.mem_cons]
    exact or_congr_right (h.visited id hId)
  skipped := h.skipped

/-- A trial ends in the same way in both states. -/
theorem DiffersBy.trial (h : s.DiffersBy entry hidden s') (known : ClassId → Bool)
    (assembly : String) (t : TypeDef) :
    Trial.failure? known ⟨assembly, t, s⟩ = Trial.failure? known ⟨assembly, t, s'⟩ ∧
      (Trial.next known ⟨assembly, t, s⟩).DiffersBy entry hidden
        (Trial.next known ⟨assembly, t, s'⟩) := by
  obtain ⟨hFailure, hGraph, hDefined⟩ := addType_congr known assembly t h.graph h.definedBy
  refine ⟨hFailure, ?_⟩
  constructor
  case graph =>
    rw [Trial.graph_next, Trial.graph_next]
    exact hGraph
  case definedBy =>
    rw [Trial.definedBy_next, Trial.definedBy_next]
    exact hDefined
  case visited =>
    intro id hId
    rw [Trial.visited_next, Trial.visited_next]
    exact h.visited id hId
  case skipped =>
    obtain ⟨earlier, later, hSkipped, hSkipped'⟩ := h.skipped
    have hReport : Trial.report? known ⟨assembly, t, s⟩ = Trial.report? known ⟨assembly, t, s'⟩ :=
      congrArg (Option.map _) hFailure
    refine ⟨earlier, later ++ (Trial.report? known ⟨assembly, t, s'⟩).toList, ?_, ?_⟩
    · rw [Trial.skipped_next, hReport, hSkipped, List.append_assoc, List.cons_append]
    · rw [Trial.skipped_next, hSkipped', List.append_assoc]

mutual

theorem DiffersBy.addTree (t : TypeDef) {s s' : Synthesis} (h : s.DiffersBy entry hidden s')
    (assembly : String) (hTypes : ∀ u ∈ t.tree, u.classId ∉ hidden) :
    (addTree known assembly t s).DiffersBy entry hidden (addTree known assembly t s') := by
  have hSelf : t.classId ∉ hidden := hTypes t (by rw [TypeDef.tree_eq]; exact List.mem_cons_self)
  have hLooked : s.visited.contains t.classId = s'.visited.contains t.classId := by
    rw [Bool.eq_iff_iff, List.contains_iff_mem, List.contains_iff_mem]
    exact h.visited t.classId hSelf
  obtain ⟨hFailure, hNext⟩ := (h.look t).trial known assembly t
  rw [addTree_eq_next, addTree_eq_next, hLooked]
  split
  · exact h
  · simp only [hFailure]
    split
    · exact hNext
    · obtain ⟨name, nameSpace, declaringType, baseType, interfaces, attributes, constructors,
        methods, fields, properties, events, nestedTypes, typeParameters, flags⟩ := t
      rw [TypeDef.tree_eq] at hTypes
      exact DiffersBy.addTrees nestedTypes hNext assembly (List.forall_mem_cons.mp hTypes).2

theorem DiffersBy.addTrees (ts : List TypeDef) {s s' : Synthesis}
    (h : s.DiffersBy entry hidden s') (assembly : String)
    (hTypes : ∀ u ∈ TypeDef.listTree ts, u.classId ∉ hidden) :
    (addTrees known assembly ts s).DiffersBy entry hidden (addTrees known assembly ts s') := by
  cases ts with
  | nil => exact h
  | cons t rest =>
    rw [TypeDef.listTree, List.forall_mem_append] at hTypes
    exact DiffersBy.addTrees rest (DiffersBy.addTree t h assembly hTypes.1) assembly hTypes.2

end

theorem DiffersBy.addAssembly (h : s.DiffersBy entry hidden s') (a : Assembly) :
    (addAssembly known s a).DiffersBy entry [] (addAssembly known s' a) := by
  have hStart : ({ s with visited := [] } : Synthesis).DiffersBy entry []
      { s' with visited := [] } := ⟨h.graph, h.definedBy, fun _ _ => Iff.rfl, h.skipped⟩
  exact hStart.addTrees _ a.name fun _ _ => List.not_mem_nil

theorem DiffersBy.foldl (h : s.DiffersBy entry hidden s') (assemblies : List Assembly) :
    ∃ hidden, (assemblies.foldl (Synthesis.addAssembly known) s).DiffersBy entry hidden
      (assemblies.foldl (Synthesis.addAssembly known) s') := by
  induction assemblies generalizing s s' hidden with
  | nil => exact ⟨hidden, h⟩
  | cons a rest ih => exact ih (h.addAssembly a)

theorem addTrees_append (known : ClassId → Bool) (assembly : String) (ts us : List TypeDef)
    (s : Synthesis) :
    addTrees known assembly (ts ++ us) s =
      addTrees known assembly us (addTrees known assembly ts s) := by
  induction ts generalizing s with
  | nil => rfl
  | cons t rest ih => exact ih _

theorem differsBy_addTree {t : TypeDef} {defect : SkipReason} (hDefect : t.defect? = some defect)
    (assembly : String) (hNew : t.classId ∉ s.visited) :
    (addTree known assembly t s).DiffersBy ⟨assembly, t.fullName, defect⟩ [t.classId] s := by
  have hAdd : ({ s with visited := t.classId :: s.visited } : Synthesis).addType known assembly t =
      ({ s with visited := t.classId :: s.visited }, some defect) := by
    simp only [addType, hDefect]
  rw [addTree_eq, if_neg (mt List.contains_iff_mem.mp hNew), hAdd]
  constructor
  case graph => rfl
  case definedBy => rfl
  case visited =>
    intro id hId
    rw [List.mem_singleton] at hId
    simp [skip, hId]
  case skipped => exact ⟨s.skipped, [], rfl, (List.append_nil _).symm⟩

/-- Wherever a type stands in an assembly, the others keep their order in the work. -/
theorem exists_work (name : String) (front back : List TypeDef) (t : TypeDef) :
    ∃ first second, (Assembly.mk name (front ++ t :: back)).topLevelTypes ++
        (front ++ t :: back).filter (·.flags.isNested) = first ++ t :: second ∧
      (Assembly.mk name (front ++ back)).topLevelTypes ++
        (front ++ back).filter (·.flags.isNested) = first ++ second := by
  cases hNested : t.flags.isNested with
  | false =>
    refine ⟨front.filter (!·.flags.isNested), back.filter (!·.flags.isNested) ++
      (front ++ back).filter (·.flags.isNested), ?_, ?_⟩ <;>
      simp [Assembly.topLevelTypes, hNested]
  | true =>
    refine ⟨(front ++ back).filter (!·.flags.isNested) ++ front.filter (·.flags.isNested),
      back.filter (·.flags.isNested), ?_, ?_⟩ <;>
      simp [Assembly.topLevelTypes, hNested]

theorem differsBy_addAssembly (known : ClassId → Bool) (s : Synthesis) {t : TypeDef}
    {defect : SkipReason} {front back : List TypeDef} (hDefect : t.defect? = some defect)
    (hOwn : ∀ u ∈ TypeDef.listTree (front ++ back), u.classId ≠ t.classId) (name : String) :
    (addAssembly known s ⟨name, front ++ t :: back⟩).DiffersBy ⟨name, t.fullName, defect⟩
      [t.classId] (addAssembly known s ⟨name, front ++ back⟩) := by
  obtain ⟨first, second, hWork, hWork'⟩ := exists_work name front back t
  have hTypes : ∀ u ∈ TypeDef.listTree (first ++ second), u.classId ≠ t.classId := by
    intro u hu
    refine hOwn u (TypeDef.listTree_subset (fun v hv => ?_) hu)
    rw [← hWork'] at hv
    exact mem_work_iff.mp hv
  rw [TypeDef.listTree_eq_flatMap, List.flatMap_append, ← TypeDef.listTree_eq_flatMap,
    ← TypeDef.listTree_eq_flatMap, List.forall_mem_append] at hTypes
  unfold addAssembly
  rw [hWork, hWork', addTrees_append, addTrees_append]
  -- Nothing before the type has its class, so that the type itself is looked at.
  have hTries := tries_addTrees known name first { s with visited := [] }
  have hNew : t.classId ∉ (addTrees known name first { s with visited := [] }).visited := by
    rw [hTries.mem_visited_iff]
    rintro (⟨c, hc, hClass⟩ | hBefore)
    · exact hTypes.1 _ (TypeDef.listedIn_subset_listTree first (hTries.own c hc).2) hClass
    · cases hBefore
  refine (differsBy_addTree hDefect name hNew).addTrees second name fun u hu => ?_
  rw [List.mem_singleton]
  exact hTypes.2 u hu

end Runs

end Synthesis

theorem Metadata.TypeDef.knownClassesList_without {t : TypeDef} (h : t.isAccepted = false)
    (front back : List TypeDef) :
    TypeDef.knownClassesList (front ++ t :: back) = TypeDef.knownClassesList (front ++ back) := by
  have hListed : t.listed = [t] := by
    rw [TypeDef.listed_eq, h]
    rfl
  simp only [TypeDef.knownClassesList_eq, TypeDef.listedIn_eq_flatMap, List.flatMap_append,
    List.flatMap_cons, hListed, List.filter_append]
  simp [h]

theorem foreignClasses_without {t : TypeDef} (h : t.isAccepted = false)
    (before after : List Assembly) (name : String) (front back : List TypeDef) :
    foreignClasses (before ++ ⟨name, front ++ t :: back⟩ :: after) =
      foreignClasses (before ++ ⟨name, front ++ back⟩ :: after) := by
  simp only [foreignClasses, List.flatMap_append, List.flatMap_cons,
    TypeDef.knownClassesList_without h]

/-- A type with a defect, whose class no other type of the assembly has, can be left out: the graph
is the same without it, and so is the report but for the entry of the type. -/
theorem synthesize_without_defective {t : TypeDef} {defect : SkipReason}
    {front back : List TypeDef} (hDefect : t.defect? = some defect)
    (hOwn : ∀ u ∈ TypeDef.listTree (front ++ back), u.classId ≠ t.classId)
    (before after : List Assembly) (name : String) :
    let whole := synthesize (before ++ ⟨name, front ++ t :: back⟩ :: after)
    let rest := synthesize (before ++ ⟨name, front ++ back⟩ :: after)
    whole.graph = rest.graph ∧ ∃ earlier later,
      whole.report.skipped = earlier ++ ⟨name, t.fullName, defect⟩ :: later ∧
        rest.report.skipped = earlier ++ later := by
  intro whole rest
  have hAccepted : t.isAccepted = false := by simp [TypeDef.isAccepted, hDefect]
  let known := (foreignClasses (before ++ ⟨name, front ++ back⟩ :: after)).contains
  let start := before.foldl (Synthesis.addAssembly known) {}
  have hWhole : whole = after.foldl (Synthesis.addAssembly known)
      (Synthesis.addAssembly known start ⟨name, front ++ t :: back⟩) := by
    simp only [whole, synthesize, foreignClasses_without hAccepted, List.foldl_append,
      List.foldl_cons, start, known]
  have hRest : rest = after.foldl (Synthesis.addAssembly known)
      (Synthesis.addAssembly known start ⟨name, front ++ back⟩) := by
    simp only [rest, synthesize, List.foldl_append, List.foldl_cons, start, known]
  obtain ⟨hidden, hDiffers⟩ :=
    (Synthesis.differsBy_addAssembly known start hDefect hOwn name).foldl after
  rw [← hWhole, ← hRest] at hDiffers
  exact ⟨hDiffers.graph, hDiffers.skipped⟩

/-- A type that declares fewer parameters than its name says. -/
def brokenBag : TypeDef := { libraryType "Bag`2" with typeParameters := [{ name := "T" }] }

theorem synthesize_without_brokenBag :
    let others := [outerType, shopType "Outer+Inner"]
    let copies : List Assembly := [⟨"Copy", [libraryType "Bag", outerType]⟩]
    let whole := synthesize (⟨"Lib", [outerType, brokenBag, shopType "Outer+Inner"]⟩ :: copies)
    let rest := synthesize (⟨"Lib", others⟩ :: copies)
    brokenBag.defect? = some (.arityMismatch 2 1) ∧
      (∀ u ∈ TypeDef.listTree others, u.classId ≠ brokenBag.classId) ∧
      whole.graph = rest.graph ∧ ∃ earlier later,
        whole.report.skipped = earlier ++ ⟨"Lib", brokenBag.fullName, .arityMismatch 2 1⟩ :: later ∧
          rest.report.skipped = earlier ++ later := by
  intro others copies whole rest
  have hDefect : brokenBag.defect? = some (.arityMismatch 2 1) := by decide +kernel
  have hOwn : ∀ u ∈ TypeDef.listTree others, u.classId ≠ brokenBag.classId := by decide +kernel
  exact ⟨hDefect, hOwn, @synthesize_without_defective brokenBag _ [outerType] _ hDefect hOwn []
    copies "Lib"⟩

/-- A type without defect has a class that is new and a companion whose class is not. -/
def Synthesis.CompanionTaken (s : Synthesis) (t : TypeDef) : Prop :=
  t.isAccepted = true ∧ s.definedBy.contains t.classId = false ∧ t.classId ∉ s.graph.classIds ∧
    ∃ id ∈ t.companionClass?, id ∈ s.graph.classIds

instance (s : Synthesis) (t : TypeDef) : Decidable (s.CompanionTaken t) :=
  inferInstanceAs (Decidable (_ ∧ _ ∧ _ ∧ ∃ id ∈ t.companionClass?, id ∈ s.graph.classIds))

namespace SymbolGraph

variable {g : SymbolGraph}

theorem insert_of_mem {node : ClassNode} (h : node.id ∈ g.classIds) :
    g.insert (.ofClass node) = .error (.duplicateClass node.id) g := by
  rw [insert_eq_error_iff]
  simp [Insertion.refusal?, Insertion.class?, h]

theorem insertAll_members_of_mem {t : TypeDef} {id : ClassId} (known : ClassId → Bool)
    (origin : SymbolOrigin) (hId : t.companionClass? = some id) (hTaken : id ∈ g.classIds) :
    g.insertAll (t.memberInsertions known origin) = (g, some (.duplicateClass id)) := by
  have hMembers : t.memberInsertions known origin =
      t.companionPart origin ++ t.ownMembers known :=
    (List.cons.inj (t.insertions_eq known origin)).2
  have hRefused : g.insert (.ofClass (companionSymbol origin id).node) =
      .error (.duplicateClass id) g :=
    insert_of_mem hTaken
  rw [hMembers, TypeDef.companionPart, hId, Option.toList_some, List.flatMap_singleton,
    List.cons_append, insertAll, hRefused]

end SymbolGraph

namespace Synthesis

section Failures

variable {known : ClassId → Bool} {s : Synthesis} {assembly : String} {t : TypeDef}

theorem addType_of_new (known : ClassId → Bool) (assembly : String)
    (hAccepted : t.isAccepted = true) (hNew : s.definedBy.contains t.classId = false) :
    s.addType known assembly t =
      match s.graph.insert (.ofClass (t.classSymbol known (.assembly assembly)).node) with
      | .error e _ => (s, some (.conflict e))
      | .ok _ g =>
        let added := g.insertAll (t.memberInsertions known (.assembly assembly))
        ({ s with graph := added.1, definedBy := s.definedBy.insert t.classId assembly },
          added.2.map .conflict) := by
  have hDefect : t.defect? = none := Option.isNone_iff_eq_none.mp hAccepted
  have hUndefined : s.definedBy.get? t.classId = none := by
    simpa [OrderedMap.contains] using hNew
  cases hAdd : s.graph.insert (.ofClass (t.classSymbol known (.assembly assembly)).node) with
  | error e g =>
    obtain rfl := (SymbolGraph.insert_eq_error_iff.mp hAdd).2
    simp only [addType, hDefect, hUndefined, hAdd]
  | ok position g => simp only [addType, hDefect, hUndefined, hAdd]

/-- The class is added before the companion is refused. -/
theorem CompanionTaken.addType_eq (h : s.CompanionTaken t) (known : ClassId → Bool)
    (assembly : String) :
    ∃ g, g.classIds = s.graph.classIds ++ [t.classId] ∧
      s.addType known assembly t =
        ({ s with graph := g, definedBy := s.definedBy.insert t.classId assembly },
          some (.conflict (.duplicateClass t.classId.companion))) := by
  obtain ⟨hAccepted, hNew, hAbsent, id, hId, hTaken⟩ := h
  obtain rfl := TypeDef.eq_companion hId
  let node := (t.classSymbol known (.assembly assembly)).node
  obtain ⟨_, g, hClass⟩ := SymbolGraph.exists_insert (g := s.graph) (i := .ofClass node)
    (by rintro _ ⟨⟩; exact hAbsent) nofun
  have hIds : g.classIds = s.graph.classIds ++ [t.classId] := SymbolGraph.classIds_insert hClass
  refine ⟨g, hIds, ?_⟩
  have hMembers := SymbolGraph.insertAll_members_of_mem known (.assembly assembly) hId
    (hIds ▸ List.mem_append_left _ hTaken)
  rw [addType_of_new known assembly hAccepted hNew, hClass]
  simp only [hMembers, Option.map_some]

/-- Any other failure comes before anything is added. -/
theorem addType_eq_self (h : ¬ s.CompanionTaken t) {reason : SkipReason}
    (hFailure : (s.addType known assembly t).2 = some reason) :
    s.addType known assembly t = (s, some reason) := by
  by_cases hSkip : t.isAccepted = false ∨ s.Defines t.classId
  · obtain ⟨first, hAdd⟩ : ∃ first, s.addType known assembly t = (s, some first) :=
      addType_skipped hSkip assembly
    rw [hAdd] at hFailure ⊢
    rw [← hFailure]
  · obtain ⟨hAccepted, hNew⟩ := not_or.mp hSkip
    rw [Bool.not_eq_false] at hAccepted
    have hUndefined : s.definedBy.contains t.classId = false := Bool.eq_false_iff.mpr hNew
    rw [addType_of_new known assembly hAccepted hUndefined] at hFailure ⊢
    cases hClass : s.graph.insert (.ofClass (t.classSymbol known (.assembly assembly)).node) with
    | error e g =>
      rw [hClass] at hFailure
      rw [← hFailure]
    | ok position g =>
      -- Once the class is there, only the companion could be refused.
      have hAbsent : t.classId ∉ s.graph.classIds := by
        intro hMem
        have hRefused : s.graph.insert
            (.ofClass (t.classSymbol known (.assembly assembly)).node) = _ :=
          SymbolGraph.insert_of_mem hMem
        rw [hClass] at hRefused
        cases hRefused
      have hIds : g.classIds = s.graph.classIds ++ [t.classId] :=
        SymbolGraph.classIds_insert hClass
      have hFresh : ∀ id ∈ t.companionClass?, id ∉ g.classIds := by
        intro id hId hMem
        rw [hIds, List.mem_append, List.mem_singleton] at hMem
        rcases hMem with hMem | rfl
        · exact h ⟨hAccepted, hUndefined, hAbsent, id, hId, hMem⟩
        · exact t.classId.companion_ne (TypeDef.eq_companion hId)
      obtain ⟨g', hMembers, _⟩ := SymbolGraph.exists_insert_members known (.assembly assembly)
        (by rw [hIds]; exact List.mem_append_right _ List.mem_cons_self) hFresh
      simp [hClass, hMembers] at hFailure

end Failures

end Synthesis

/-- A type that is skipped leaves the graph and the definitions as they were, unless its companion
is taken. In that case its class stays in the graph. -/
theorem skip_leaves_no_trace_iff {known : ClassId → Bool} {s : Synthesis} {assembly : String}
    {t : TypeDef} {reason : SkipReason} (h : (s.addType known assembly t).2 = some reason) :
    let after := (s.addType known assembly t).1
    (after.graph = s.graph ∧ after.definedBy = s.definedBy ↔ ¬ s.CompanionTaken t) ∧
      (s.CompanionTaken t → reason = .conflict (.duplicateClass t.classId.companion) ∧
        after.graph.classIds = s.graph.classIds ++ [t.classId] ∧
        after.definedBy = s.definedBy.insert t.classId assembly) := by
  intro after
  refine ⟨⟨?_, ?_⟩, ?_⟩
  · rintro ⟨hGraph, _⟩ hTaken
    obtain ⟨g, hIds, hAdd⟩ := hTaken.addType_eq known assembly
    have hAfter : after.graph = g := congrArg (·.1.graph) hAdd
    rw [← hAfter, hGraph] at hIds
    simp at hIds
  · intro hFree
    have hAfter : after = s := congrArg Prod.fst (Synthesis.addType_eq_self hFree h)
    rw [hAfter]
    exact ⟨rfl, rfl⟩
  · intro hTaken
    obtain ⟨g, hIds, hAdd⟩ := hTaken.addType_eq known assembly
    rw [hAdd] at h
    refine ⟨(Option.some.inj h).symm, ?_, congrArg (·.1.definedBy) hAdd⟩
    rw [← hIds]
    exact congrArg (·.1.graph.classIds) hAdd

/-- A method that belongs to a companion. -/
def staticMethod : Metadata.Method :=
  { name := "open", returnType := { name := "T" }, isStatic := true }

/-- A type with a companion has another type nested in it, with the name of the companion. -/
def ownCompanion : List Assembly :=
  alone { libraryType "Outer" with
    methods := [staticMethod]
    nestedTypes := [{ innerType with name := "Companion" }] }

theorem companion_type_leaves_no_trace :
    let known := (foreignClasses ownCompanion).contains
    ∃ c ∈ trials ownCompanion,
      (c.failure? known).isSome = true ∧ c.type.isAccepted = true ∧
        (c.result known).1.graph = c.state.graph ∧
        (c.result known).1.definedBy = c.state.definedBy := by
  intro known
  have hTrial : ∃ c ∈ trials ownCompanion, (c.failure? known).isSome = true ∧
      c.type.isAccepted = true ∧ ¬ c.state.CompanionTaken c.type := by
    decide +kernel
  obtain ⟨c, hc, hFailure, hAccepted, hFree⟩ := hTrial
  obtain ⟨reason, hReason⟩ := Option.isSome_iff_exists.mp hFailure
  exact ⟨c, hc, hFailure, hAccepted, (skip_leaves_no_trace_iff hReason).1.mpr hFree⟩

/-- Two types are nested in `Shop`, the inner one of them listed first. -/
def tillFirst : List Assembly :=
  [⟨"Lib", [libraryType "Shop",
    { innerType with name := "Companion", declaringType := some "Shop+Till" },
    { innerType with
      name := "Till"
      declaringType := some "Shop"
      methods := [staticMethod] }]⟩]

/-- A type that is reported as skipped was not in the graph before, and is in the graph after. -/
theorem till_leaves_class :
    let known := (foreignClasses tillFirst).contains
    ∃ c ∈ trials tillFirst,
      c.failure? known =
          some (.conflict (.duplicateClass ⟨⟨"Lib"⟩, ["Shop", "Till", "Companion"]⟩)) ∧
        c.state.graph.contains c.type.classId = false ∧
        (c.result known).1.graph.contains c.type.classId = true ∧
        c.state.definedBy.get? c.type.classId = none ∧
        (c.result known).1.definedBy.get? c.type.classId = some "Lib" := by
  decide +kernel

section Apart

variable {known : ClassId → Bool} {types : List TypeDef} {s s' : Synthesis} {cs : List Trial}

theorem Trial.sound_next (c : Trial) (hApart : CompanionsApart types) (hType : c.type ∈ types)
    (hSound : c.state.Sound types) :
    (c.next known).Sound types ∧ ∀ id, (c.next known).Defines id →
      c.state.Defines id ∨ c.type.classId = id ∧ c.failure? known = none := by
  by_cases hSkip : c.type.isAccepted = false ∨ c.state.Defines c.type.classId
  · obtain ⟨reason, hAdd⟩ : ∃ reason, c.result known = (c.state, some reason) :=
      Synthesis.addType_skipped hSkip c.assembly
    have hNext : c.next known = c.state.skip c.assembly c.type reason := by rw [next, hAdd]
    rw [hNext]
    exact ⟨⟨hSound.listed, hSound.present, hSound.source⟩, fun _ => .inl⟩
  · obtain ⟨hAccepted, hNew⟩ := not_or.mp hSkip
    rw [Bool.not_eq_false] at hAccepted
    obtain ⟨added, hAdd, hSound', hDefines, _⟩ :=
      Synthesis.addType_new hSound hApart hType hAccepted hNew c.assembly
    have hResult : c.result known = (added, none) := hAdd
    have hNext : c.next known = added := by rw [next, hResult]
    rw [hNext]
    refine ⟨hSound', fun id hId => ?_⟩
    rcases (hDefines id).mp hId with rfl | hId
    · exact .inr ⟨rfl, congrArg Prod.snd hResult⟩
    · exact .inl hId

/-- If no accepted type has the class of a companion, the states of a run are all sound, and what
is defined in the end was defined by a trial that did not fail. -/
theorem Synthesis.Run.sound (h : s.Run known cs s') (hApart : CompanionsApart types)
    (hTypes : ∀ c ∈ cs, c.type ∈ types) (hSound : s.Sound types) :
    s'.Sound types ∧ (∀ c ∈ cs, c.state.Sound types) ∧ ∀ id, s'.Defines id →
      s.Defines id ∨ ∃ c ∈ cs, c.type.classId = id ∧ c.failure? known = none := by
  induction h with
  | done s visited =>
    exact ⟨⟨hSound.listed, hSound.present, hSound.source⟩, List.forall_mem_nil _, fun _ => .inl⟩
  | @trial s s' rest assembly t visited _ ih =>
    obtain ⟨hType, hTypes⟩ := List.forall_mem_cons.mp hTypes
    have hState : ({ s with visited } : Synthesis).Sound types :=
      ⟨hSound.listed, hSound.present, hSound.source⟩
    obtain ⟨hNext, hNew⟩ := Trial.sound_next ⟨assembly, t, { s with visited }⟩ hApart hType hState
    obtain ⟨hEnd, hStates, hDefined⟩ := ih hTypes hNext
    refine ⟨hEnd, List.forall_mem_cons.mpr ⟨hState, hStates⟩, fun id hId => ?_⟩
    rcases hDefined id hId with hId | ⟨c, hc, hTrial⟩
    · rcases hNew id hId with hId | hFirst
      · exact .inl hId
      · exact .inr ⟨_, List.mem_cons_self, hFirst⟩
    · exact .inr ⟨c, List.mem_cons_of_mem _ hc, hTrial⟩

variable {assemblies : List Assembly}

theorem sound_trials (hApart : CompanionsApart (listedTypes assemblies)) :
    (synthesize assemblies).Sound (listedTypes assemblies) ∧
      (∀ c ∈ trials assemblies, c.type ∈ listedTypes assemblies ∧
        c.state.Sound (listedTypes assemblies)) ∧
      ∀ id, (synthesize assemblies).Defines id → ∃ c ∈ trials assemblies,
        c.type.classId = id ∧ c.failure? (foreignClasses assemblies).contains = none := by
  have hTypes : ∀ c ∈ trials assemblies, c.type ∈ listedTypes assemblies := by
    intro c hc
    obtain ⟨a, ha, _, hListed⟩ := Synthesis.mem_assembliesTrials hc
    exact List.mem_flatMap.mpr ⟨a, ha, hListed⟩
  obtain ⟨hEnd, hStates, hDefined⟩ :=
    (run_trials assemblies).sound hApart hTypes ⟨nofun, nofun, nofun⟩
  refine ⟨hEnd, fun c hc => ⟨hTypes c hc, hStates c hc⟩, fun id hId => ?_⟩
  rcases hDefined id hId with hNone | hTrial
  · cases hNone
  · exact hTrial

/-- If no accepted type has the class of a companion, no type that is skipped leaves a trace. -/
theorem skips_leave_no_trace (hApart : CompanionsApart (listedTypes assemblies)) {c : Trial}
    (hc : c ∈ trials assemblies) {reason : SkipReason}
    (hFailure : c.failure? (foreignClasses assemblies).contains = some reason) :
    (c.result (foreignClasses assemblies).contains).1 = c.state := by
  obtain ⟨hType, hSound⟩ := (sound_trials hApart).2.1 c hc
  have hFree : ¬ c.state.CompanionTaken c.type := by
    rintro ⟨hAccepted, hNew, _, id, hId, hTaken⟩
    exact hSound.companion_not_mem hApart hType hAccepted (Bool.eq_false_iff.mp hNew) hId hTaken
  exact congrArg Prod.fst (Synthesis.addType_eq_self hFree hFailure)

end Apart

end KotlinBackend
