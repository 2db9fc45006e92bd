import KotlinBackend.Proofs.Symbol.Mentioned
import KotlinBackend.Proofs.Symbol.Refinement

/-!
# Which known classes are defined

References may name every class that the assemblies list, while the synthesis leaves out a type when
its class was looked at or defined before. What is left out that way is in the graph nonetheless if
the types of one class agree with each other.
-/

namespace KotlinBackend

open Metadata (Assembly TypeDef)

def Metadata.TypeDef.isAccepted (t : TypeDef) : Bool := t.defect?.isNone

mutual

/-- A type and the types nested in it. What is nested in a defective type is not listed. -/
def Metadata.TypeDef.listed : TypeDef → List TypeDef
  | type@{ nestedTypes, .. } =>
    type :: if type.isAccepted then Metadata.TypeDef.listedIn nestedTypes else []

def Metadata.TypeDef.listedIn : List TypeDef → List TypeDef
  | [] => []
  | type :: rest => Metadata.TypeDef.listed type ++ Metadata.TypeDef.listedIn rest

end

/-- The class of the companion that a type brings along. -/
def Metadata.TypeDef.companionClass? (t : TypeDef) : Option ClassId :=
  if t.shape = .plainClass then t.companion? else none

def listedTypes (assemblies : List Assembly) : List TypeDef :=
  assemblies.flatMap fun a => TypeDef.listedIn a.types

/-- Within an assembly, the types of one class are all accepted or all defective. -/
def AcceptedAlike (assemblies : List Assembly) : Prop :=
  ∀ a ∈ assemblies, ∀ t ∈ TypeDef.listedIn a.types, ∀ t' ∈ TypeDef.listedIn a.types,
    t.classId = t'.classId → t.isAccepted = t'.isAccepted

/-- Accepted types of one class have the same accepted classes nested. -/
def NestedAlike (types : List TypeDef) : Prop :=
  ∀ t ∈ types, ∀ t' ∈ types, t.isAccepted = true → t'.isAccepted = true → t.classId = t'.classId →
    ∀ n ∈ t.nestedTypes, n.isAccepted = true →
      ∃ n' ∈ t'.nestedTypes, n'.isAccepted = true ∧ n'.classId = n.classId

/-- No accepted type has the class of a companion. -/
def CompanionsApart (types : List TypeDef) : Prop :=
  ∀ t ∈ types, ∀ t' ∈ types,
    t.isAccepted = true → t'.isAccepted = true → t.companionClass? ≠ some t'.classId

/-- The types of one class agree with each other, also those of different assemblies. -/
structure Coherent (assemblies : List Assembly) : Prop where
  accepted : AcceptedAlike assemblies
  nested : NestedAlike (listedTypes assemblies)
  companion : CompanionsApart (listedTypes assemblies)

instance (assemblies : List Assembly) : Decidable (AcceptedAlike assemblies) :=
  inferInstanceAs (Decidable (∀ a ∈ assemblies, ∀ t ∈ TypeDef.listedIn a.types,
    ∀ t' ∈ TypeDef.listedIn a.types, t.classId = t'.classId → t.isAccepted = t'.isAccepted))

instance (types : List TypeDef) : Decidable (NestedAlike types) :=
  inferInstanceAs (Decidable (∀ t ∈ types, ∀ t' ∈ types, t.isAccepted = true →
    t'.isAccepted = true → t.classId = t'.classId → ∀ n ∈ t.nestedTypes, n.isAccepted = true →
      ∃ n' ∈ t'.nestedTypes, n'.isAccepted = true ∧ n'.classId = n.classId))

instance (types : List TypeDef) : Decidable (CompanionsApart types) :=
  inferInstanceAs (Decidable (∀ t ∈ types, ∀ t' ∈ types, t.isAccepted = true →
    t'.isAccepted = true → t.companionClass? ≠ some t'.classId))

section Listed

theorem Metadata.TypeDef.listed_eq (t : TypeDef) :
    t.listed = t :: if t.isAccepted then TypeDef.listedIn t.nestedTypes else [] := by
  obtain ⟨name, nameSpace, declaringType, baseType, interfaces, attributes, constructors, methods,
    fields, properties, events, nestedTypes, typeParameters, flags⟩ := t
  rw [TypeDef.listed]

theorem Metadata.TypeDef.mem_listed (t : TypeDef) : t ∈ t.listed := by
  rw [TypeDef.listed_eq]
  exact List.mem_cons_self

theorem Metadata.TypeDef.listedIn_eq_flatMap (ts : List TypeDef) :
    TypeDef.listedIn ts = ts.flatMap TypeDef.listed := by
  induction ts with
  | nil => rfl
  | cons t rest ih => rw [TypeDef.listedIn, ih, List.flatMap_cons]

theorem Metadata.TypeDef.mem_listedIn {t : TypeDef} {ts : List TypeDef} (h : t ∈ ts) :
    t ∈ TypeDef.listedIn ts := by
  rw [TypeDef.listedIn_eq_flatMap]
  exact List.mem_flatMap.mpr ⟨t, h, t.mem_listed⟩

mutual

theorem Metadata.TypeDef.nested_mem_listed (t : TypeDef) {u n : TypeDef} (hu : u ∈ t.listed)
    (hAccepted : u.isAccepted = true) (hn : n ∈ u.nestedTypes) : n ∈ t.listed := by
  obtain ⟨name, nameSpace, declaringType, baseType, interfaces, attributes, constructors, methods,
    fields, properties, events, nestedTypes, typeParameters, flags⟩ := t
  rw [TypeDef.listed_eq] at hu ⊢
  rcases List.mem_cons.mp hu with rfl | hu
  · rw [if_pos hAccepted]
    exact List.mem_cons_of_mem _ (TypeDef.mem_listedIn hn)
  · split at hu
    · rename_i hOuter
      rw [if_pos hOuter]
      exact List.mem_cons_of_mem _ (TypeDef.nested_mem_listedIn nestedTypes hu hAccepted hn)
    · cases hu

theorem Metadata.TypeDef.nested_mem_listedIn (ts : List TypeDef) {u n : TypeDef}
    (hu : u ∈ TypeDef.listedIn ts) (hAccepted : u.isAccepted = true) (hn : n ∈ u.nestedTypes) :
    n ∈ TypeDef.listedIn ts := by
  cases ts with
  | nil => cases hu
  | cons t rest =>
    rcases List.mem_append.mp hu with hu | hu
    · exact List.mem_append_left _ (TypeDef.nested_mem_listed t hu hAccepted hn)
    · exact List.mem_append_right _ (TypeDef.nested_mem_listedIn rest hu hAccepted hn)

end

mutual

theorem Metadata.TypeDef.listed_induction {Q : TypeDef → Prop} (t : TypeDef)
    (hNested : ∀ u ∈ t.listed, u.isAccepted = true → Q u →
      ∀ n ∈ u.nestedTypes, n.isAccepted = true → Q n)
    (h : t.isAccepted = true → Q t) : ∀ u ∈ t.listed, u.isAccepted = true → Q u := by
  obtain ⟨name, nameSpace, declaringType, baseType, interfaces, attributes, constructors, methods,
    fields, properties, events, nestedTypes, typeParameters, flags⟩ := t
  rw [TypeDef.listed_eq] at hNested ⊢
  intro u hu hAccepted
  rcases List.mem_cons.mp hu with rfl | hu
  · exact h hAccepted
  · split at hu
    · rename_i hOuter
      rw [if_pos hOuter] at hNested
      refine TypeDef.listedIn_induction nestedTypes ?_ ?_ u hu hAccepted
      · exact fun v hv => hNested v (List.mem_cons_of_mem _ hv)
      · exact hNested _ List.mem_cons_self hOuter (h hOuter)
    · cases hu

/-- What holds of the types of a list, and of what is nested in a type whenever it holds of the
type, holds of all that is listed. -/
theorem Metadata.TypeDef.listedIn_induction {Q : TypeDef → Prop} (ts : List TypeDef)
    (hNested : ∀ u ∈ TypeDef.listedIn ts, u.isAccepted = true → Q u →
      ∀ n ∈ u.nestedTypes, n.isAccepted = true → Q n)
    (h : ∀ t ∈ ts, t.isAccepted = true → Q t) :
    ∀ u ∈ TypeDef.listedIn ts, u.isAccepted = true → Q u := by
  cases ts with
  | nil => exact nofun
  | cons t rest =>
    rw [TypeDef.listedIn, List.forall_mem_append] at hNested
    obtain ⟨hFirst, hRest⟩ := List.forall_mem_cons.mp h
    intro u hu
    rcases List.mem_append.mp hu with hu | hu
    · exact TypeDef.listed_induction t hNested.1 hFirst u hu
    · exact TypeDef.listedIn_induction rest hNested.2 hRest u hu

end

mutual

theorem Metadata.TypeDef.knownClasses_eq (t : TypeDef) :
    t.knownClasses = (t.listed.filter (·.isAccepted)).map (·.classId) := by
  obtain ⟨name, nameSpace, declaringType, baseType, interfaces, attributes, constructors, methods,
    fields, properties, events, nestedTypes, typeParameters, flags⟩ := t
  rw [TypeDef.listed_eq, TypeDef.knownClasses]
  split
  · rename_i hDefect
    have hAccepted : TypeDef.isAccepted _ = false := Option.isNone_eq_false_iff.mpr hDefect
    simp [hAccepted]
  · rename_i hDefect
    have hAccepted : TypeDef.isAccepted _ = true :=
      Option.isNone_iff_eq_none.mpr (Option.not_isSome_iff_eq_none.mp hDefect)
    rw [if_pos hAccepted, List.filter_cons_of_pos hAccepted, List.map_cons,
      TypeDef.knownClassesList_eq nestedTypes]

theorem Metadata.TypeDef.knownClassesList_eq (ts : List TypeDef) :
    TypeDef.knownClassesList ts =
      ((TypeDef.listedIn ts).filter (·.isAccepted)).map (·.classId) := by
  cases ts with
  | nil => rfl
  | cons t rest =>
    rw [TypeDef.knownClassesList, TypeDef.listedIn, TypeDef.knownClasses_eq t,
      TypeDef.knownClassesList_eq rest, List.filter_append, List.map_append]

end

theorem mem_foreignClasses {assemblies : List Assembly} {id : ClassId} :
    id ∈ foreignClasses assemblies ↔
      ∃ t ∈ listedTypes assemblies, t.isAccepted = true ∧ t.classId = id := by
  simp only [foreignClasses, mem_distinct, List.mem_flatMap, TypeDef.knownClassesList_eq,
    List.mem_map, List.mem_filter, listedTypes]
  constructor
  · rintro ⟨a, ha, t, ⟨ht, hAccepted⟩, hId⟩
    exact ⟨t, ⟨a, ha, ht⟩, hAccepted, hId⟩
  · rintro ⟨t, ⟨a, ha, ht⟩, hAccepted, hId⟩
    exact ⟨a, ha, t, ⟨ht, hAccepted⟩, hId⟩

end Listed

namespace SymbolGraph

variable {g : SymbolGraph}

theorem exists_insert {i : Insertion} (hClass : ∀ id ∈ i.class?, id ∉ g.classIds)
    (hOwner : ∀ id ∈ i.owner?, id ∈ g.classIds) : ∃ position g', g.insert i = .ok position g' := by
  cases hInsert : g.insert i with
  | ok position g' => exact ⟨position, g', rfl⟩
  | error e g' =>
    have hRefused := (insert_eq_error_iff.mp hInsert).1
    unfold Insertion.refusal? at hRefused
    split at hRefused
    · rename_i id hId
      rw [if_neg (hClass id hId)] at hRefused
      cases hRefused
    · obtain ⟨owner, hSome, hRefused⟩ := Option.bind_eq_some_iff.mp hRefused
      rw [if_pos (hOwner owner hSome)] at hRefused
      cases hRefused

theorem exists_insertAll {is : List Insertion} (hClasses : ∀ i ∈ is, i.class? = none)
    (hOwners : ∀ i ∈ is, ∀ id ∈ i.owner?, id ∈ g.classIds) :
    ∃ g', g.insertAll is = (g', none) ∧ g'.classIds = g.classIds := by
  induction is generalizing g with
  | nil => exact ⟨g, rfl, rfl⟩
  | cons i rest ih =>
    obtain ⟨hClass, hClasses⟩ := List.forall_mem_cons.mp hClasses
    obtain ⟨hOwner, hOwners⟩ := List.forall_mem_cons.mp hOwners
    obtain ⟨position, g', hInsert⟩ := exists_insert (g := g) (i := i) (by simp [hClass]) hOwner
    have hIds : g'.classIds = g.classIds := by
      rw [classIds_insert hInsert, hClass, Option.toList_none, List.append_nil]
    obtain ⟨g'', hRest, hIds'⟩ := ih (g := g') hClasses (by rwa [hIds])
    refine ⟨g'', ?_, hIds'.trans hIds⟩
    rw [insertAll, hInsert]
    exact hRest

theorem insertAll_append {g' : SymbolGraph} {is js : List Insertion}
    (h : g.insertAll is = (g', none)) : g.insertAll (is ++ js) = g'.insertAll js := by
  induction is generalizing g with
  | nil =>
    cases h
    rfl
  | cons i rest ih =>
    rw [insertAll] at h
    rw [List.cons_append, insertAll]
    split at h
    · exact ih h
    · cases h

end SymbolGraph

section Members

variable {known : ClassId → Bool}

/-- What a type brings along besides its class and its companion. -/
def Metadata.TypeDef.ownMembers (known : ClassId → Bool) (t : TypeDef) : List Insertion :=
  match t.shape with
  | .object => t.objectMembers known
  | .staticHolder => t.holderMembers known
  | .plainClass =>
    t.constructorInsertions known ++ t.methodInsertions known ++
      t.dataMembers known t.classId (fun isStatic => !isStatic) ++
      t.companion?.toList.flatMap fun id => t.dataMembers known id fun isStatic => isStatic

theorem Metadata.TypeDef.memberInsertions_eq (t : TypeDef) (origin : SymbolOrigin) :
    t.memberInsertions known origin =
      (if t.shape = .plainClass then t.companionInsertions origin else []) ++
        t.ownMembers known := by
  cases h : t.shape with
  | object | staticHolder => simp [TypeDef.memberInsertions, TypeDef.ownMembers, h]
  | plainClass =>
    simp [TypeDef.memberInsertions, TypeDef.ownMembers, h, TypeDef.classMembers]

/-- Something that adds no class and belongs to one of some classes. -/
def Insertion.MemberOf (ids : List ClassId) (i : Insertion) : Prop :=
  i.class? = none ∧ ∀ id ∈ i.owner?, id ∈ ids

theorem Metadata.TypeDef.dataMembers_memberOf (t : TypeDef) {owner : ClassId} {ids : List ClassId}
    (wanted : Bool → Bool) (h : owner ∈ ids) :
    ∀ i ∈ t.dataMembers known owner wanted, i.MemberOf ids := by
  intro i hi
  rcases List.mem_append.mp hi with hi | hi
  · obtain ⟨f, _, rfl⟩ := List.mem_map.mp hi
    refine ⟨rfl, ?_⟩
    rintro _ ⟨⟩
    exact h
  · obtain ⟨p, _, rfl⟩ := List.mem_map.mp hi
    refine ⟨rfl, ?_⟩
    rintro _ ⟨⟩
    exact h

theorem Metadata.TypeDef.methodOwner?_cases {t : TypeDef} {m : Metadata.Method} {owner : ClassId}
    (h : t.methodOwner? m = some owner) : owner = t.classId ∨ t.companion? = some owner := by
  unfold TypeDef.methodOwner? at h
  split at h
  · rcases Option.or_eq_some_iff.mp h with h | ⟨_, h⟩
    · exact .inr h
    · split at h
      · exact .inl (Option.some.inj h).symm
      · cases h
  · exact .inl (Option.some.inj h).symm

theorem Metadata.TypeDef.ownMembers_memberOf (t : TypeDef) :
    ∀ i ∈ t.ownMembers known, i.MemberOf (t.classId :: t.companionClass?.toList) := by
  have hSelf : t.classId ∈ t.classId :: t.companionClass?.toList := List.mem_cons_self
  intro i hi
  unfold TypeDef.ownMembers at hi
  split at hi
  · rcases List.mem_append.mp hi with hi | hi
    · obtain ⟨m, _, rfl⟩ := List.mem_map.mp hi
      refine ⟨rfl, ?_⟩
      rintro _ ⟨⟩
      exact hSelf
    · exact t.dataMembers_memberOf _ hSelf i hi
  · simp only [TypeDef.holderMembers, List.mem_append, List.mem_map] at hi
    rcases hi with (⟨_, _, rfl⟩ | ⟨_, _, rfl⟩) | ⟨_, _, rfl⟩
    all_goals
      refine ⟨rfl, ?_⟩
      rintro _ ⟨⟩
      exact hSelf
  · rename_i hShape
    have hCompanion : ∀ id, t.companion? = some id →
        id ∈ t.classId :: t.companionClass?.toList := by
      intro id hId
      rw [TypeDef.companionClass?, if_pos hShape, hId]
      exact List.mem_cons_of_mem _ (List.mem_singleton.mpr rfl)
    simp only [List.mem_append, List.mem_flatMap, Option.mem_toList] at hi
    rcases hi with ((hi | hi) | hi) | ⟨id, hId, hi⟩
    · unfold TypeDef.constructorInsertions at hi
      split at hi
      · cases hi
      · obtain ⟨c, _, rfl⟩ := List.mem_map.mp hi
        refine ⟨rfl, ?_⟩
        rintro _ ⟨⟩
        exact hSelf
    · obtain ⟨m, _, hFunction⟩ := List.mem_filterMap.mp hi
      obtain ⟨owner, hOwner, rfl⟩ := Option.map_eq_some_iff.mp hFunction
      refine ⟨rfl, ?_⟩
      rintro _ ⟨⟩
      rcases TypeDef.methodOwner?_cases hOwner with rfl | hOwner
      · exact hSelf
      · exact hCompanion owner hOwner
    · exact t.dataMembers_memberOf _ hSelf i hi
    · exact t.dataMembers_memberOf _ (hCompanion id hId) i hi

/-- Once its class is there and its companion is not, nothing that a type brings along can fail. -/
theorem SymbolGraph.exists_insert_members {g : SymbolGraph} {t : TypeDef}
    (known : ClassId → Bool) (origin : SymbolOrigin) (hSelf : t.classId ∈ g.classIds)
    (hNew : ∀ id ∈ t.companionClass?, id ∉ g.classIds) :
    ∃ g', g.insertAll (t.memberInsertions known origin) = (g', none) ∧
      g'.classIds = g.classIds ++ t.companionClass?.toList := by
  have hCompanion : ∃ g₁,
      g.insertAll (if t.shape = .plainClass then t.companionInsertions origin else []) =
          (g₁, none) ∧ g₁.classIds = g.classIds ++ t.companionClass?.toList := by
    by_cases hShape : t.shape = .plainClass
    · rw [TypeDef.companionClass?, if_pos hShape] at hNew ⊢
      rw [if_pos hShape, TypeDef.companionInsertions]
      cases hId : t.companion? with
      | none => exact ⟨g, rfl, by simp⟩
      | some id =>
        let node : ClassNode := { id, kind := .object, isCompanion := true, origin }
        obtain ⟨_, g₁, hClass⟩ := exists_insert (g := g) (i := .ofClass node)
          (by rintro _ ⟨⟩; exact hNew id hId) nofun
        have hIds : g₁.classIds = g.classIds ++ [id] := classIds_insert hClass
        obtain ⟨_, g₂, hLink⟩ := exists_insert (g := g₁) (i := .companion t.classId id) nofun
          (by rintro _ ⟨⟩; rw [hIds]; exact List.mem_append_left _ hSelf)
        refine ⟨g₂, ?_, ?_⟩
        · simp only [insertAll]
          rw [hClass]
          simp only
          rw [hLink]
        · rw [classIds_insert hLink, hIds]
          simp [Insertion.class?]
    · rw [TypeDef.companionClass?, if_neg hShape, if_neg hShape]
      exact ⟨g, rfl, by simp⟩
  obtain ⟨g₁, hFirst, hIds⟩ := hCompanion
  have hOwners : ∀ i ∈ t.ownMembers known, ∀ id ∈ i.owner?, id ∈ g₁.classIds := by
    intro i hi id hId
    rw [hIds, List.mem_append]
    rcases List.mem_cons.mp ((t.ownMembers_memberOf i hi).2 id hId) with rfl | hId
    · exact .inl hSelf
    · exact .inr hId
  obtain ⟨g₂, hRest, hIds'⟩ :=
    exists_insertAll (fun i hi => (t.ownMembers_memberOf i hi).1) hOwners
  refine ⟨g₂, ?_, hIds'.trans hIds⟩
  rw [TypeDef.memberInsertions_eq, insertAll_append hFirst, hRest]

end Members

/-- A class of an identifier was defined. -/
def Synthesis.Defines (s : Synthesis) (id : ClassId) : Prop := s.definedBy.contains id = true

/-- The graph has the classes that were defined and their companions. -/
structure Synthesis.Sound (types : List TypeDef) (s : Synthesis) : Prop where
  listed : ∀ id, s.Defines id → ∃ t ∈ types, t.isAccepted = true ∧ t.classId = id
  present : ∀ id, s.Defines id → id ∈ s.graph.classIds
  source : ∀ id ∈ s.graph.classIds, s.Defines id ∨
    ∃ t ∈ types, t.isAccepted = true ∧ s.Defines t.classId ∧ t.companionClass? = some id

section Sound

variable {types : List TypeDef} {known : ClassId → Bool} {s : Synthesis} {t : TypeDef}

theorem Metadata.TypeDef.eq_companion_of_companion? {id : ClassId} (h : t.companion? = some id) :
    id = t.classId.companion := by
  obtain ⟨_, hSame⟩ := Option.ite_none_right_eq_some.mp h
  exact (Option.some.inj hSame).symm

theorem Metadata.TypeDef.eq_companion {id : ClassId} (h : t.companionClass? = some id) :
    id = t.classId.companion :=
  eq_companion_of_companion? (Option.ite_none_right_eq_some.mp h).2

theorem ClassId.companion_inj {id id' : ClassId} (h : id.companion = id'.companion) :
    id = id' := by
  obtain ⟨package, names⟩ := id
  obtain ⟨package', names'⟩ := id'
  simpa [ClassId.companion, ClassId.nested] using h

theorem Synthesis.Sound.not_mem_graph (h : s.Sound types) (hCompanions : CompanionsApart types)
    (ht : t ∈ types) (hAccepted : t.isAccepted = true) (hNew : ¬ s.Defines t.classId) :
    t.classId ∉ s.graph.classIds := by
  intro hMem
  rcases h.source _ hMem with hDefined | ⟨other, hOther, hOtherAccepted, _, hClass⟩
  · exact hNew hDefined
  · exact hCompanions other hOther t ht hOtherAccepted hAccepted hClass

theorem Synthesis.Sound.companion_not_mem (h : s.Sound types)
    (hCompanions : CompanionsApart types) (ht : t ∈ types) (hAccepted : t.isAccepted = true)
    (hNew : ¬ s.Defines t.classId) {id : ClassId} (hId : t.companionClass? = some id) :
    id ∉ s.graph.classIds := by
  intro hMem
  rcases h.source _ hMem with hDefined | ⟨other, _, _, hDefined, hClass⟩
  · obtain ⟨other, hOther, hOtherAccepted, rfl⟩ := h.listed id hDefined
    exact hCompanions t ht other hOther hAccepted hOtherAccepted hId
  · -- Two types with the same companion are types of the same class.
    have hSame : other.classId = t.classId :=
      ClassId.companion_inj ((TypeDef.eq_companion hClass).symm.trans (TypeDef.eq_companion hId))
    exact hNew (hSame ▸ hDefined)

theorem Synthesis.addType_new (h : s.Sound types) (hCompanions : CompanionsApart types)
    (ht : t ∈ types) (hAccepted : t.isAccepted = true) (hNew : ¬ s.Defines t.classId)
    (assembly : String) :
    ∃ s', s.addType known assembly t = (s', none) ∧ s'.Sound types ∧
      (∀ id, s'.Defines id ↔ id = t.classId ∨ s.Defines id) ∧ s'.visited = s.visited := by
  let node := (t.classSymbol known (.assembly assembly)).node
  have hAbsent := h.not_mem_graph hCompanions ht hAccepted hNew
  obtain ⟨position, g₁, hClass⟩ := SymbolGraph.exists_insert (g := s.graph) (i := .ofClass node)
    (by rintro _ ⟨⟩; exact hAbsent) nofun
  have hIds : g₁.classIds = s.graph.classIds ++ [t.classId] := SymbolGraph.classIds_insert hClass
  have hFresh : ∀ id ∈ t.companionClass?, id ∉ g₁.classIds := by
    intro id hId hMem
    rw [hIds, List.mem_append, List.mem_singleton] at hMem
    rcases hMem with hMem | rfl
    · exact h.companion_not_mem hCompanions ht hAccepted hNew hId hMem
    · exact hCompanions t ht t ht hAccepted hAccepted hId
  obtain ⟨g₂, hMembers, hIds'⟩ := SymbolGraph.exists_insert_members known
    (.assembly assembly) (by rw [hIds]; exact List.mem_append_right _ List.mem_cons_self) hFresh
  have hDefines (id : ClassId) :
      (s.definedBy.insert t.classId assembly).contains id = true ↔
        id = t.classId ∨ s.Defines id := by
    rw [OrderedMap.insert, OrderedMap.contains_alter, Bool.or_eq_true, beq_iff_eq,
      Synthesis.Defines]
  refine ⟨{ s with graph := g₂, definedBy := s.definedBy.insert t.classId assembly }, ?_, ?_,
    hDefines, rfl⟩
  · have hDefect : t.defect? = none := Option.isNone_iff_eq_none.mp hAccepted
    have hUndefined : s.definedBy.get? t.classId = none := by
      simpa [Synthesis.Defines, OrderedMap.contains] using hNew
    simp only [Synthesis.addType, hDefect, hUndefined, hClass, node, hMembers]
    rfl
  · constructor
    case listed =>
      intro id hDefined
      rcases (hDefines id).mp hDefined with rfl | hDefined
      · exact ⟨t, ht, hAccepted, rfl⟩
      · exact h.listed id hDefined
    case present =>
      intro id hDefined
      rw [hIds', hIds]
      rcases (hDefines id).mp hDefined with rfl | hDefined
      · simp
      · simp [h.present id hDefined]
    case source =>
      intro id hMem
      rw [hIds', hIds, List.mem_append, List.mem_append, List.mem_singleton,
        Option.mem_toList] at hMem
      rcases hMem with (hMem | rfl) | hMem
      · rcases h.source id hMem with hDefined | ⟨other, hOther, hOtherAccepted, hDefined, hClass⟩
        · exact .inl ((hDefines id).mpr (.inr hDefined))
        · exact .inr ⟨other, hOther, hOtherAccepted, (hDefines _).mpr (.inr hDefined), hClass⟩
      · exact .inl ((hDefines _).mpr (.inl rfl))
      · exact .inr ⟨t, ht, hAccepted, (hDefines _).mpr (.inl rfl), hMem⟩

end Sound

/-- Of the accepted types of an assembly, those whose class was looked at are defined. -/
def Synthesis.VisitedDefined (listed : List TypeDef) (s : Synthesis) : Prop :=
  ∀ t ∈ listed, t.isAccepted = true → t.classId ∈ s.visited → s.Defines t.classId

/-- What the synthesis of types of an assembly achieves. A class that is new has a type whose nested
types have all been looked at. -/
structure Synthesis.Progress (types listed : List TypeDef) (s s' : Synthesis) : Prop where
  sound : s'.Sound types
  visitedDefined : s'.VisitedDefined listed
  defines : ∀ id, s.Defines id → s'.Defines id
  visited : s.visited ⊆ s'.visited
  opened : ∀ id, s'.Defines id → s.Defines id ∨
    ∃ t ∈ listed, t.isAccepted = true ∧ t.classId = id ∧ ∀ n ∈ t.nestedTypes, n.classId ∈ s'.visited

section Progress

variable {types listed : List TypeDef} {known : ClassId → Bool} {s s' s'' : Synthesis}

theorem Synthesis.Progress.refl (hSound : s.Sound types) (hVisited : s.VisitedDefined listed) :
    s.Progress types listed s :=
  ⟨hSound, hVisited, fun _ => id, fun _ => id, fun _ => .inl⟩

theorem Synthesis.Progress.trans (h : s.Progress types listed s')
    (h' : s'.Progress types listed s'') : s.Progress types listed s'' where
  sound := h'.sound
  visitedDefined := h'.visitedDefined
  defines id hId := h'.defines id (h.defines id hId)
  visited := List.Subset.trans h.visited h'.visited
  opened id hId := by
    rcases h'.opened id hId with hId | hOpened
    · rcases h.opened id hId with hId | ⟨t, ht, hAccepted, hClass, hNested⟩
      · exact .inl hId
      · exact .inr ⟨t, ht, hAccepted, hClass, fun n hn => h'.visited (hNested n hn)⟩
    · exact .inr hOpened

/-- The types of an assembly, closed under what is nested in accepted ones, with types of one class
accepted alike. -/
structure Admissible (types listed : List TypeDef) : Prop where
  subset : listed ⊆ types
  nested : ∀ t ∈ listed, t.isAccepted = true → ∀ n ∈ t.nestedTypes, n ∈ listed
  alike : ∀ t ∈ listed, ∀ t' ∈ listed, t.classId = t'.classId → t.isAccepted = t'.isAccepted
  companions : CompanionsApart types

theorem Synthesis.addType_skipped {t : TypeDef}
    (h : t.isAccepted = false ∨ s.Defines t.classId) (assembly : String) :
    ∃ reason, s.addType known assembly t = (s, some reason) := by
  cases hDefect : t.defect? with
  | some defect => exact ⟨defect, by simp only [Synthesis.addType, hDefect]⟩
  | none =>
    have hDefined : s.Defines t.classId := by
      refine h.resolve_left ?_
      simp [TypeDef.isAccepted, hDefect]
    obtain ⟨first, hFirst⟩ := Option.isSome_iff_exists.mp hDefined
    exact ⟨.duplicate first, by simp only [Synthesis.addType, hDefect, hFirst]⟩

/-- A type that is skipped is only looked at. -/
theorem Synthesis.progress_skip {t : TypeDef} (hTypes : Admissible types listed) (ht : t ∈ listed)
    (hSound : s.Sound types) (hVisited : s.VisitedDefined listed)
    (hReason : t.isAccepted = false ∨ s.Defines t.classId) (assembly : String)
    (reason : SkipReason) :
    s.Progress types listed
      (({ s with visited := t.classId :: s.visited } : Synthesis).skip assembly t reason) where
  sound := ⟨hSound.listed, hSound.present, hSound.source⟩
  visitedDefined u hu hAccepted hLooked := by
    rcases List.mem_cons.mp hLooked with hSame | hLooked
    · rcases hReason with hDefect | hDefined
      · rw [hTypes.alike u hu t ht hSame, hDefect] at hAccepted
        cases hAccepted
      · exact hSame ▸ hDefined
    · exact hVisited u hu hAccepted hLooked
  defines _ := id
  visited := List.subset_cons_self _ _
  opened _ := .inl

variable (known)

mutual

theorem Synthesis.progress_addTree (hTypes : Admissible types listed) (assembly : String)
    (t : TypeDef) (ht : t ∈ listed) (s : Synthesis) (hSound : s.Sound types)
    (hVisited : s.VisitedDefined listed) :
    s.Progress types listed (Synthesis.addTree known assembly t s) ∧
      t.classId ∈ (Synthesis.addTree known assembly t s).visited := by
  rw [Synthesis.addTree_eq]
  by_cases hLooked : t.classId ∈ s.visited
  · rw [if_pos (List.contains_iff_mem.mpr hLooked)]
    exact ⟨.refl hSound hVisited, hLooked⟩
  · rw [if_neg (mt List.contains_iff_mem.mp hLooked)]
    by_cases hSkip : t.isAccepted = false ∨ s.Defines t.classId
    · obtain ⟨reason, hAdd⟩ := Synthesis.addType_skipped
        (s := { s with visited := t.classId :: s.visited }) hSkip assembly
      rw [hAdd]
      exact ⟨Synthesis.progress_skip hTypes ht hSound hVisited hSkip assembly reason,
        List.mem_cons_self⟩
    · obtain ⟨hAccepted, hNew⟩ := not_or.mp hSkip
      rw [Bool.not_eq_false] at hAccepted
      obtain ⟨s₁, hAdd, hSound₁, hDefines, hLooked₁⟩ := Synthesis.addType_new
        (s := { s with visited := t.classId :: s.visited })
        ⟨hSound.listed, hSound.present, hSound.source⟩ hTypes.companions (hTypes.subset ht)
        hAccepted hNew assembly
      have hVisited₁ : s₁.VisitedDefined listed := by
        intro u hu hAccepted hLooked
        rw [hLooked₁] at hLooked
        rcases List.mem_cons.mp hLooked with hSame | hLooked
        · exact (hDefines _).mpr (.inl hSame)
        · exact (hDefines _).mpr (.inr (hVisited u hu hAccepted hLooked))
      have hNested := hTypes.nested t ht hAccepted
      rw [hAdd]
      obtain ⟨name, nameSpace, declaringType, baseType, interfaces, attributes, constructors,
        methods, fields, properties, events, nestedTypes, typeParameters, flags⟩ := t
      obtain ⟨hTrees, hAll⟩ :=
        Synthesis.progress_addTrees hTypes assembly nestedTypes hNested s₁ hSound₁ hVisited₁
      have hGrown := hTrees.visited
      rw [hLooked₁] at hGrown
      refine ⟨⟨hTrees.sound, hTrees.visitedDefined, ?_, ?_, ?_⟩, hGrown List.mem_cons_self⟩
      · exact fun id hId => hTrees.defines id ((hDefines id).mpr (.inr hId))
      · exact fun id hId => hGrown (List.mem_cons_of_mem _ hId)
      · intro id hId
        rcases hTrees.opened id hId with hId | hOpened
        · rcases (hDefines id).mp hId with rfl | hId
          · exact .inr ⟨_, ht, hAccepted, rfl, hAll⟩
          · exact .inl hId
        · exact .inr hOpened

theorem Synthesis.progress_addTrees (hTypes : Admissible types listed) (assembly : String)
    (ts : List TypeDef) (ht : ∀ t ∈ ts, t ∈ listed) (s : Synthesis) (hSound : s.Sound types)
    (hVisited : s.VisitedDefined listed) :
    s.Progress types listed (Synthesis.addTrees known assembly ts s) ∧
      ∀ t ∈ ts, t.classId ∈ (Synthesis.addTrees known assembly ts s).visited := by
  cases ts with
  | nil => exact ⟨.refl hSound hVisited, nofun⟩
  | cons t rest =>
    obtain ⟨hFirst, hRest⟩ := List.forall_mem_cons.mp ht
    obtain ⟨hTree, hLooked⟩ :=
      Synthesis.progress_addTree hTypes assembly t hFirst s hSound hVisited
    obtain ⟨hTrees, hAll⟩ := Synthesis.progress_addTrees hTypes assembly rest hRest _ hTree.sound
      hTree.visitedDefined
    exact ⟨hTree.trans hTrees, List.forall_mem_cons.mpr ⟨hTrees.visited hLooked, hAll⟩⟩

end

end Progress

/-- Where an accepted class is defined, so are the accepted classes nested in it. -/
def Synthesis.NestedDefined (types : List TypeDef) (s : Synthesis) : Prop :=
  ∀ t ∈ types, t.isAccepted = true → s.Defines t.classId →
    ∀ n ∈ t.nestedTypes, n.isAccepted = true → s.Defines n.classId

section Assemblies

variable {assemblies : List Assembly} {s : Synthesis}

theorem Coherent.admissible (h : Coherent assemblies) {a : Assembly} (ha : a ∈ assemblies) :
    Admissible (listedTypes assemblies) (TypeDef.listedIn a.types) where
  subset _ ht := List.mem_flatMap.mpr ⟨a, ha, ht⟩
  nested _ ht hAccepted _ hn := TypeDef.nested_mem_listedIn a.types ht hAccepted hn
  alike := h.accepted a ha
  companions := h.companion

theorem mem_work_iff {a : Assembly} {t : TypeDef} :
    t ∈ a.topLevelTypes ++ a.types.filter (·.flags.isNested) ↔ t ∈ a.types := by
  cases hNested : t.flags.isNested <;> simp [Metadata.Assembly.topLevelTypes, hNested]

theorem Synthesis.addAssembly_defines (known : ClassId → Bool) (h : Coherent assemblies)
    {a : Assembly} (ha : a ∈ assemblies) (hSound : s.Sound (listedTypes assemblies))
    (hNested : s.NestedDefined (listedTypes assemblies)) :
    (Synthesis.addAssembly known s a).Sound (listedTypes assemblies) ∧
      (Synthesis.addAssembly known s a).NestedDefined (listedTypes assemblies) ∧
      (∀ id, s.Defines id → (Synthesis.addAssembly known s a).Defines id) ∧
      ∀ t ∈ a.types, t.isAccepted = true →
        (Synthesis.addAssembly known s a).Defines t.classId := by
  have hTypes := h.admissible ha
  obtain ⟨hProgress, hLooked⟩ := Synthesis.progress_addTrees known hTypes a.name
    (a.topLevelTypes ++ a.types.filter (·.flags.isNested))
    (fun t ht => TypeDef.mem_listedIn (mem_work_iff.mp ht)) { s with visited := [] }
    ⟨hSound.listed, hSound.present, hSound.source⟩ nofun
  refine ⟨hProgress.sound, ?_, hProgress.defines, ?_⟩
  · intro t ht hAccepted hDefined n hn hnAccepted
    rcases hProgress.opened _ hDefined with hDefined | ⟨opened, hListed, hOpened, hClass, hNew⟩
    · exact hProgress.defines _ (hNested t ht hAccepted hDefined n hn hnAccepted)
    · -- The type that was opened has the same class nested, and all of its nested types were
      -- looked at.
      obtain ⟨n', hn', hAccepted', hSame⟩ := h.nested t ht opened (hTypes.subset hListed) hAccepted
        hOpened hClass.symm n hn hnAccepted
      rw [← hSame]
      exact hProgress.visitedDefined n' (hTypes.nested opened hListed hOpened n' hn') hAccepted'
        (hNew n' hn')
  · intro t ht hAccepted
    exact hProgress.visitedDefined t (TypeDef.mem_listedIn ht) hAccepted
      (hLooked t (mem_work_iff.mpr ht))

theorem Synthesis.foldl_defines (known : ClassId → Bool) (h : Coherent assemblies)
    (rest : List Assembly) (hRest : ∀ a ∈ rest, a ∈ assemblies)
    (hSound : s.Sound (listedTypes assemblies))
    (hNested : s.NestedDefined (listedTypes assemblies)) :
    let result := rest.foldl (Synthesis.addAssembly known) s
    result.Sound (listedTypes assemblies) ∧ result.NestedDefined (listedTypes assemblies) ∧
      (∀ id, s.Defines id → result.Defines id) ∧
      ∀ a ∈ rest, ∀ t ∈ a.types, t.isAccepted = true → result.Defines t.classId := by
  induction rest generalizing s with
  | nil => exact ⟨hSound, hNested, fun _ => id, nofun⟩
  | cons a rest ih =>
    obtain ⟨ha, hRest⟩ := List.forall_mem_cons.mp hRest
    obtain ⟨hSound', hNested', hGrown, hTypes⟩ :=
      Synthesis.addAssembly_defines known h ha hSound hNested
    obtain ⟨hSound'', hNested'', hGrown', hAll⟩ := ih hRest hSound' hNested'
    refine ⟨hSound'', hNested'', fun id hId => hGrown' id (hGrown id hId), ?_⟩
    refine List.forall_mem_cons.mpr ⟨?_, hAll⟩
    exact fun t ht hAccepted => hGrown' _ (hTypes t ht hAccepted)

/-- If the types of one class agree, every class that references can name is in the graph. -/
theorem Coherent.foreignClasses_defined (h : Coherent assemblies) {id : ClassId}
    (hId : id ∈ foreignClasses assemblies) : id ∈ (synthesize assemblies).graph.classIds := by
  obtain ⟨t, ht, hAccepted, rfl⟩ := mem_foreignClasses.mp hId
  obtain ⟨a, ha, ht⟩ := List.mem_flatMap.mp ht
  have hSubset := (h.admissible ha).subset
  obtain ⟨hSound, hNested, _, hTypes⟩ := Synthesis.foldl_defines (s := {})
    (foreignClasses assemblies).contains h assemblies (fun _ => id) ⟨nofun, nofun, nofun⟩ nofun
  refine hSound.present _ ?_
  refine TypeDef.listedIn_induction a.types ?_ (hTypes a ha) t ht hAccepted
  exact fun u hu => hNested u (hSubset hu)

end Assemblies

/-- The types of a graph mention classes of the tables and known classes only. If the types of one
class agree, the known classes are all in the graph. -/
theorem synthesized_graph_closed (assemblies : List Assembly) :
    (∀ id ∈ (synthesize assemblies).graph.mentioned,
      id ∈ tableClasses ∨ id ∈ foreignClasses assemblies) ∧
    (Coherent assemblies → ∀ id ∈ (synthesize assemblies).graph.mentioned,
      id ∈ tableClasses ∨ (synthesize assemblies).graph.contains id = true) := by
  refine ⟨mentioned_synthesize assemblies, ?_⟩
  intro hCoherent id hMentioned
  rcases mentioned_synthesize assemblies id hMentioned with hTable | hKnown
  · exact .inl hTable
  · exact .inr (SymbolGraph.contains_iff_mem_classIds.mpr
      (hCoherent.foreignClasses_defined hKnown))

section Examples

/-- A public type of the namespace `Lib`. -/
def libraryType (name : String) : TypeDef :=
  { name, nameSpace := "Lib", flags := { isPublic := true } }

/-- A type nested in `Outer`. -/
def innerType : TypeDef :=
  { name := "Inner"
    nameSpace := "Lib"
    declaringType := some "Outer"
    flags := { isNested := true, isNestedPublic := true } }

def outerType : TypeDef := { libraryType "Outer" with nestedTypes := [innerType] }

/-- A type with a method that gives a value of another type. -/
def shopType (result : String) : TypeDef :=
  { libraryType "Shop" with
    methods := [{ name := "open", returnType := { nameSpace := some "Lib", name := result } }] }

/-- The second assembly has the type of the first once more. -/
def agreeingAssemblies : List Assembly :=
  [⟨"Lib", [outerType, shopType "Outer+Inner"]⟩, ⟨"Copy", [outerType]⟩]

theorem synthesized_graph_closed_agreeing :
    Coherent agreeingAssemblies ∧
      ⟨⟨"Lib"⟩, ["Outer", "Inner"]⟩ ∈ (synthesize agreeingAssemblies).graph.mentioned ∧
      ∀ id ∈ (synthesize agreeingAssemblies).graph.mentioned,
        id ∈ tableClasses ∨ (synthesize agreeingAssemblies).graph.contains id = true := by
  have hCoherent : Coherent agreeingAssemblies :=
    ⟨by decide +kernel, by decide +kernel, by decide +kernel⟩
  exact ⟨hCoherent, by decide +kernel, (synthesized_graph_closed agreeingAssemblies).2 hCoherent⟩

/-- A type that is not public comes before a public one of the same class. -/
def hiddenBox : List Assembly :=
  [⟨"Lib", [{ libraryType "Box" with flags := {} },
    { libraryType "Box`1" with typeParameters := [{ name := "T" }] }, shopType "Box`1"]⟩]

/-- A type comes once more in another assembly, there with a nested type. -/
def grownOuter : List Assembly :=
  [⟨"Lib", [libraryType "Outer"]⟩, ⟨"Copy", [outerType, shopType "Outer+Inner"]⟩]

/-- The class of a companion comes before the type that the companion belongs to. -/
def takenCompanion : List Assembly :=
  [⟨"Lib", [{ libraryType "Companion" with declaringType := some "Outer" },
    { outerType with
      methods := [{ name := "make", returnType := { name := "T" }, isStatic := true }] },
    shopType "Outer+Inner"]⟩]

/-- A type of the graph mentions a class that is nowhere. -/
def SymbolGraph.Dangles (g : SymbolGraph) : Prop :=
  ∃ id ∈ g.mentioned, id ∉ tableClasses ∧ g.contains id = false

instance (g : SymbolGraph) : Decidable g.Dangles :=
  inferInstanceAs (Decidable (∃ id ∈ g.mentioned, id ∉ tableClasses ∧ g.contains id = false))

/-- A graph need not be closed, and each of the three conditions is needed by itself. -/
theorem synthesized_graph_dangles :
    (NestedAlike (listedTypes hiddenBox) ∧ CompanionsApart (listedTypes hiddenBox) ∧
      (synthesize hiddenBox).graph.Dangles) ∧
    (AcceptedAlike grownOuter ∧ CompanionsApart (listedTypes grownOuter) ∧
      (synthesize grownOuter).graph.Dangles) ∧
    (AcceptedAlike takenCompanion ∧ NestedAlike (listedTypes takenCompanion) ∧
      (synthesize takenCompanion).graph.Dangles) := by
  decide +kernel

end Examples

end KotlinBackend
