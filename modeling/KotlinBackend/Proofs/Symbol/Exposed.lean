import KotlinBackend.Proofs.Symbol.Skipped

/-!
# Types inside of hidden ones

A type is added because its assembly lists it or because it is nested in a type that was added. The
second way ends at a type that is not accepted. The first one does not look at what is around a
type, so that a class can be in the graph while the class around it is not.
-/

namespace KotlinBackend

open Metadata (Assembly TypeDef)

/-- Each trial is for one of some types or for a type nested in one that was added. -/
def Descends (known : ClassId → Bool) (types : List TypeDef) (cs : List Trial) : Prop :=
  ∀ c ∈ cs, c.type ∈ types ∨ ∃ p ∈ cs, p.failure? known = none ∧ c.type ∈ p.type.nestedTypes

section Descent

variable {known : ClassId → Bool} {types types' : List TypeDef} {cs cs' : List Trial}

theorem Descends.append (h : Descends known types cs) (h' : Descends known types' cs') :
    Descends known (types ++ types') (cs ++ cs') := by
  intro c hc
  rcases List.mem_append.mp hc with hc | hc
  · rcases h c hc with hType | ⟨p, hp, hAround⟩
    · exact .inl (List.mem_append_left _ hType)
    · exact .inr ⟨p, List.mem_append_left _ hp, hAround⟩
  · rcases h' c hc with hType | ⟨p, hp, hAround⟩
    · exact .inl (List.mem_append_right _ hType)
    · exact .inr ⟨p, List.mem_append_right _ hp, hAround⟩

theorem Descends.around {p : Trial} (hAdded : p.failure? known = none)
    (h : Descends known p.type.nestedTypes cs) : Descends known [p.type] (p :: cs) := by
  refine List.forall_mem_cons.mpr ⟨.inl List.mem_cons_self, fun c hc => .inr ?_⟩
  rcases h c hc with hType | ⟨q, hq, hAround⟩
  · exact ⟨p, List.mem_cons_self, hAdded, hType⟩
  · exact ⟨q, List.mem_cons_of_mem _ hq, hAround⟩

namespace Synthesis

mutual

theorem descends_treeTrials (known : ClassId → Bool) (assembly : String) (t : TypeDef)
    (s : Synthesis) : Descends known [t] (treeTrials known assembly t s) := by
  rw [treeTrials_eq]
  split
  · exact List.forall_mem_nil _
  · cases hFailure : Trial.failure? known ⟨assembly, t, s.look t⟩ with
    | some reason =>
      simp only [hFailure]
      exact List.forall_mem_singleton.mpr (.inl List.mem_cons_self)
    | none =>
      simp only [hFailure]
      obtain ⟨name, nameSpace, declaringType, baseType, interfaces, attributes, constructors,
        methods, fields, properties, events, nestedTypes, typeParameters, flags⟩ := t
      exact Descends.around hFailure (descends_treesTrials known assembly nestedTypes _)

theorem descends_treesTrials (known : ClassId → Bool) (assembly : String) (ts : List TypeDef)
    (s : Synthesis) : Descends known ts (treesTrials known assembly ts s) := by
  cases ts with
  | nil => exact List.forall_mem_nil _
  | cons t rest =>
    exact (descends_treeTrials known assembly t s).append
      (descends_treesTrials known assembly rest _)

end

theorem exists_origin {assemblies : List Assembly} {s : Synthesis} {c : Trial}
    (hc : c ∈ assembliesTrials known assemblies s) :
    ∃ a ∈ assemblies, c.assembly = a.name ∧
      (c.type ∈ a.types ∨ ∃ p ∈ assembliesTrials known assemblies s,
        p.assembly = a.name ∧ p.failure? known = none ∧ c.type ∈ p.type.nestedTypes) := by
  induction assemblies generalizing s with
  | nil => cases hc
  | cons a rest ih =>
    rcases List.mem_append.mp hc with hc | hc
    · have hOwn := (tries_addAssembly known s a).own
      refine ⟨a, List.mem_cons_self, (hOwn c hc).1, ?_⟩
      rcases descends_treesTrials known a.name _ _ c hc with hType | ⟨p, hp, hAround⟩
      · exact .inl (mem_work_iff.mp hType)
      · exact .inr ⟨p, List.mem_append_left _ hp, (hOwn p hp).1, hAround⟩
    · obtain ⟨b, hb, hName, hOrigin⟩ := ih hc
      refine ⟨b, List.mem_cons_of_mem _ hb, hName, hOrigin.imp_right ?_⟩
      rintro ⟨p, hp, hAround⟩
      exact ⟨p, List.mem_append_right _ hp, hAround⟩

end Synthesis

theorem Accepts.origin {assemblies : List Assembly} {assembly : String} {t : TypeDef}
    (h : Accepts assemblies assembly t) :
    (∃ a ∈ assemblies, a.name = assembly ∧ t ∈ a.types) ∨
      ∃ outer, Accepts assemblies assembly outer ∧ t ∈ outer.nestedTypes := by
  obtain ⟨s, hTried, _⟩ := h
  obtain ⟨a, ha, hName, hOrigin⟩ := Synthesis.exists_origin hTried
  rcases hOrigin with hListed | ⟨⟨name, outer, s'⟩, hp, hSame, hAdded, hNested⟩
  · exact .inl ⟨a, ha, hName.symm, hListed⟩
  · obtain rfl : name = assembly := hSame.trans hName.symm
    exact .inr ⟨outer, ⟨s', hp, hAdded⟩, hNested⟩

end Descent

def allTypes (assemblies : List Assembly) : List TypeDef :=
  assemblies.flatMap fun a => TypeDef.listTree a.types

/-- Every class has one type, in one assembly, and the class around it is that of the type around
the type. No type has the class of a companion. -/
structure Orderly (assemblies : List Assembly) : Prop where
  single : ∀ a ∈ assemblies, ∀ b ∈ assemblies, ∀ t ∈ TypeDef.listTree a.types,
    ∀ u ∈ TypeDef.listTree b.types, t.classId = u.classId → a = b ∧ t = u
  nested : ∀ t ∈ allTypes assemblies, ∀ n ∈ t.nestedTypes, n.classId.outer? = some t.classId
  companions : ∀ t ∈ allTypes assemblies, ∀ u ∈ allTypes assemblies,
    t.companionClass? ≠ some u.classId

section Orderly

variable {assemblies : List Assembly} {a : Assembly} {t u : TypeDef}

theorem mem_allTypes (ha : a ∈ assemblies) (ht : t ∈ TypeDef.listTree a.types) :
    t ∈ allTypes assemblies := List.mem_flatMap.mpr ⟨a, ha, ht⟩

theorem listedTypes_subset_allTypes : listedTypes assemblies ⊆ allTypes assemblies := by
  intro t ht
  obtain ⟨a, ha, ht⟩ := List.mem_flatMap.mp ht
  exact mem_allTypes ha (TypeDef.listedIn_subset_listTree _ ht)

namespace Orderly

theorem eq_of_classId (h : Orderly assemblies) (ht : t ∈ allTypes assemblies)
    (hu : u ∈ allTypes assemblies) (hClass : t.classId = u.classId) : t = u := by
  obtain ⟨a, ha, ht⟩ := List.mem_flatMap.mp ht
  obtain ⟨b, hb, hu⟩ := List.mem_flatMap.mp hu
  exact (h.single a ha b hb t ht u hu hClass).2

theorem coherent (h : Orderly assemblies) : Coherent assemblies where
  accepted a ha t ht t' ht' hClass := by
    have hSame : t = t' := h.eq_of_classId
      (mem_allTypes ha (TypeDef.listedIn_subset_listTree _ ht))
      (mem_allTypes ha (TypeDef.listedIn_subset_listTree _ ht')) hClass
    rw [hSame]
  nested t ht t' ht' _ _ hClass n hn hAccepted := by
    obtain rfl := h.eq_of_classId (listedTypes_subset_allTypes ht)
      (listedTypes_subset_allTypes ht') hClass
    exact ⟨n, hn, hAccepted, rfl⟩
  companion t ht t' ht' _ _ :=
    h.companions t (listedTypes_subset_allTypes ht) t' (listedTypes_subset_allTypes ht')

theorem contains_of_listed (h : Orderly assemblies) (ha : a ∈ assemblies)
    (ht : t ∈ TypeDef.listedIn a.types) (hAccepted : t.isAccepted = true) :
    (synthesize assemblies).graph.contains t.classId = true := by
  have hKnown : t.classId ∈ foreignClasses assemblies :=
    mem_foreignClasses.mpr ⟨t, List.mem_flatMap.mpr ⟨a, ha, ht⟩, hAccepted, rfl⟩
  exact SymbolGraph.contains_iff_mem_classIds.mpr (h.coherent.foreignClasses_defined hKnown)

/-- The class of a type is in the graph because the type itself was added. -/
theorem accepts_of_contains (h : Orderly assemblies) (ha : a ∈ assemblies)
    (ht : t ∈ TypeDef.listTree a.types)
    (hClass : (synthesize assemblies).graph.contains t.classId = true) :
    Accepts assemblies a.name t := by
  obtain ⟨hSound, _, hDefined⟩ := sound_trials h.coherent.companion
  have hDefines : (synthesize assemblies).Defines t.classId := by
    refine (hSound.source _ (SymbolGraph.contains_iff_mem_classIds.mp hClass)).resolve_right ?_
    rintro ⟨other, hOther, _, _, hCompanion⟩
    exact h.companions other (listedTypes_subset_allTypes hOther) t (mem_allTypes ha ht) hCompanion
  obtain ⟨⟨name, u, s⟩, hTried, hSame, hAdded⟩ := hDefined _ hDefines
  obtain ⟨b, hb, hName, hListed⟩ := Synthesis.mem_assembliesTrials hTried
  obtain ⟨rfl, rfl⟩ := h.single b hb a ha u (TypeDef.listedIn_subset_listTree _ hListed) t ht hSame
  obtain rfl : name = b.name := hName
  exact ⟨s, hTried, hAdded⟩

end Orderly

end Orderly

/-- Where a type is added, the classes of all types around it are in the graph. -/
def NoneExposed (assemblies : List Assembly) : Prop :=
  ∀ a ∈ assemblies, ∀ t, Accepts assemblies a.name t → ∀ u ∈ TypeDef.listTree a.types,
    u.Encloses t → (synthesize assemblies).graph.contains u.classId = true

/-- What is around an accepted type that an assembly lists is accepted as well. -/
def ListedInTheOpen (assemblies : List Assembly) : Prop :=
  ∀ a ∈ assemblies, ∀ t ∈ a.types, t.isAccepted = true → ∀ u ∈ TypeDef.listTree a.types,
    u.Encloses t → u.isAccepted = true

section Exposed

variable {assemblies : List Assembly} {a : Assembly}

/-- In orderly assemblies, the type around a nested type is found from either of them. -/
theorem Orderly.eq_or_encloses (h : Orderly assemblies) (ha : a ∈ assemblies) {t n u : TypeDef}
    (ht : t ∈ TypeDef.listTree a.types) (hn : n ∈ t.nestedTypes)
    (hu : u ∈ TypeDef.listTree a.types) (hAround : u.Encloses n) : u = t ∨ u.Encloses t := by
  have hDirect (v : TypeDef) (hv : v ∈ TypeDef.listTree a.types) (hNested : n ∈ v.nestedTypes) :
      v = t := by
    have hOuter := h.nested v (mem_allTypes ha hv) n hNested
    rw [h.nested t (mem_allTypes ha ht) n hn, Option.some.injEq] at hOuter
    exact h.eq_of_classId (mem_allTypes ha hv) (mem_allTypes ha ht) hOuter.symm
  cases hAround with
  | single hNested => exact .inl (hDirect u hu hNested)
  | tail hOuter hNested =>
    obtain rfl := hDirect _ (TypeDef.mem_listTree_of_encloses hOuter hu) hNested
    exact .inr hOuter

theorem Orderly.noneExposed (h : Orderly assemblies) (hOpen : ListedInTheOpen assemblies) :
    NoneExposed assemblies := by
  intro a ha t hAdded u hu hAround
  have hListed : t ∈ TypeDef.listedIn a.types := by
    obtain ⟨s, hTried, _⟩ := hAdded
    obtain ⟨b, hb, _, ht⟩ := Synthesis.mem_assembliesTrials hTried
    have hSame := h.single b hb a ha t (TypeDef.listedIn_subset_listTree _ ht) t
      (TypeDef.mem_listTree_of_encloses hAround hu) rfl
    exact hSame.1 ▸ ht
  refine TypeDef.listedIn_induction (Q := fun v => ∀ u ∈ TypeDef.listTree a.types, u.Encloses v →
    (synthesize assemblies).graph.contains u.classId = true) a.types ?_ ?_ t hListed
    hAdded.listed.2 u hu hAround
  · -- A type around a nested one is the listed type that it is nested in, or is around that one.
    intro v hv hAccepted hOuter n hn _ u hu hAround
    rcases h.eq_or_encloses ha (TypeDef.listedIn_subset_listTree _ hv) hn hu hAround with rfl | hFar
    · exact h.contains_of_listed ha hv hAccepted
    · exact hOuter u hu hFar
  · intro v hv hAccepted u hu hAround
    have hAll := hOpen a ha v hv hAccepted
    exact h.contains_of_listed ha (TypeDef.mem_listedIn_of_encloses hAround hu hAll)
      (hAll u hu hAround)

theorem Orderly.listedInTheOpen (h : Orderly assemblies) (hNone : NoneExposed assemblies) :
    ListedInTheOpen assemblies := by
  intro a ha t ht hAccepted u hu hAround
  have hAdded : Accepts assemblies a.name t := h.accepts_of_contains ha (TypeDef.mem_listTree ht)
    (h.contains_of_listed ha (TypeDef.mem_listedIn ht) hAccepted)
  exact (h.accepts_of_contains ha hu (hNone a ha t hAdded u hu hAround)).listed.2

end Exposed

/-- A type is added only if its assembly lists it or the type around it is added. In orderly
assemblies, nothing inside of a hidden type is exposed if and only if nothing inside of one is
listed. -/
theorem exposed_through_listing (assemblies : List Assembly) :
    (∀ assembly t, Accepts assemblies assembly t →
      (∃ a ∈ assemblies, a.name = assembly ∧ t ∈ a.types) ∨
        ∃ outer, Accepts assemblies assembly outer ∧ t ∈ outer.nestedTypes) ∧
    (Orderly assemblies → (NoneExposed assemblies ↔ ListedInTheOpen assemblies)) :=
  ⟨fun _ _ => Accepts.origin, fun h => ⟨h.listedInTheOpen, h.noneExposed⟩⟩

section Examples

variable (flags : Metadata.TypeFlags)

/-- `Outer` with some flags, and the public type nested in it, which is listed as well. -/
def nesting : List Assembly := [⟨"Lib", [{ outerType with flags }, innerType]⟩]

theorem companionClass?_outer : ({ outerType with flags } : TypeDef).companionClass? = none := by
  unfold TypeDef.companionClass?
  split <;> rfl

theorem mem_allTypes_nesting {t : TypeDef} (ht : t ∈ allTypes (nesting flags)) :
    t = { outerType with flags } ∨ t = innerType := by
  have hMem : t ∈ [{ outerType with flags }, innerType, innerType] := ht
  simpa using hMem

theorem orderly_nesting : Orderly (nesting flags) := by
  have hApart : ({ outerType with flags } : TypeDef).classId ≠ innerType.classId := by
    change outerType.classId ≠ innerType.classId
    decide +kernel
  constructor
  case single =>
    intro a ha b hb t ht u hu hClass
    obtain rfl := List.mem_singleton.mp ha
    obtain rfl := List.mem_singleton.mp hb
    refine ⟨rfl, ?_⟩
    rcases mem_allTypes_nesting flags (mem_allTypes ha ht) with rfl | rfl <;>
      rcases mem_allTypes_nesting flags (mem_allTypes hb hu) with rfl | rfl
    · rfl
    · exact absurd hClass hApart
    · exact absurd hClass.symm hApart
    · rfl
  case nested =>
    intro t ht n hn
    rcases mem_allTypes_nesting flags ht with rfl | rfl
    · obtain rfl := List.mem_singleton.mp hn
      change innerType.classId.outer? = some outerType.classId
      decide +kernel
    · cases hn
  case companions =>
    intro t ht u _ hCompanion
    rcases mem_allTypes_nesting flags ht with rfl | rfl
    · rw [companionClass?_outer] at hCompanion
      cases hCompanion
    · cases hCompanion

end Examples

theorem none_exposed_in_public :
    let assemblies := nesting { isPublic := true }
    Orderly assemblies ∧ Accepts assemblies "Lib" innerType ∧ NoneExposed assemblies := by
  intro assemblies
  have hOrderly : Orderly assemblies := orderly_nesting _
  have hOpen : ListedInTheOpen assemblies := by
    intro a ha t _ _ u hu _
    rcases mem_allTypes_nesting _ (mem_allTypes ha hu) with rfl | rfl <;> decide +kernel
  refine ⟨hOrderly, ?_, ((exposed_through_listing assemblies).2 hOrderly).mpr hOpen⟩
  exact hOrderly.accepts_of_contains List.mem_cons_self
    (TypeDef.mem_listTree (List.mem_cons_of_mem _ List.mem_cons_self)) (by decide +kernel)

/-- The nested type is in the graph. The type around it is not public and is not in the graph. -/
theorem inner_exposed :
    let assemblies := nesting {}
    Orderly assemblies ∧ Accepts assemblies "Lib" innerType ∧
      (synthesize assemblies).graph.contains innerType.classId = true ∧
      (synthesize assemblies).graph.contains outerType.classId = false ∧
      ¬ NoneExposed assemblies := by
  intro assemblies
  have hOrderly : Orderly assemblies := orderly_nesting _
  have hInner : (synthesize assemblies).graph.contains innerType.classId = true := by
    decide +kernel
  have hOuter : (synthesize assemblies).graph.contains outerType.classId = false := by
    decide +kernel
  have hAdded : Accepts assemblies "Lib" innerType :=
    hOrderly.accepts_of_contains List.mem_cons_self
      (TypeDef.mem_listTree (List.mem_cons_of_mem _ List.mem_cons_self)) hInner
  refine ⟨hOrderly, hAdded, hInner, hOuter, fun hNone => ?_⟩
  have hAround := hNone _ List.mem_cons_self innerType hAdded { outerType with flags := {} }
    (TypeDef.mem_listTree List.mem_cons_self) (.single List.mem_cons_self)
  rw [show ({ outerType with flags := {} } : TypeDef).classId = outerType.classId from rfl, hOuter]
    at hAround
  cases hAround

end KotlinBackend
