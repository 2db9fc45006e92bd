import KotlinBackend.Proofs.Symbol.Placement

/-!
# Which foreign types are accounted for

An assembly tries one type for each class, and what it tries is in the graph or reported afterwards.
The class does not show how many parameters a type has. Of types that differ in nothing else one is
tried, and the others are neither in the graph nor reported.
-/

namespace KotlinBackend

open Metadata (Assembly TypeDef)

section Definitions

variable (assemblies : List Assembly) (assembly : String) (t : TypeDef)

/-- The graph has the class of a type, and has it from a type of the same full name. -/
def Represented : Prop :=
  ∃ origin u, Accepts assemblies origin u ∧ u.classId = t.classId ∧ u.fullName = t.fullName ∧
    (synthesize assemblies).graph.class? t.classId =
      some { u.classSymbol (foreignClasses assemblies).contains (.assembly origin) with
        companion := u.companionClass? }

/-- A type of the full name is reported as one that the assembly skips. -/
def Reported : Prop :=
  ∃ entry ∈ (synthesize assemblies).report.skipped,
    entry.assembly = assembly ∧ entry.typeName = t.fullName

def Accounted : Prop := Represented assemblies t ∨ Reported assemblies assembly t

def triedFor? (id : ClassId) : Option TypeDef :=
  ((trials assemblies).find? fun c => c.assembly == assembly && c.type.classId == id).map (·.type)

/-- No type of another assembly or of another class has the full name of a type. -/
def HasOwnName : Prop :=
  ∀ a ∈ assemblies, ∀ u ∈ TypeDef.listedIn a.types, u.fullName = t.fullName →
    a.name = assembly ∧ u.classId = t.classId

end Definitions

variable {assemblies : List Assembly} {assembly : String} {t u : TypeDef}

theorem Accepts.represented (h : Accepts assemblies assembly t) : Represented assemblies t :=
  ⟨assembly, t, h, rfl, rfl, h.shows.class?_self⟩

/-- Whatever is tried is accounted for: in the graph if it is accepted, and in the report if not. -/
theorem Trial.accounted {c : Trial} (hc : c ∈ trials assemblies) :
    Accounted assemblies c.assembly c.type := by
  cases hFailure : c.failure? (foreignClasses assemblies).contains with
  | none => exact .inl (Accepts.represented ⟨c.state, hc, hFailure⟩)
  | some reason =>
    refine .inr ⟨⟨c.assembly, c.type.fullName, reason⟩, ?_, rfl, rfl⟩
    have hReport : c.report? (foreignClasses assemblies).contains =
        some ⟨c.assembly, c.type.fullName, reason⟩ := by
      rw [Trial.report?, hFailure, Option.map_some]
    rw [Synthesis.report, skipped_synthesize]
    exact List.mem_filterMap.mpr ⟨c, hc, hReport⟩

/-- Nothing is accounted for but by a trial of a type of the same full name. -/
theorem Accounted.tried (h : Accounted assemblies assembly t) :
    ∃ c ∈ trials assemblies, c.type.fullName = t.fullName := by
  rcases h with ⟨origin, u, ⟨s, hTried, _⟩, _, hName, _⟩ | ⟨entry, hEntry, _, hName⟩
  · exact ⟨⟨origin, u, s⟩, hTried, hName⟩
  · rw [Synthesis.report, skipped_synthesize] at hEntry
    obtain ⟨c, hc, hReport⟩ := List.mem_filterMap.mp hEntry
    obtain ⟨reason, _, rfl⟩ := Option.map_eq_some_iff.mp hReport
    exact ⟨c, hc, hName⟩

theorem Accounted.congr (h : Accounted assemblies assembly u) (hClass : u.classId = t.classId)
    (hName : u.fullName = t.fullName) : Accounted assemblies assembly t := by
  unfold Accounted Represented Reported at h ⊢
  rwa [hClass, hName] at h

/-- Types of one class have the same namespace, and their names differ in the arity at most. -/
theorem Metadata.TypeDef.names_of_classId_eq (h : u.classId = t.classId) :
    u.nameSpace = t.nameSpace ∧ u.simpleName = t.simpleName := by
  simp only [TypeDef.classId, ClassId.mk.injEq, QualifiedName.mk.injEq] at h
  obtain ⟨hSpace, hNames⟩ := h
  have hLast := congrArg List.getLast? hNames
  simp only [List.getLast?_concat, Option.some.injEq] at hLast
  exact ⟨hSpace, hLast⟩

/-- An assembly finds a type to try for the class of each of its types, and it tries no other type
for that class. -/
theorem exists_triedFor? (hNames : (assemblies.map (·.name)).Nodup) {a : Assembly}
    (ha : a ∈ assemblies) (ht : t ∈ a.types) :
    ∃ c ∈ trials assemblies, triedFor? assemblies a.name t.classId = some c.type ∧
      c.assembly = a.name ∧ c.type.classId = t.classId ∧
      ∀ d ∈ trials assemblies, d.assembly = a.name → d.type.classId = t.classId → d = c := by
  let wanted (c : Trial) : Bool := c.assembly == a.name && c.type.classId == t.classId
  have hWanted (c : Trial) :
      wanted c = true ↔ c.assembly = a.name ∧ c.type.classId = t.classId := by
    simp only [wanted, Bool.and_eq_true, beq_iff_eq]
  obtain ⟨c, hc, hName, _, hClass⟩ := Synthesis.exists_assembliesTrial _ ha ht {}
  have hSome : ((trials assemblies).find? wanted).isSome = true :=
    List.find?_isSome.mpr ⟨c, hc, (hWanted c).mpr ⟨hName, hClass⟩⟩
  obtain ⟨first, hFirst⟩ := Option.isSome_iff_exists.mp hSome
  obtain ⟨hFirstName, hFirstClass⟩ := (hWanted first).mp (List.find?_some hFirst)
  have hMem := List.mem_of_find?_eq_some hFirst
  refine ⟨first, hMem, ?_, hFirstName, hFirstClass, fun d hd hdName hdClass => ?_⟩
  · rw [triedFor?, hFirst, Option.map_some]
  · refine List.inj_on_of_nodup_map (nodup_trials hNames) hd hMem ?_
    rw [hdName, hdClass, hFirstName, hFirstClass]

/-- For each type of an assembly, the type that is tried for its class is accounted for. It has the
same namespace and simple name. The type itself is accounted for if the full names are the same as
well, and not otherwise, unless its full name is found elsewhere. -/
theorem type_accounted_iff_tried (hNames : (assemblies.map (·.name)).Nodup) {a : Assembly}
    (ha : a ∈ assemblies) (ht : t ∈ a.types) :
    ∃ u ∈ TypeDef.listedIn a.types,
      triedFor? assemblies a.name t.classId = some u ∧ u.classId = t.classId ∧
      u.nameSpace = t.nameSpace ∧ u.simpleName = t.simpleName ∧
      Accounted assemblies a.name u ∧
      (u.fullName = t.fullName → Accounted assemblies a.name t) ∧
      (HasOwnName assemblies a.name t → Accounted assemblies a.name t →
        u.fullName = t.fullName) := by
  obtain ⟨c, hc, hTried, hName, hClass, hOnly⟩ := exists_triedFor? hNames ha ht
  have hAccounted : Accounted assemblies a.name c.type := hName ▸ Trial.accounted hc
  obtain ⟨hSpace, hSimple⟩ := TypeDef.names_of_classId_eq hClass
  refine ⟨c.type, ?_, hTried, hClass, hSpace, hSimple, hAccounted, hAccounted.congr hClass,
    fun hOwn hType => ?_⟩
  · obtain ⟨b, hb, hOther, hListed⟩ := Synthesis.mem_assembliesTrials hc
    have hSame : b = a := List.inj_on_of_nodup_map hNames hb ha (hOther.symm.trans hName)
    exact hSame ▸ hListed
  · -- What accounts for the type is a trial in the same assembly for the same class.
    obtain ⟨d, hd, hFull⟩ := hType.tried
    obtain ⟨b, hb, hOther, hListed⟩ := Synthesis.mem_assembliesTrials hd
    obtain ⟨hSame, hdClass⟩ := hOwn b hb d.type hListed hFull
    rw [← hOnly d hd (hOther.trans hSame) hdClass, hFull]

section Examples

/-- A nested type is listed once more beside the type around it. -/
def twiceListed : List Assembly :=
  [⟨"Lib", [outerType, innerType, { libraryType "Hidden" with flags := {} }]⟩]

theorem inner_accounted :
    HasOwnName twiceListed "Lib" innerType ∧ Accounted twiceListed "Lib" innerType := by
  have hTried : (triedFor? twiceListed "Lib" innerType.classId).map (·.fullName) =
      some innerType.fullName := by decide +kernel
  obtain ⟨u, _, hFor, _, _, _, _, hAccounted, _⟩ := type_accounted_iff_tried (t := innerType)
    (by decide +kernel : (twiceListed.map (·.name)).Nodup) List.mem_cons_self
    (List.mem_cons_of_mem _ List.mem_cons_self)
  rw [hFor, Option.map_some, Option.some.injEq] at hTried
  exact ⟨by unfold HasOwnName; decide +kernel, hAccounted hTried⟩

def boxType : TypeDef := { libraryType "Box`1" with typeParameters := [{ name := "T" }] }

def twoBoxes : List Assembly := [⟨"Lib", [libraryType "Box", boxType]⟩]

/-- The second of the types is lost, although it could be accepted. -/
theorem box_not_accounted :
    (∀ a ∈ twoBoxes, a.name = "Lib" ∧ boxType ∈ a.types) ∧ boxType.isAccepted = true ∧
      (synthesize twoBoxes).report.skipped = [] ∧ ¬ Accounted twoBoxes "Lib" boxType := by
  have hOther : ∀ c ∈ trials twoBoxes, c.type.fullName ≠ boxType.fullName := by decide +kernel
  refine ⟨?_, by decide +kernel, by decide +kernel, fun hAccounted => ?_⟩
  · exact List.forall_mem_singleton.mpr ⟨rfl, List.mem_cons_of_mem _ List.mem_cons_self⟩
  · obtain ⟨c, hc, hName⟩ := hAccounted.tried
    exact hOther c hc hName

end Examples

end KotlinBackend
