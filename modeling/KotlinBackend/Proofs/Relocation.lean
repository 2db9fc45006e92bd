import KotlinBackend.Facade.External

/-!
# The parts of a relocation

Relocating the members of undeclared classes takes them out of their files, appends one file for
each of these classes, and points the calls at the new places. Here the parts get names.
-/

namespace KotlinBackend

variable (declared : List ClassId)

/-- The undeclared classes that callables at file level name, each once. -/
def SourceModule.externalContainers (m : SourceModule) : List ClassId :=
  distinct ((m.externals declared).map (·.1))

/-- The callables at file level that name a class. -/
def SourceModule.externalMembers (m : SourceModule) (container : ClassId) : List Declaration :=
  (m.externals declared).filterMap fun (c, d) => if c = container then some d else none

def SourceModule.externalMoves (m : SourceModule) : Moves :=
  (m.externals declared).flatMap fun (c, d) => Moves.into (externalFacadeId c) [d]

/-- The files of the new facades. -/
def SourceModule.externalFiles (m : SourceModule) : List SourceFile :=
  (m.externalContainers declared).map fun c => externalFacadeFile c (m.externalMembers declared c)

/-- The module with its undeclared members in facades, before calls follow. -/
def SourceModule.withFacades (m : SourceModule) : SourceModule :=
  { m with
    files := m.files.map (SourceFile.withoutExternals declared) ++ m.externalFiles declared }

theorem relocateExternals_value (m : SourceModule) :
    (relocateExternals declared m).value =
      if (m.externals declared).isEmpty then m
      else (m.withFacades declared).retarget (m.externalMoves declared) := by
  unfold relocateExternals
  by_cases h : (m.externals declared).isEmpty = true
  · simp only [if_pos h]
    rfl
  · simp only [if_neg h]
    rfl

variable {declared}

theorem SourceModule.mem_externals {m : SourceModule} {container : ClassId} {d : Declaration} :
    (container, d) ∈ m.externals declared ↔
      ∃ f ∈ m.files, d ∈ f.declarations ∧ d.externalContainer? declared = some container := by
  simp only [SourceModule.externals, List.mem_flatMap, List.mem_filterMap, Option.map_eq_some_iff,
    Prod.mk.injEq]
  constructor
  · rintro ⟨f, hf, d', hd, container', hContainer, rfl, rfl⟩
    exact ⟨f, hf, hd, hContainer⟩
  · rintro ⟨f, hf, hd, hContainer⟩
    exact ⟨f, hf, d, hd, container, hContainer, rfl, rfl⟩

theorem SourceModule.mem_externalContainers {m : SourceModule} {container : ClassId} :
    container ∈ m.externalContainers declared ↔ ∃ d, (container, d) ∈ m.externals declared := by
  rw [SourceModule.externalContainers, mem_distinct, List.mem_map]
  constructor
  · rintro ⟨⟨_, d⟩, h, rfl⟩
    exact ⟨d, h⟩
  · rintro ⟨d, h⟩
    exact ⟨(container, d), h, rfl⟩

theorem SourceModule.mem_externalMembers {m : SourceModule} {container : ClassId}
    {d : Declaration} :
    d ∈ m.externalMembers declared container ↔ (container, d) ∈ m.externals declared := by
  simp only [SourceModule.externalMembers, List.mem_filterMap]
  constructor
  · rintro ⟨⟨c, d'⟩, h, hSome⟩
    split at hSome
    · rename_i hc
      obtain rfl : d' = d := by simpa using hSome
      exact hc ▸ h
    · cases hSome
  · intro h
    exact ⟨(container, d), h, by simp⟩

/-- Where nothing has to move, every declaration stays and no file is added. -/
theorem SourceModule.withFacades_of_isEmpty {m : SourceModule}
    (h : (m.externals declared).isEmpty = true) : m.withFacades declared = m := by
  have hNone : m.externals declared = [] := List.isEmpty_iff.mp h
  have hFile : ∀ f ∈ m.files, f.withoutExternals declared = f := by
    intro f hf
    have hStays : ∀ d ∈ f.declarations, (d.externalContainer? declared).isNone = true := by
      intro d hd
      cases hContainer : d.externalContainer? declared with
      | none => rfl
      | some container =>
        have hMem := SourceModule.mem_externals.mpr ⟨f, hf, hd, hContainer⟩
        rw [hNone] at hMem
        cases hMem
    rw [SourceFile.withoutExternals, List.filter_eq_self.mpr hStays]
  have hFiles : m.files.map (SourceFile.withoutExternals declared) = m.files :=
    (List.map_congr_left hFile).trans (List.map_id _)
  have hAdded : m.externalFiles declared = [] := by
    rw [SourceModule.externalFiles, SourceModule.externalContainers, hNone]
    rfl
  rw [SourceModule.withFacades, hFiles, hAdded, List.append_nil]

/-- Whatever does not depend on where calls go can be read off the module with its facades. -/
theorem view_relocateExternals {α : Type} (view : SourceModule → α)
    (h : ∀ m moves, view (SourceModule.retarget m moves) = view m) (m : SourceModule) :
    view (relocateExternals declared m).value = view (m.withFacades declared) := by
  rw [relocateExternals_value]
  split
  · rename_i hEmpty
    rw [SourceModule.withFacades_of_isEmpty hEmpty]
  · exact h _ _

/-- Only callables have a container to be moved for. -/
theorem Declaration.callable?_of_externalContainer? {d : Declaration} {container : ClassId}
    (h : d.externalContainer? declared = some container) : ∃ id, d.callable? = some id := by
  obtain ⟨id, hid, _⟩ := Option.bind_eq_some_iff.mp h
  exact ⟨id, hid⟩

theorem SourceModule.mem_externalMoves {m : SourceModule} {f : SourceFile} {d : Declaration}
    {container : ClassId} {id : CallableId} (hf : f ∈ m.files) (hd : d ∈ f.declarations)
    (hid : d.callable? = some id) (hContainer : d.externalContainer? declared = some container) :
    (id, id.movedTo (externalFacadeId container)) ∈ m.externalMoves declared := by
  refine List.mem_flatMap.mpr ⟨(container, d), ?_, ?_⟩
  · exact SourceModule.mem_externals.mpr ⟨f, hf, hd, hContainer⟩
  · simp [Moves.into, hid]

end KotlinBackend
