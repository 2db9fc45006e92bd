import KotlinBackend.Proofs.Symbol.Closed

/-!
# Trials of a synthesis

A synthesis tries to add one type after another. The trials are listed here with the states in which
they are made, and the whole synthesis is shown to be the run of its trials: between two of them
nothing changes but the classes that were looked at. Nothing is said here about what a trial adds to
the graph.
-/

namespace KotlinBackend

open Metadata (Assembly TypeDef)

/-- An attempt to add a type, with the state in which it is made. -/
structure Trial where
  assembly : String
  type : TypeDef
  state : Synthesis

namespace Trial

variable (known : ClassId → Bool) (c : Trial)

def result : Synthesis × Option SkipReason := c.state.addType known c.assembly c.type

def failure? : Option SkipReason := (c.result known).2

def next : Synthesis :=
  match c.result known with
  | (s, some reason) => s.skip c.assembly c.type reason
  | (s, none) => s

def report? : Option SkippedType :=
  (c.failure? known).map fun reason => ⟨c.assembly, c.type.fullName, reason⟩

end Trial

namespace Synthesis

def look (s : Synthesis) (t : TypeDef) : Synthesis := { s with visited := t.classId :: s.visited }

mutual

/-- The trials that are made to add a type and the types nested in it. -/
def treeTrials (known : ClassId → Bool) (assembly : String) : TypeDef → Synthesis → List Trial
  | type@{ nestedTypes, .. }, s =>
    if s.visited.contains type.classId then []
    else
      let trial : Trial := ⟨assembly, type, s.look type⟩
      trial :: match trial.failure? known with
        | some _ => []
        | none => treesTrials known assembly nestedTypes (trial.next known)

def treesTrials (known : ClassId → Bool) (assembly : String) :
    List TypeDef → Synthesis → List Trial
  | [], _ => []
  | type :: rest, s =>
    treeTrials known assembly type s ++
      treesTrials known assembly rest (addTree known assembly type s)

end

def assemblyTrials (known : ClassId → Bool) (s : Synthesis) (a : Assembly) : List Trial :=
  treesTrials known a.name (a.topLevelTypes ++ a.types.filter (·.flags.isNested))
    { s with visited := [] }

def assembliesTrials (known : ClassId → Bool) : List Assembly → Synthesis → List Trial
  | [], _ => []
  | a :: rest, s => assemblyTrials known s a ++ assembliesTrials known rest (addAssembly known s a)

end Synthesis

def trials (assemblies : List Assembly) : List Trial :=
  Synthesis.assembliesTrials (foreignClasses assemblies).contains assemblies {}

/-- The synthesis of assemblies adds a type for one of them, without failure. -/
def Accepts (assemblies : List Assembly) (assembly : String) (t : TypeDef) : Prop :=
  ∃ s, ⟨assembly, t, s⟩ ∈ trials assemblies ∧
    (s.addType (foreignClasses assemblies).contains assembly t).2 = none

/-- A state comes from another by some trials, one after another. -/
inductive Synthesis.Run (known : ClassId → Bool) : Synthesis → List Trial → Synthesis → Prop
  | done (s : Synthesis) (visited : List ClassId) : Run known s [] { s with visited }
  | trial {s s' : Synthesis} {rest : List Trial} (assembly : String) (t : TypeDef)
      (visited : List ClassId)
      (h : Run known (Trial.next known ⟨assembly, t, { s with visited }⟩) rest s') :
      Run known s (⟨assembly, t, { s with visited }⟩ :: rest) s'

section Runs

variable {known : ClassId → Bool} {s s' s'' : Synthesis} {cs cs' : List Trial}

theorem Trial.isAccepted_of_failure? {c : Trial} (h : c.failure? known = none) :
    c.type.isAccepted = true := by
  cases hDefect : c.type.defect? with
  | none => simp [TypeDef.isAccepted, hDefect]
  | some defect => simp [Trial.failure?, Trial.result, Synthesis.addType, hDefect] at h

theorem Synthesis.notes_addType (s : Synthesis) (known : ClassId → Bool) (assembly : String)
    (t : TypeDef) :
    (s.addType known assembly t).1.visited = s.visited ∧
      (s.addType known assembly t).1.skipped = s.skipped := by
  unfold Synthesis.addType
  split
  · exact ⟨rfl, rfl⟩
  · exact ⟨rfl, rfl⟩
  · split <;> exact ⟨rfl, rfl⟩

namespace Trial

variable (c : Trial)

theorem visited_next : (c.next known).visited = c.state.visited := by
  obtain ⟨hVisited, _⟩ := c.state.notes_addType known c.assembly c.type
  rw [next, result]
  split
  all_goals
    rename_i hResult
    rw [hResult] at hVisited
    exact hVisited

theorem graph_next : (c.next known).graph = (c.result known).1.graph := by
  rw [next]
  cases c.result known with
  | mk s reason? => cases reason? <;> rfl

theorem definedBy_next : (c.next known).definedBy = (c.result known).1.definedBy := by
  rw [next]
  cases c.result known with
  | mk s reason? => cases reason? <;> rfl

theorem skipped_next :
    (c.next known).skipped = c.state.skipped ++ (c.report? known).toList := by
  obtain ⟨_, hSkipped⟩ := c.state.notes_addType known c.assembly c.type
  rw [next, report?, failure?, result]
  split
  all_goals
    rename_i hResult
    rw [hResult] at hSkipped ⊢
    simp only at hSkipped
    simp [Synthesis.skip, hSkipped]

end Trial

namespace Synthesis

theorem Run.refl (s : Synthesis) : s.Run known [] s := .done s s.visited

/-- It does not matter to a run which classes were looked at before. -/
theorem Run.of_visited {visited : List ClassId}
    (h : ({ s with visited } : Synthesis).Run known cs s') : s.Run known cs s' := by
  cases h with
  | done _ visited => exact .done s visited
  | trial assembly t visited h => exact .trial assembly t visited h

theorem Run.append (h : s.Run known cs s') (h' : s'.Run known cs' s'') :
    s.Run known (cs ++ cs') s'' := by
  induction h with
  | done s visited => exact h'.of_visited
  | trial assembly t visited _ ih => exact .trial assembly t visited (ih h')

theorem Run.skipped (h : s.Run known cs s') :
    s'.skipped = s.skipped ++ cs.filterMap (·.report? known) := by
  induction h with
  | done s visited => simp
  | trial assembly t visited _ ih =>
    rw [ih, Trial.skipped_next, List.append_assoc, List.filterMap_cons]
    cases Trial.report? known _ <;> rfl

/-- What the trials for types of an assembly are: a run that looks at the classes of the types that
are tried and at no others, and at none of them twice. -/
structure Tries (known : ClassId → Bool) (assembly : String) (types : List TypeDef) (s : Synthesis)
    (cs : List Trial) (s' : Synthesis) : Prop where
  run : s.Run known cs s'
  visited : s'.visited = (cs.map (·.type.classId)).reverse ++ s.visited
  nodup : s.visited.Nodup → s'.visited.Nodup
  own : ∀ c ∈ cs, c.assembly = assembly ∧ c.type ∈ types

variable {assembly : String} {types types' : List TypeDef}

theorem Tries.refl (s : Synthesis) : s.Tries known assembly types [] s :=
  ⟨.refl s, rfl, id, List.forall_mem_nil _⟩

theorem Tries.append (h : s.Tries known assembly types cs s')
    (h' : s'.Tries known assembly types cs' s'') :
    s.Tries known assembly types (cs ++ cs') s'' where
  run := h.run.append h'.run
  visited := by simp [h'.visited, h.visited]
  nodup := h'.nodup ∘ h.nodup
  own := List.forall_mem_append.mpr ⟨h.own, h'.own⟩

theorem Tries.mono (h : s.Tries known assembly types cs s') (hTypes : types ⊆ types') :
    s.Tries known assembly types' cs s' :=
  ⟨h.run, h.visited, h.nodup, fun c hc => ⟨(h.own c hc).1, hTypes (h.own c hc).2⟩⟩

theorem tries_one (known : ClassId → Bool) (assembly : String) {t : TypeDef} (ht : t ∈ types)
    (hNew : t.classId ∉ s.visited) :
    s.Tries known assembly types [⟨assembly, t, s.look t⟩]
      (Trial.next known ⟨assembly, t, s.look t⟩) where
  run := .trial assembly t _ (.refl _)
  visited := Trial.visited_next _
  nodup hNodup := by
    rw [Trial.visited_next]
    exact List.nodup_cons.mpr ⟨hNew, hNodup⟩
  own := List.forall_mem_singleton.mpr ⟨rfl, ht⟩

theorem treeTrials_eq (known : ClassId → Bool) (assembly : String) (t : TypeDef) (s : Synthesis) :
    treeTrials known assembly t s =
      if s.visited.contains t.classId then []
      else
        let trial : Trial := ⟨assembly, t, s.look t⟩
        trial :: match trial.failure? known with
          | some _ => []
          | none => treesTrials known assembly t.nestedTypes (trial.next known) := by
  obtain ⟨name, nameSpace, declaringType, baseType, interfaces, attributes, constructors, methods,
    fields, properties, events, nestedTypes, typeParameters, flags⟩ := t
  unfold treeTrials
  rfl

theorem addTree_eq_next (known : ClassId → Bool) (assembly : String) (t : TypeDef)
    (s : Synthesis) :
    addTree known assembly t s =
      if s.visited.contains t.classId then s
      else
        let trial : Trial := ⟨assembly, t, s.look t⟩
        match trial.failure? known with
        | some _ => trial.next known
        | none => addTrees known assembly t.nestedTypes (trial.next known) := by
  rw [addTree_eq]
  refine if_congr Iff.rfl rfl ?_
  simp only [Trial.failure?, Trial.next, Trial.result]
  cases hAdd : (s.look t).addType known assembly t with
  | mk added reason? =>
    rw [look] at hAdd
    cases reason? <;> simp only [hAdd]

mutual

theorem tries_addTree (known : ClassId → Bool) (assembly : String) (t : TypeDef) (s : Synthesis) :
    s.Tries known assembly t.listed (treeTrials known assembly t s)
      (addTree known assembly t s) := by
  rw [treeTrials_eq, addTree_eq_next]
  split
  · exact .refl s
  · rename_i hNew
    have hFirst := tries_one known assembly t.mem_listed (mt List.contains_iff_mem.mpr hNew)
    cases hFailure : Trial.failure? known ⟨assembly, t, s.look t⟩ with
    | some reason => simpa only [hFailure] using hFirst
    | none =>
      have hAccepted : t.isAccepted = true := Trial.isAccepted_of_failure? hFailure
      simp only [hFailure]
      refine hFirst.append ?_
      rw [TypeDef.listed_eq, if_pos hAccepted]
      -- The nested types have to be a part of the tree for the recursion to go down.
      obtain ⟨name, nameSpace, declaringType, baseType, interfaces, attributes, constructors,
        methods, fields, properties, events, nestedTypes, typeParameters, flags⟩ := t
      exact (tries_addTrees known assembly nestedTypes _).mono (List.subset_cons_self _ _)

theorem tries_addTrees (known : ClassId → Bool) (assembly : String) (ts : List TypeDef)
    (s : Synthesis) :
    s.Tries known assembly (TypeDef.listedIn ts) (treesTrials known assembly ts s)
      (addTrees known assembly ts s) := by
  cases ts with
  | nil => exact .refl s
  | cons t rest =>
    rw [TypeDef.listedIn]
    exact ((tries_addTree known assembly t s).mono (List.subset_append_left _ _)).append
      ((tries_addTrees known assembly rest _).mono (List.subset_append_right _ _))

end

theorem Tries.mem_visited_iff (h : s.Tries known assembly types cs s') {id : ClassId} :
    id ∈ s'.visited ↔ (∃ c ∈ cs, c.type.classId = id) ∨ id ∈ s.visited := by
  simp [h.visited]

theorem mem_visited_addTree (known : ClassId → Bool) (assembly : String) (t : TypeDef)
    (s : Synthesis) : t.classId ∈ (addTree known assembly t s).visited := by
  rw [(tries_addTree known assembly t s).mem_visited_iff, treeTrials_eq]
  split
  · rename_i hLooked
    exact .inr (List.contains_iff_mem.mp hLooked)
  · exact .inl ⟨_, List.mem_cons_self, rfl⟩

theorem mem_visited_addTrees (known : ClassId → Bool) (assembly : String) {ts : List TypeDef}
    {t : TypeDef} (ht : t ∈ ts) (s : Synthesis) :
    t.classId ∈ (addTrees known assembly ts s).visited := by
  induction ts generalizing s with
  | nil => cases ht
  | cons first rest ih =>
    rcases List.mem_cons.mp ht with rfl | ht
    · have hFirst := mem_visited_addTree known assembly t s
      exact (tries_addTrees known assembly rest _).mem_visited_iff.mpr (.inr hFirst)
    · exact ih ht _

end Synthesis

end Runs

section Assemblies

variable {known : ClassId → Bool} {assemblies : List Assembly}

theorem Metadata.TypeDef.listedIn_subset {ts us : List TypeDef} (h : ts ⊆ us) :
    TypeDef.listedIn ts ⊆ TypeDef.listedIn us := by
  intro u hu
  rw [TypeDef.listedIn_eq_flatMap, List.mem_flatMap] at hu ⊢
  obtain ⟨t, ht, hu⟩ := hu
  exact ⟨t, h ht, hu⟩

namespace Synthesis

theorem tries_addAssembly (known : ClassId → Bool) (s : Synthesis) (a : Assembly) :
    ({ s with visited := [] } : Synthesis).Tries known a.name (TypeDef.listedIn a.types)
      (assemblyTrials known s a) (addAssembly known s a) :=
  (tries_addTrees known a.name _ _).mono
    (TypeDef.listedIn_subset fun _ ht => mem_work_iff.mp ht)

theorem run_assembliesTrials (known : ClassId → Bool) (assemblies : List Assembly)
    (s : Synthesis) :
    s.Run known (assembliesTrials known assemblies s) (assemblies.foldl (addAssembly known) s) := by
  induction assemblies generalizing s with
  | nil => exact .refl s
  | cons a rest ih => exact (tries_addAssembly known s a).run.of_visited.append (ih _)

theorem mem_assembliesTrials {s : Synthesis} {c : Trial}
    (hc : c ∈ assembliesTrials known assemblies s) :
    ∃ a ∈ assemblies, c.assembly = a.name ∧ c.type ∈ TypeDef.listedIn a.types := by
  induction assemblies generalizing s with
  | nil => cases hc
  | cons a rest ih =>
    rcases List.mem_append.mp hc with hc | hc
    · exact ⟨a, List.mem_cons_self, (tries_addAssembly known s a).own c hc⟩
    · obtain ⟨other, hOther, hOwn⟩ := ih hc
      exact ⟨other, List.mem_cons_of_mem _ hOther, hOwn⟩

/-- For every type that an assembly has, it tries some type of the same class. -/
theorem exists_assemblyTrial (known : ClassId → Bool) (s : Synthesis) {a : Assembly} {t : TypeDef}
    (ht : t ∈ a.types) : ∃ c ∈ assemblyTrials known s a, c.type.classId = t.classId := by
  have hLooked : t.classId ∈ (addAssembly known s a).visited :=
    mem_visited_addTrees known a.name (mem_work_iff.mpr ht) _
  rcases (tries_addAssembly known s a).mem_visited_iff.mp hLooked with hTried | hBefore
  · exact hTried
  · cases hBefore

theorem exists_assembliesTrial (known : ClassId → Bool) {a : Assembly} (ha : a ∈ assemblies)
    {t : TypeDef} (ht : t ∈ a.types) (s : Synthesis) :
    ∃ c ∈ assembliesTrials known assemblies s,
      c.assembly = a.name ∧ c.type ∈ TypeDef.listedIn a.types ∧ c.type.classId = t.classId := by
  induction assemblies generalizing s with
  | nil => cases ha
  | cons first rest ih =>
    rcases List.mem_cons.mp ha with rfl | ha
    · obtain ⟨c, hc, hClass⟩ := exists_assemblyTrial known s ht
      obtain ⟨hName, hListed⟩ := (tries_addAssembly known s a).own c hc
      exact ⟨c, List.mem_append_left _ hc, hName, hListed, hClass⟩
    · obtain ⟨c, hc, hTrial⟩ := ih ha (addAssembly known s first)
      exact ⟨c, List.mem_append_right _ hc, hTrial⟩

/-- An assembly tries no two types of one class. -/
theorem nodup_assemblyTrials (known : ClassId → Bool) (s : Synthesis) (a : Assembly) :
    ((assemblyTrials known s a).map (·.type.classId)).Nodup := by
  have hTries := tries_addAssembly known s a
  have hNodup := hTries.nodup List.nodup_nil
  rw [hTries.visited, List.append_nil] at hNodup
  exact List.nodup_reverse.mp hNodup

theorem nodup_assembliesTrials (known : ClassId → Bool)
    (hNames : (assemblies.map (·.name)).Nodup) (s : Synthesis) :
    ((assembliesTrials known assemblies s).map fun c => (c.assembly, c.type.classId)).Nodup := by
  induction assemblies generalizing s with
  | nil => exact List.nodup_nil
  | cons a rest ih =>
    rw [List.map_cons, List.nodup_cons] at hNames
    rw [assembliesTrials, List.map_append]
    refine List.Nodup.append ?_ (ih hNames.2 _) ?_
    · refine List.Nodup.of_map Prod.snd ?_
      rw [List.map_map]
      exact nodup_assemblyTrials known s a
    · -- The trials of another assembly have another name.
      intro key hFirst hRest
      obtain ⟨c, hc, rfl⟩ := List.mem_map.mp hFirst
      obtain ⟨d, hd, hKey⟩ := List.mem_map.mp hRest
      obtain ⟨b, hb, hName, _⟩ := mem_assembliesTrials hd
      have hSame : b.name = a.name := by
        rw [← hName, (Prod.mk.inj hKey).1, ((tries_addAssembly known s a).own c hc).1]
      exact hNames.1 (List.mem_map.mpr ⟨b, hb, hSame⟩)

end Synthesis

theorem run_trials (assemblies : List Assembly) :
    Synthesis.Run (foreignClasses assemblies).contains {} (trials assemblies)
      (synthesize assemblies) :=
  Synthesis.run_assembliesTrials _ assemblies {}

/-- A trial is determined by its assembly and its class. -/
theorem nodup_trials (hNames : (assemblies.map (·.name)).Nodup) :
    ((trials assemblies).map fun c => (c.assembly, c.type.classId)).Nodup :=
  Synthesis.nodup_assembliesTrials _ hNames {}

theorem skipped_synthesize (assemblies : List Assembly) :
    (synthesize assemblies).skipped =
      (trials assemblies).filterMap (·.report? (foreignClasses assemblies).contains) :=
  (run_trials assemblies).skipped

theorem Accepts.listed {assembly : String} {t : TypeDef} (h : Accepts assemblies assembly t) :
    t ∈ listedTypes assemblies ∧ t.isAccepted = true := by
  obtain ⟨s, hTried, hAdded⟩ := h
  obtain ⟨a, ha, _, hListed⟩ := Synthesis.mem_assembliesTrials hTried
  exact ⟨List.mem_flatMap.mpr ⟨a, ha, hListed⟩,
    Trial.isAccepted_of_failure? (c := ⟨assembly, t, s⟩) hAdded⟩

end Assemblies

end KotlinBackend
