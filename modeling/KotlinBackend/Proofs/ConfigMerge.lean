import Mathlib.Data.List.Induction
import KotlinBackend.Config.Basic

/-!
# Laying configurations over each other

How several configurations are grouped when they are laid over each other makes no difference, and
one that is laid over a second time adds nothing. Paths count as known by their components, while a
result keeps the spelling of the first path with some components.
-/

namespace KotlinBackend.Config

theorem any_same_iff {paths : List Path} {p : Path} :
    paths.any (·.same p) = true ↔ p.components ∈ paths.map Path.components := by
  simp [Path.same]

theorem addPath_of_known {paths : List Path} {p : Path}
    (h : p.components ∈ paths.map Path.components) : addPath paths p = paths :=
  if_pos (any_same_iff.mpr h)

theorem addPath_of_new {paths : List Path} {p : Path}
    (h : p.components ∉ paths.map Path.components) : addPath paths p = paths ++ [p] :=
  if_neg (mt any_same_iff.mp h)

theorem mem_components_addPath {paths : List Path} {p : Path} {k : List Path.Component} :
    k ∈ (addPath paths p).map Path.components ↔
      k ∈ paths.map Path.components ∨ k = p.components := by
  by_cases h : p.components ∈ paths.map Path.components
  · rw [addPath_of_known h, or_iff_left_of_imp]
    rintro rfl
    exact h
  · rw [addPath_of_new h, List.map_append, List.mem_append, List.map_singleton,
      List.mem_singleton]

theorem mem_components_addPaths {paths added : List Path} {k : List Path.Component} :
    k ∈ (addPaths paths added).map Path.components ↔
      k ∈ paths.map Path.components ∨ k ∈ added.map Path.components := by
  induction added generalizing paths with
  | nil => simp [addPaths]
  | cons p rest ih =>
    rw [addPaths, List.foldl_cons, ← addPaths, ih, mem_components_addPath, List.map_cons,
      List.mem_cons, or_assoc]

theorem addPaths_of_known {paths added : List Path}
    (h : ∀ p ∈ added, p.components ∈ paths.map Path.components) : addPaths paths added = paths := by
  induction added with
  | nil => rfl
  | cons p rest ih =>
    rw [addPaths, List.foldl_cons, addPath_of_known (h p List.mem_cons_self)]
    exact ih fun q hq => h q (List.mem_cons_of_mem p hq)

/-- One path can be added before or after the others. -/
theorem addPaths_addPath (paths added : List Path) (p : Path) :
    addPaths paths (addPath added p) = addPath (addPaths paths added) p := by
  by_cases h : p.components ∈ added.map Path.components
  · rw [addPath_of_known h, addPath_of_known (mem_components_addPaths.mpr (.inr h))]
  · rw [addPath_of_new h, addPaths, List.foldl_append]
    rfl

theorem addPaths_assoc (first second third : List Path) :
    addPaths (addPaths first second) third = addPaths first (addPaths second third) := by
  induction third generalizing second with
  | nil => rfl
  | cons p rest ih =>
    calc addPaths (addPaths first second) (p :: rest)
      _ = addPaths (addPath (addPaths first second) p) rest := rfl
      _ = addPaths (addPaths first (addPath second p)) rest := by rw [addPaths_addPath]
      _ = addPaths first (addPaths (addPath second p) rest) := ih (addPath second p)

theorem addPaths_self (paths : List Path) : addPaths paths paths = paths :=
  addPaths_of_known fun _ hp => List.mem_map_of_mem hp

/-- The paths of a list that differ in their components from all paths before them, in another list
or in their own. -/
def firstOccurrences (known added : List Path) : List Path :=
  (added.zipIdx.filter fun entry =>
    (known ++ added.take entry.2).all (·.components != entry.1.components)).map Prod.fst

theorem all_differ_iff {paths : List Path} {p : Path} :
    paths.all (·.components != p.components) = true ↔
      p.components ∉ paths.map Path.components := by
  simp only [List.all_eq_true, bne_iff_ne, List.mem_map, not_exists, not_and, ne_eq]

theorem firstOccurrences_append_singleton (known added : List Path) (p : Path) :
    firstOccurrences known (added ++ [p]) = firstOccurrences known added ++
      if p.components ∈ (known ++ added).map Path.components then [] else [p] := by
  -- For the paths before the last one, what stands before them is the same in both lists.
  have hBefore : (added.zipIdx.filter fun entry =>
        (known ++ (added ++ [p]).take entry.2).all (·.components != entry.1.components)) =
      added.zipIdx.filter fun entry =>
        (known ++ added.take entry.2).all (·.components != entry.1.components) := by
    refine List.filter_congr fun entry hEntry => ?_
    have hIndex : entry.2 < added.length := by simpa using List.snd_lt_of_mem_zipIdx hEntry
    rw [List.take_append_of_le_length (Nat.le_of_lt hIndex)]
  rw [firstOccurrences, List.zipIdx_append, List.filter_append, List.map_append, hBefore,
    List.zipIdx_singleton, Nat.zero_add, ← firstOccurrences]
  congr 1
  by_cases h : p.components ∈ (known ++ added).map Path.components
  · rw [if_pos h, List.filter_cons_of_neg, List.filter_nil, List.map_nil]
    rw [List.take_left, all_differ_iff]
    exact not_not_intro h
  · rw [if_neg h, List.filter_cons_of_pos, List.filter_nil, List.map_singleton]
    rw [List.take_left, all_differ_iff]
    exact h

theorem addPaths_eq_append (known added : List Path) :
    addPaths known added = known ++ firstOccurrences known added := by
  induction added using List.reverseRecOn with
  | nil => simp [addPaths, firstOccurrences]
  | append_singleton added p ih =>
    have hKnown : p.components ∈ (addPaths known added).map Path.components ↔
        p.components ∈ (known ++ added).map Path.components := by
      rw [mem_components_addPaths, List.map_append, List.mem_append]
    rw [addPaths, List.foldl_append, ← addPaths, firstOccurrences_append_singleton,
      ← List.append_assoc, ← ih]
    by_cases h : p.components ∈ (known ++ added).map Path.components
    · rw [if_pos h, List.append_nil]
      exact addPath_of_known (hKnown.mpr h)
    · rw [if_neg h]
      exact addPath_of_new (mt hKnown.mp h)

section Rules

variable {α : Type}

/-- A value that is not at its default replaces the one below it. -/
theorem override_assoc (isDefault : α → Bool) (a b c : α) :
    (if isDefault c then (if isDefault b then a else b) else c) =
      if isDefault (if isDefault c then b else c) then a else if isDefault c then b else c := by
  by_cases hc : isDefault c = true <;> simp [hc]

theorem orElse_assoc (a b c : Option α) : (c <|> (b <|> a)) = ((c <|> b) <|> a) := by
  cases c <;> rfl

theorem orElse_self (a : Option α) : (a <|> a) = a := by
  cases a <;> rfl

end Rules

theorem merge_assoc (a b c : Config) : (a.merge b).merge c = a.merge (b.merge c) := by
  unfold merge
  rw [Config.mk.injEq]
  exact ⟨override_assoc (fun name => name == "main") a.moduleName b.moduleName c.moduleName,
    addPaths_assoc ..,
    override_assoc (fun path : Path => path.same ⟨"out"⟩) a.destination b.destination c.destination,
    addPaths_assoc .., orElse_assoc .., orElse_assoc .., orElse_assoc .., Bool.and_assoc ..,
    Bool.or_assoc .., Bool.or_assoc ..,
    override_assoc (fun mode => mode == Mode.program) a.mode b.mode c.mode, Bool.or_assoc ..⟩

theorem merge_self (a : Config) : a.merge a = a := by
  cases a
  unfold merge
  rw [Config.mk.injEq]
  exact ⟨ite_self _, addPaths_self _, ite_self _, addPaths_self _, orElse_self _, orElse_self _,
    orElse_self _, Bool.and_self _, Bool.or_self _, Bool.or_self _, ite_self _, Bool.or_self _⟩

theorem merge_default (a : Config) : a.merge {} = a := by
  cases a
  unfold merge
  rw [Config.mk.injEq]
  exact ⟨rfl, rfl, rfl, rfl, rfl, rfl, rfl, Bool.and_true .., Bool.or_false .., Bool.or_false ..,
    rfl, Bool.or_false ..⟩

theorem destination_merge (a b : Config) :
    (a.merge b).destination =
      if b.destination.components = ({} : Config).destination.components then a.destination
      else b.destination := by
  simp only [merge, Path.same, beq_iff_eq]

/-- Laying configurations over each other is associative and idempotent, so that a second time
changes nothing, and neither does a configuration with nothing but defaults. A destination counts as
the default by its components, and the paths of a configuration come after those below it, each at
its first occurrence. -/
theorem merge_laws (a b c : Config) :
    (a.merge b).merge c = a.merge (b.merge c) ∧
      a.merge a = a ∧
      (a.merge b).merge b = a.merge b ∧
      a.merge {} = a ∧
      (a.merge b).destination =
        (if b.destination.components = ({} : Config).destination.components then a.destination
          else b.destination) ∧
      (a.merge b).inputs = a.inputs ++ firstOccurrences a.inputs b.inputs ∧
      (a.merge b).binaries = a.binaries ++ firstOccurrences a.binaries b.binaries := by
  have hAgain : (a.merge b).merge b = a.merge b := by rw [merge_assoc, merge_self]
  exact ⟨merge_assoc a b c, merge_self a, hAgain, merge_default a, destination_merge a b,
    addPaths_eq_append a.inputs b.inputs, addPaths_eq_append a.binaries b.binaries⟩

/-- The spelling of the first occurrence stays, and a list keeps the repetitions that it has. -/
example :
    (Config.merge { inputs := [⟨"a.json"⟩, ⟨"a.json"⟩], destination := ⟨"build"⟩ }
        { inputs := [⟨"b//c.json"⟩, ⟨"a.json/"⟩, ⟨"b/c.json"⟩], destination := ⟨"out/."⟩ }) =
      { inputs := [⟨"a.json"⟩, ⟨"a.json"⟩, ⟨"b//c.json"⟩], destination := ⟨"build"⟩ } := by
  decide +kernel

end KotlinBackend.Config
