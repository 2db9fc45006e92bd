import KotlinBackend.Proofs.FileName
import KotlinBackend.Proofs.Storage.Directory

/-!
# Paths of output files

Every output is named after a stem, with one of four endings. Outputs of different stems never have
the same path, so files are overwritten exactly if two files of the lowered module have one stem.
No collision of the files that are read rules that out, as long as the facades for members of
undeclared classes get stems of their own.
-/

namespace KotlinBackend

theorem mem_of_splitFirst {separator : Char} {text before after : List Char}
    (h : Text.splitFirst separator text = some (before, after)) : ∀ c ∈ before, c ∈ text := by
  induction text generalizing before after with
  | nil => cases h
  | cons c rest ih =>
    rw [Text.splitFirst] at h
    split at h
    · cases h
      simp
    · obtain ⟨⟨before', after'⟩, hRest, hParts⟩ := Option.map_eq_some_iff.mp h
      cases hParts
      intro d hd
      rcases List.mem_cons.mp hd with rfl | hd
      · exact List.mem_cons_self
      · exact List.mem_cons_of_mem _ (ih hRest d hd)

theorem slash_not_mem_baseName (name : String) : '/' ∉ (baseName name).toList := by
  intro hSlash
  rw [baseName, String.toList_ofList, List.mem_reverse] at hSlash
  have hAll := List.all_takeWhile (p := fun c => c != '/' && c != '\\') (l := name.toList.reverse)
  have h := List.all_eq_true.mp hAll '/' hSlash
  exact absurd h (by decide)

/-- A stem is a part of a name behind its directories. -/
theorem SourceFile.slash_not_mem_stem (f : SourceFile) : '/' ∉ f.stem.toList := by
  have hBase := slash_not_mem_baseName f.name
  unfold SourceFile.stem
  simp only
  split
  · rename_i stem rest hCut
    obtain ⟨⟨before, after⟩, hSplit, hParts⟩ := Option.map_eq_some_iff.mp hCut
    cases hParts
    split
    · exact hBase
    · rw [String.toList_ofList]
      exact fun hSlash => hBase (mem_of_splitFirst hSplit '/' hSlash)
  · exact hBase

/-- Everything that an output can end with. -/
def outputEndings : List String := [".cs", ".pre.ir.txt", ".post.ir.txt", ".tree.xml"]

/-- The endings of the outputs for a stem. -/
def endingsFor (dumps : Bool) (before : List SourceFile) (stem : String) : List String :=
  codeExtension ::
    if dumps then
      (if (listingOf? before stem).isSome then [".pre.ir.txt"] else []) ++
        [".post.ir.txt", ".tree.xml"]
    else []

theorem endingsFor_sublist (dumps : Bool) (before : List SourceFile) (stem : String) :
    (endingsFor dumps before stem).Sublist outputEndings := by
  unfold endingsFor
  cases dumps <;> cases (listingOf? before stem).isSome <;> decide

/-- No ending is the end of another one, so what an output is named after can be told. -/
theorem append_ending_inj {a b stem stem' : String} (ha : a ∈ outputEndings)
    (hb : b ∈ outputEndings) (h : stem ++ a = stem' ++ b) : stem = stem' ∧ a = b := by
  have hEndings : ∀ a ∈ outputEndings, ∀ b ∈ outputEndings, a.toList <:+ b.toList → a = b := by
    decide
  have hLists : stem.toList ++ a.toList = stem'.toList ++ b.toList := by
    simpa using congrArg String.toList h
  have hSuffix : a.toList <:+ b.toList ∨ b.toList <:+ a.toList :=
    List.suffix_or_suffix_of_suffix ⟨stem.toList, rfl⟩ (hLists ▸ ⟨stem'.toList, rfl⟩)
  obtain rfl : a = b := by
    rcases hSuffix with hSuffix | hSuffix
    · exact hEndings a ha b hb hSuffix
    · exact (hEndings b hb a ha hSuffix).symm
  exact ⟨String.toList_inj.mp (List.append_cancel_right hLists), rfl⟩

theorem isEntryName_append {stem ending : String} (hStem : '/' ∉ stem.toList)
    (hEnding : ending ∈ outputEndings) : IsEntryName (stem ++ ending) := by
  have hEndings : ∀ ending ∈ outputEndings, '/' ∉ ending.toList ∧ 2 < ending.length := by decide
  obtain ⟨hSlash, hLong⟩ := hEndings ending hEnding
  constructor
  · rw [String.toList_append, List.mem_append]
    exact not_or.mpr ⟨hStem, hSlash⟩
  · rw [String.length_append]
    omega

/-- Outputs have one path exactly if stems and endings are the same. -/
theorem same_append_iff {a b stem stem' : String} (ha : a ∈ outputEndings) (hb : b ∈ outputEndings)
    (hStem : '/' ∉ stem.toList) (hStem' : '/' ∉ stem'.toList) :
    (Path.mk (stem ++ a)).same ⟨stem' ++ b⟩ = true ↔ stem = stem' ∧ a = b := by
  rw [(isEntryName_append hStem ha).same_iff (isEntryName_append hStem' hb)]
  constructor
  · exact append_ending_inj ha hb
  · rintro ⟨rfl, rfl⟩
    rfl

theorem outputsOf_names (dumps : Bool) (before : List SourceFile) (file : SourceFile)
    (generated : Output.GeneratedFile) :
    (outputsOf dumps before file generated).map (·.1) =
      (endingsFor dumps before generated.stem).map (generated.stem ++ ·) := by
  cases dumps with
  | false => rfl
  | true => cases h : listingOf? before generated.stem <;> simp [outputsOf, endingsFor, h]

/-- The outputs of a module are named after the stems of its files. -/
theorem outputsFor_names (dumps : Bool) (S : SymbolSource) (before lowered : SourceModule) :
    (outputsFor dumps S before lowered).value.map (·.1) =
      lowered.stems.flatMap fun stem =>
        (endingsFor dumps before.files stem).map (stem ++ ·) := by
  have hZip {α : Type} (code : SourceFile → α) (files : List SourceFile) :
      files.zip (files.map code) = files.map fun f => (f, code f) := by
    induction files with
    | nil => rfl
    | cons f rest ih => rw [List.map_cons, List.zip_cons_cons, ih, List.map_cons]
  simp only [outputsFor, Tally.value_map, Output.generate, Tally.value_each, hZip, List.flatMap_map,
    List.map_flatMap, outputsOf_names, SourceModule.stems]

/-- No two of some paths are the same. -/
def PathsDistinct (names : List String) : Prop :=
  names.Pairwise fun a b => (Path.mk a).same ⟨b⟩ = false

theorem SourceModule.slash_not_mem_stems (m : SourceModule) :
    ∀ stem ∈ m.stems, '/' ∉ stem.toList := by
  intro stem hStem
  obtain ⟨f, _, rfl⟩ := List.mem_map.mp hStem
  exact f.slash_not_mem_stem

section Outputs

variable {dumps : Bool} {before : List SourceFile} {stem stem' : String}

theorem mem_outputEndings {a : String} (h : a ∈ endingsFor dumps before stem) :
    a ∈ outputEndings :=
  (endingsFor_sublist dumps before stem).subset h

theorem pathsDistinct_endings (hStem : '/' ∉ stem.toList) :
    PathsDistinct ((endingsFor dumps before stem).map (stem ++ ·)) := by
  have hNodup : (endingsFor dumps before stem).Nodup :=
    (endingsFor_sublist dumps before stem).nodup (by decide)
  refine List.pairwise_map.mpr (hNodup.imp_of_mem fun {a b} ha hb hne => ?_)
  rw [← Bool.not_eq_true,
    same_append_iff (mem_outputEndings ha) (mem_outputEndings hb) hStem hStem]
  exact fun h => hne h.2

/-- The outputs for two stems have no path in common exactly if the stems differ. -/
theorem endings_disjoint_iff (hStem : '/' ∉ stem.toList) (hStem' : '/' ∉ stem'.toList) :
    (∀ x ∈ (endingsFor dumps before stem).map (stem ++ ·),
      ∀ y ∈ (endingsFor dumps before stem').map (stem' ++ ·), (Path.mk x).same ⟨y⟩ = false) ↔
        stem ≠ stem' := by
  constructor
  · rintro h rfl
    -- both have the output for the code
    have hCode : stem ++ codeExtension ∈ (endingsFor dumps before stem).map (stem ++ ·) :=
      List.mem_map_of_mem List.mem_cons_self
    have hDiffer := h _ hCode _ hCode
    simp [Path.same] at hDiffer
  · intro hne x hx y hy
    obtain ⟨a, ha, rfl⟩ := List.mem_map.mp hx
    obtain ⟨b, hb, rfl⟩ := List.mem_map.mp hy
    rw [← Bool.not_eq_true,
      same_append_iff (mem_outputEndings ha) (mem_outputEndings hb) hStem hStem']
    exact fun h => hne h.1

end Outputs

/-- Outputs overwrite each other exactly if two files have one stem. -/
theorem pathsDistinct_outputs (dumps : Bool) (S : SymbolSource) (before lowered : SourceModule) :
    PathsDistinct ((outputsFor dumps S before lowered).value.map (·.1)) ↔ lowered.stems.Nodup := by
  have hSlash := lowered.slash_not_mem_stems
  rw [outputsFor_names, PathsDistinct, List.pairwise_flatMap, List.nodup_iff_pairwise_ne]
  constructor
  · rintro ⟨_, hPairs⟩
    exact hPairs.imp_of_mem fun {stem stem'} hStem hStem' h =>
      (endings_disjoint_iff (hSlash stem hStem) (hSlash stem' hStem')).mp h
  · intro hPairs
    refine ⟨fun stem hStem => pathsDistinct_endings (hSlash stem hStem), ?_⟩
    exact hPairs.imp_of_mem fun {stem stem'} hStem hStem' h =>
      (endings_disjoint_iff (hSlash stem hStem) (hSlash stem' hStem')).mpr h

/-- The stems of the facades that a relocation adds differ from each other and from the stems of the
files that are there. -/
def SourceModule.FacadesFresh (m : SourceModule) : Prop :=
  ((m.externalContainers m.declaredClasses).map externalFacadeStem).Nodup ∧
    ∀ container ∈ m.externalContainers m.declaredClasses, externalFacadeStem container ∉ m.stems

instance (m : SourceModule) : Decidable m.FacadesFresh := inferInstanceAs (Decidable (_ ∧ _))

theorem SourceModule.nodup_stems_iff {m : SourceModule} (h : collisions [] m.files = []) :
    (m.stems ++ (m.externalContainers m.declaredClasses).map externalFacadeStem).Nodup ↔
      m.FacadesFresh := by
  have hStems : m.stems.Nodup := (collisions_eq_nil.mp h).1
  rw [List.nodup_append, SourceModule.FacadesFresh]
  constructor
  · rintro ⟨_, hFacades, hDisjoint⟩
    refine ⟨hFacades, fun container hContainer hStem => ?_⟩
    exact hDisjoint _ hStem _ (List.mem_map_of_mem hContainer) rfl
  · rintro ⟨hFacades, hFresh⟩
    refine ⟨hStems, hFacades, fun stem hStem facade hFacade => ?_⟩
    obtain ⟨container, hContainer, hName⟩ := List.mem_map.mp hFacade
    intro hEq
    rw [hEq, ← hName] at hStem
    exact hFresh container hContainer hStem

/-- Files without a collision are lowered to files with different stems, and to outputs with
different paths, exactly if the facades for members of undeclared classes have fresh stems. -/
theorem outputs_distinct_iff (S : SymbolSource) (dumps : Bool) (m before : SourceModule)
    (h : collisions [] m.files = []) :
    let lowered := (Pipeline.standard.run (.ofModule S.contains m) m).module
    (lowered.stems.Nodup ↔ m.FacadesFresh) ∧
      (PathsDistinct ((outputsFor dumps S before lowered).value.map (·.1)) ↔ m.FacadesFresh) := by
  intro lowered
  have hLowered : lowered.stems.Nodup ↔ m.FacadesFresh := by
    rw [Pipeline.stems_standard]
    exact SourceModule.nodup_stems_iff h
  exact ⟨hLowered, (pathsDistinct_outputs dumps S before lowered).trans hLowered⟩

/-- Two members of classes that have one name in different packages. -/
def textModule : SourceModule :=
  let member (owner : ClassId) : Declaration :=
    .function { id := owner.member "trim", returnType := .unit, body := some [] }
  { name := "main"
    files :=
      [{ name := "main.kt"
         package := ⟨"app"⟩
         declarations :=
          [member (.inPackage "kotlin" "Text"), member (.inPackage "kotlin.io" "Text")] }] }

/-- The one file collides with nothing, but its two facades do. -/
theorem textModule_overwrites :
    collisions [] textModule.files = [] ∧ ¬ textModule.FacadesFresh ∧
      ¬ PathsDistinct ((outputsFor false Builtins.graph.source textModule
        (Pipeline.standard.run (.ofModule Builtins.graph.source.contains textModule)
          textModule).module).value.map (·.1)) := by
  have hCollisions : collisions [] textModule.files = [] := by decide
  have hFresh : ¬ textModule.FacadesFresh := by decide
  refine ⟨hCollisions, hFresh, fun hDistinct => hFresh ?_⟩
  exact (outputs_distinct_iff Builtins.graph.source false textModule textModule
    hCollisions).2.mp hDistinct

end KotlinBackend
