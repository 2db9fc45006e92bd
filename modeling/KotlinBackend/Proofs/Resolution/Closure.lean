import KotlinBackend.Placeholder
import KotlinBackend.Proofs.Mention.Renaming
import KotlinBackend.Proofs.Resolution.FilePasses
import KotlinBackend.Proofs.Resolution.ModulePasses
import KotlinBackend.Proofs.Symbol.Classes

/-!
# Resolution is closed under lowering

A module is closed for a source of symbols if every class that it names is an actual class of its
own, is trusted, or is known to the source. Replacing placeholders and running passes keep a module
closed. References are looked up before that and never again; the main statement says that nothing
is missed by it.
-/

namespace KotlinBackend

/-- Whatever passes run in whatever order, the classes of the module are conserved. -/
theorem Pipeline.conserves (p : Pipeline) (context : LoweringContext) (m : SourceModule) :
    Conserves m (p.run context m).module := by
  have hModule : ∀ (passes : List ModulePass) (l : Lowering), Conserves m l.module →
      Conserves m (passes.foldl Lowering.modulePass l).module := by
    intro passes
    induction passes with
    | nil => exact fun l h => h
    | cons pass rest ih =>
      exact fun l h => ih _ (h.trans (pass.conserves l.context l.module))
  have hFile : ∀ (passes : List FilePass) (l : Lowering), Conserves m l.module →
      Conserves m (passes.foldl Lowering.filePass l).module := by
    intro passes
    induction passes with
    | nil => exact fun l h => h
    | cons pass rest ih => exact fun l h => ih _ (h.trans (pass.conserves l.module))
  exact hFile p.filePasses _ (hModule p.modulePasses _ (Conserves.refl m))

section Closed

variable {S : SymbolSource} {m m' : SourceModule} {id : ClassId}

def Resolves (S : SymbolSource) (m : SourceModule) (id : ClassId) : Prop :=
  id ∈ m.actualClasses ∨ isTrustedPackage id.package = true ∨ S.contains id = true

/-- Everything that a module names can be resolved without its announced classes. -/
def SourceModule.Closed (S : SymbolSource) (m : SourceModule) : Prop :=
  NamesOnly (Resolves S m) m.nodes

theorem ClassId.mem_insertSorted {a : ClassId} {ids : List ClassId} :
    a ∈ ClassId.insertSorted id ids ↔ a = id ∨ a ∈ ids := by
  fun_induction ClassId.insertSorted id ids with
  | case1 => simp
  | case2 => simp
  | case3 => simp
  | case4 first rest _ _ ih =>
    rw [List.mem_cons, ih, List.mem_cons]
    exact or_left_comm

theorem ClassId.mem_sortUnique {ids : List ClassId} : id ∈ ClassId.sortUnique ids ↔ id ∈ ids := by
  have hFold (ids sorted : List ClassId) :
      id ∈ ids.foldl (fun sorted id => ClassId.insertSorted id sorted) sorted ↔
        id ∈ ids ∨ id ∈ sorted := by
    induction ids generalizing sorted with
    | nil => simp
    | cons first rest ih =>
      rw [List.foldl_cons, ih, ClassId.mem_insertSorted, List.mem_cons, or_left_comm, or_assoc]
  simp [ClassId.sortUnique, hFold]

/-- No reference is unresolved exactly if every class that is named is declared, announced ones
included, or trusted, or known. -/
theorem SourceModule.unresolved_eq_nil :
    m.unresolved S = [] ↔
      NamesOnly (fun id => id ∈ m.declaredClasses ∨ isTrustedPackage id.package = true ∨
        S.contains id = true) m.nodes := by
  have hNil (ids : List ClassId) : ids = [] ↔ ∀ id, id ∉ ids := List.eq_nil_iff_forall_not_mem
  simp only [SourceModule.unresolved, List.flatMap_eq_nil_iff, List.map_eq_nil_iff,
    SourceFile.unresolved, hNil, ClassId.mem_sortUnique, List.mem_filter, namesOnly_module]
  refine forall_congr' fun f => forall_congr' fun _ => ?_
  simp only [NamesOnly, SourceFile.classRefs]
  refine forall_congr' fun id => ?_
  simp only [Bool.and_eq_true, Bool.not_eq_true', List.contains_eq_mem, decide_eq_false_iff_not]
  grind

theorem SourceModule.closed_of_unresolved
    (hActual : ∀ id ∈ m.announcedClasses, id ∈ m.actualClasses) (h : m.unresolved S = []) :
    m.Closed S := by
  refine (SourceModule.unresolved_eq_nil.mp h).mono fun id hid => ?_
  rcases hid with hDeclared | hKnown
  · rcases SourceModule.mem_declaredClasses.mp hDeclared with hActual' | hAnnounced
    · exact .inl hActual'
    · exact .inl (hActual id hAnnounced)
  · exact .inr hKnown

theorem SourceModule.Closed.unresolved (h : m.Closed S) : m.unresolved S = [] := by
  refine SourceModule.unresolved_eq_nil.mpr (h.mono fun id hid => ?_)
  rcases hid with hActual | hKnown
  · exact .inl (SourceModule.mem_declaredClasses.mpr (.inl hActual))
  · exact .inr hKnown

theorem SourceModule.Closed.conserves (h : m.Closed S) (hConserves : Conserves m m') :
    m'.Closed S := by
  refine hConserves.named.mono fun id hid => ?_
  rcases hid with hNamed | hActual | hTrusted
  · rcases h id hNamed with hActual | hKnown
    · exact .inl (hConserves.declared id hActual)
    · exact .inr hKnown
  · exact .inl hActual
  · exact .inr (.inl hTrusted)

end Closed

section Placeholders

variable {S : SymbolSource} {m : SourceModule} {builtins : SymbolGraph}

/-- What replaces an identifier is in the package of a target. -/
theorem package_of_substitute? {mapping : List (ClassId × ClassId)} {id replaced : ClassId}
    (h : substitute? mapping id = some replaced) :
    ∃ pair ∈ mapping, replaced.package = pair.2.package := by
  obtain ⟨pair, hPair, hReplaced⟩ := List.exists_of_findSome?_eq_some h
  obtain ⟨rest, _, rfl⟩ := Option.map_eq_some_iff.mp hReplaced
  exact ⟨pair, hPair, rfl⟩

theorem substitute?_isSome {mapping : List (ClassId × ClassId)} {id : ClassId}
    {pair : ClassId × ClassId} (hPair : pair ∈ mapping) (h : (id.inside? pair.1).isSome) :
    (substitute? mapping id).isSome := by
  rw [substitute?, List.findSome?_isSome_iff]
  exact ⟨pair, hPair, by simpa using h⟩

/-- A class survives the removal of placeholders unless it is replaced. -/
theorem SourceModule.mem_actualClasses_withoutClasses {mapping : List (ClassId × ClassId)}
    {id : ClassId} (hNested : m.WellNested) (hid : id ∈ m.actualClasses)
    (h : substitute? mapping id = none) :
    id ∈ ({ m with files := m.files.map (·.withoutClasses (mapping.map (·.1))) } :
      SourceModule).actualClasses := by
  obtain ⟨f, hf, d, hd, hid⟩ := SourceModule.mem_actualClasses.mp hid
  refine SourceModule.mem_actualClasses.mpr
    ⟨_, List.mem_map_of_mem hf, d, List.mem_filter.mpr ⟨hd, ?_⟩, hid⟩
  cases d with
  | function | constructor | property | field => rfl
  | ofClass c =>
    -- a removed class would contain the identifier, which then had been replaced
    by_cases hRemoved : c.id ∈ mapping.map (·.1)
    · obtain ⟨pair, hPair, hKey⟩ := List.mem_map.mp hRemoved
      have hClass : c ∈ f.classes := List.mem_filterMap.mpr ⟨.ofClass c, hd, rfl⟩
      have hInside := (hNested f hf c hClass).inside c
        ((ClassDecl.mem_declaredClasses c).mpr (.inl hid))
      rw [← hKey] at hInside
      have hSome := substitute?_isSome hPair hInside
      simp [h] at hSome
    · simpa using hRemoved

theorem SourceModule.namesOnly_withoutClasses {P : ClassId → Prop} {ids : List ClassId}
    (h : NamesOnly P m.nodes) :
    NamesOnly P ({ m with files := m.files.map (·.withoutClasses ids) } : SourceModule).nodes := by
  rw [namesOnly_module] at h ⊢
  intro f' hf'
  obtain ⟨f, hf, rfl⟩ := List.mem_map.mp hf'
  refine namesOnly_file.mpr fun d hd => ?_
  exact namesOnly_file.mp (h f hf) d (List.mem_filter.mp hd).1

/-- Replacing placeholders keeps a module closed if the built-in classes are trusted. -/
theorem SourceModule.Closed.actualize (hNested : m.WellNested)
    (hBuiltins : ∀ id, builtins.contains id = true → isTrustedPackage id.package = true)
    (h : m.Closed S) : (m.actualize builtins).module.Closed S := by
  unfold SourceModule.actualize
  simp only
  split
  · exact h
  · refine SourceModule.namesOnly_mapClassIds.mpr ?_
    refine SourceModule.namesOnly_withoutClasses (h.mono fun id hid => ?_)
    simp only [Function.comp, Resolves, SourceModule.actualClasses_mapClassIds]
    cases hReplaced : substitute? _ id with
    | none =>
      rcases hid with hActual | hKnown
      · refine .inl (List.mem_map.mpr ⟨id, ?_, by simp [hReplaced]⟩)
        exact SourceModule.mem_actualClasses_withoutClasses hNested hActual hReplaced
      · exact .inr hKnown
    | some replaced =>
      obtain ⟨pair, hPair, hPackage⟩ := package_of_substitute? hReplaced
      have hTarget := hBuiltins pair.2 (List.mem_filter.mp hPair).2
      rw [← hPackage] at hTarget
      exact .inr (.inl hTarget)

end Placeholders

/-- If every reference of a module resolves, then every reference still does after its placeholders
were replaced and it was lowered. -/
theorem unresolved_lowered (S : SymbolSource) (m : SourceModule) (known : ClassId → Bool)
    (hNested : m.WellNested) (hActual : ∀ id ∈ m.announcedClasses, id ∈ m.actualClasses)
    (h : m.unresolved S = []) :
    let actualized := (m.actualize Builtins.graph).module
    (Pipeline.standard.run (.ofModule known actualized) actualized).module.unresolved S = [] := by
  intro actualized
  have hClosed : m.Closed S := SourceModule.closed_of_unresolved hActual h
  have hActualized : actualized.Closed S :=
    hClosed.actualize hNested fun _ => Builtins.isTrusted_of_contains
  exact (hActualized.conserves (Pipeline.conserves _ _ _)).unresolved

/-- A source that knows one class. -/
def librarySymbols : SymbolSource :=
  (SymbolGraph.ofInsertions [.ofClass { id := .inPackage "lib" "Text" }]).source

/-- An announced class with its actual one, a placeholder, and a member of a class of a library that
names all of them. -/
def boxModule : SourceModule :=
  let box : ClassId := .inPackage "app" "Box"
  let whole : ClassId := .inPackage "app" "Whole"
  let items : List Declaration := [.ofClass { id := box.nested "Item" }]
  { name := "app"
    files :=
      [{ name := "Box.kt"
         package := ⟨"app"⟩
         declarations :=
          [.ofClass { id := box, isExpect := true, declarations := items },
            .ofClass { id := box, declarations := items },
            .ofClass
              { id := whole
                annotations := [{ id := placeholderMark, arguments := [.string "kotlin.Int"] }] },
            .function
              { id := (ClassId.inPackage "lib" "Text").member "unpack"
                valueParameters := [{ name := "item", type := .ofClass (box.nested "Item") }]
                returnType := .ofClass whole }] }] }

theorem unresolved_lowered_box :
    boxModule.WellNested ∧ (∀ id ∈ boxModule.announcedClasses, id ∈ boxModule.actualClasses) ∧
      boxModule.unresolved librarySymbols = [] ∧
      let actualized := (boxModule.actualize Builtins.graph).module
      (Pipeline.standard.run (.ofModule librarySymbols.contains actualized)
        actualized).module.unresolved librarySymbols = [] := by
  have hNested : boxModule.WellNested := by decide
  have hActual : ∀ id ∈ boxModule.announcedClasses, id ∈ boxModule.actualClasses := by decide
  have hUnresolved : boxModule.unresolved librarySymbols = [] := by decide +kernel
  exact ⟨hNested, hActual, hUnresolved,
    unresolved_lowered librarySymbols boxModule _ hNested hActual hUnresolved⟩

end KotlinBackend
