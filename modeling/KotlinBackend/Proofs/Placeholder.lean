import KotlinBackend.Placeholder
import KotlinBackend.Proofs.Declared
import KotlinBackend.Proofs.Mention.Renamed
import Mathlib.Data.List.Forall2

/-!
# Replacing placeholders is a substitution

A module whose placeholders were replaced sheds the placeholder classes: in each file exactly these
classes are gone and the other declarations are left in their order. In what is left every class
that is named is replaced by the rules of `Replaces`: the first placeholder that a class is, or is
inside of, gives way to its target, and a class that is in none stays. The report counts the places
at which there was such a placeholder.
-/

namespace KotlinBackend

/-- A class is another one or is nested in it. -/
def ClassId.IsWithin (id outer : ClassId) : Prop :=
  id.package = outer.package ∧ outer.names <+: id.names

instance (id outer : ClassId) : Decidable (id.IsWithin outer) :=
  inferInstanceAs (Decidable (id.package = outer.package ∧ outer.names <+: id.names))

/-- What a class becomes when the placeholders of a list, each with its target, are replaced. -/
inductive Replaces : List (ClassId × ClassId) → ClassId → ClassId → Prop
  | here (placeholder target : ClassId) (rest : List (ClassId × ClassId)) (inner : List String) :
    Replaces ((placeholder, target) :: rest)
      { placeholder with names := placeholder.names ++ inner }
      { target with names := target.names ++ inner }
  | later {placeholder : ClassId} {rest : List (ClassId × ClassId)} {id id' : ClassId}
      (target : ClassId) : ¬ id.IsWithin placeholder → Replaces rest id id' →
    Replaces ((placeholder, target) :: rest) id id'
  | unmatched (id : ClassId) : Replaces [] id id

section Substitution

variable {mapping : List (ClassId × ClassId)} {id id' : ClassId}

theorem ClassId.isWithin_iff {outer : ClassId} :
    id.IsWithin outer ↔ ∃ inner, id = { outer with names := outer.names ++ inner } := by
  obtain ⟨package, names⟩ := id
  constructor
  · rintro ⟨rfl, inner, rfl⟩
    exact ⟨inner, rfl⟩
  · rintro ⟨inner, h⟩
    cases h
    exact ⟨rfl, List.prefix_append _ _⟩

theorem substitute?_cons_within (placeholder target : ClassId) (rest : List (ClassId × ClassId))
    (inner : List String) :
    substitute? ((placeholder, target) :: rest)
        { placeholder with names := placeholder.names ++ inner } =
      some { target with names := target.names ++ inner } := by
  simp [substitute?, ClassId.inside?]

theorem substitute?_cons_of_not {placeholder : ClassId} (target : ClassId)
    (h : ¬ id.IsWithin placeholder) :
    substitute? ((placeholder, target) :: mapping) id = substitute? mapping id := by
  have hInside : id.inside? placeholder = none := if_neg h
  simp [substitute?, hInside]

theorem replaces_iff : Replaces mapping id id' ↔ id' = (substitute? mapping id).getD id := by
  induction mapping with
  | nil =>
    constructor
    · rintro ⟨⟩
      rfl
    · rintro rfl
      exact .unmatched _
  | cons pair rest ih =>
    obtain ⟨placeholder, target⟩ := pair
    by_cases hWithin : id.IsWithin placeholder
    · obtain ⟨inner, rfl⟩ := ClassId.isWithin_iff.mp hWithin
      rw [substitute?_cons_within, Option.getD_some]
      constructor
      · intro h
        generalize hId : ({ placeholder with names := placeholder.names ++ inner } : ClassId) = id
          at h
        cases h with
        | here _ _ _ inner' =>
          have hInner : inner = inner' := List.append_cancel_left (congrArg ClassId.names hId)
          rw [hInner]
        | later _ hNot _ => exact absurd hWithin (hId ▸ hNot)
      · rintro rfl
        exact .here placeholder target rest inner
    · rw [substitute?_cons_of_not target hWithin, ← ih]
      constructor
      · intro h
        cases h with
        | here _ _ _ inner => exact absurd (ClassId.isWithin_iff.mpr ⟨inner, rfl⟩) hWithin
        | later _ _ h => exact h
      · exact .later target hWithin

theorem substitute?_isSome_iff :
    (substitute? mapping id).isSome ↔ ∃ pair ∈ mapping, id.IsWithin pair.1 := by
  rw [substitute?, List.findSome?_isSome_iff]
  simp only [Option.isSome_map, ClassId.inside?_isSome]
  exact Iff.rfl

theorem replaces_eq_isImage (mapping : List (ClassId × ClassId)) :
    Replaces mapping = IsImage fun id => (substitute? mapping id).getD id := by
  funext id id'
  exact propext replaces_iff

theorem Replaces.eq_of_not_within (h : ∀ pair ∈ mapping, ¬ id.IsWithin pair.1)
    (hReplaces : Replaces mapping id id') : id' = id := by
  induction hReplaces with
  | here placeholder target rest inner =>
    exact absurd (ClassId.isWithin_iff.mpr ⟨inner, rfl⟩) (h _ List.mem_cons_self)
  | later _ _ _ ih => exact ih fun pair hPair => h pair (List.mem_cons_of_mem _ hPair)
  | unmatched => rfl

end Substitution

/-- The classes of some identifiers are gone from a list of declarations, and everything else is
left in its order. -/
inductive Declaration.Sheds (ids : List ClassId) : List Declaration → List Declaration → Prop
  | nil : Sheds ids [] []
  | gone {c : ClassDecl} {rest left : List Declaration} :
    c.id ∈ ids → Sheds ids rest left → Sheds ids (.ofClass c :: rest) left
  | kept {d : Declaration} {rest left : List Declaration} :
    (∀ c, d = .ofClass c → c.id ∉ ids) → Sheds ids rest left → Sheds ids (d :: rest) (d :: left)

inductive SourceFile.Sheds (ids : List ClassId) (f : SourceFile) : SourceFile → Prop
  | mk {left : List Declaration} :
    Declaration.Sheds ids f.declarations left → f.Sheds ids { f with declarations := left }

inductive SourceModule.Sheds (ids : List ClassId) (m : SourceModule) : SourceModule → Prop
  | mk {left : List SourceFile} :
    List.Forall₂ (SourceFile.Sheds ids) m.files left → m.Sheds ids { m with files := left }

section Shedding

variable {ids : List ClassId} {m rest : SourceModule} {f left : SourceFile} {c : ClassDecl}

theorem Declaration.Sheds.id_not_mem {ds ds' : List Declaration} (h : Declaration.Sheds ids ds ds')
    (hc : .ofClass c ∈ ds') : c.id ∉ ids := by
  induction h with
  | nil => cases hc
  | gone _ _ ih => exact ih hc
  | kept hOther _ ih =>
    rcases List.mem_cons.mp hc with hSame | hc
    · exact hOther c hSame.symm
    · exact ih hc

theorem Declaration.Sheds.mem {ds ds' : List Declaration} (h : Declaration.Sheds ids ds ds')
    (hc : .ofClass c ∈ ds) (hOther : c.id ∉ ids) : .ofClass c ∈ ds' := by
  induction h with
  | nil => cases hc
  | gone hGone _ ih =>
    rcases List.mem_cons.mp hc with hSame | hc
    · cases hSame
      exact absurd hGone hOther
    · exact ih hc
  | kept _ _ ih =>
    rcases List.mem_cons.mp hc with rfl | hc
    · exact List.mem_cons_self
    · exact List.mem_cons_of_mem _ (ih hc)

/-- No file has a class left of the identifiers that are gone. -/
theorem SourceModule.Sheds.id_not_mem (h : m.Sheds ids rest) (hLeft : left ∈ rest.files)
    (hc : c ∈ left.classes) : c.id ∉ ids := by
  obtain ⟨hFiles⟩ := h
  simp only at hLeft
  generalize m.files = files at hFiles
  induction hFiles with
  | nil => cases hLeft
  | cons hFile _ ih =>
    rcases List.mem_cons.mp hLeft with rfl | hLeft
    · obtain ⟨hDeclarations⟩ := hFile
      exact hDeclarations.id_not_mem (SourceFile.mem_classes.mp hc)
    · exact ih hLeft

theorem SourceFile.sheds_declarations (f : SourceFile) (ids : List ClassId) :
    Declaration.Sheds ids f.declarations (f.withoutClasses ids).declarations := by
  unfold SourceFile.withoutClasses
  simp only
  induction f.declarations with
  | nil => exact .nil
  | cons d rest ih =>
    cases d with
    | ofClass c =>
      by_cases hGone : c.id ∈ ids
      · rw [List.filter_cons_of_neg (by simpa using hGone)]
        exact .gone hGone ih
      · rw [List.filter_cons_of_pos (by simpa using hGone)]
        refine .kept ?_ ih
        rintro _ ⟨⟩
        exact hGone
    | function | constructor | property | field =>
      refine .kept ?_ ih
      rintro _ ⟨⟩

theorem SourceModule.sheds_withoutClasses (m : SourceModule) (ids : List ClassId) :
    m.Sheds ids { m with files := m.files.map (·.withoutClasses ids) } := by
  refine .mk (List.forall₂_map_right_iff.mpr (List.forall₂_same.mpr ?_))
  intro f _
  exact .mk (f.sheds_declarations ids)

end Shedding

section Classes

variable {R : ClassId → ClassId → Prop} {named : List ClassId}

theorem RenamedEach.exists_mem {α : Type} {r : α → α → List ClassId → Prop} {as as' : List α}
    (h : RenamedEach r as as' named) {a : α} (ha : a ∈ as) : ∃ a' ∈ as', ∃ ids, r a a' ids := by
  induction h with
  | nil => cases ha
  | cons hFirst _ ih =>
    rcases List.mem_cons.mp ha with rfl | ha
    · exact ⟨_, List.mem_cons_self, _, hFirst⟩
    · obtain ⟨a', ha', hRenamed⟩ := ih ha
      exact ⟨a', List.mem_cons_of_mem _ ha', hRenamed⟩

theorem SourceModule.Renamed.exists_class {m m' : SourceModule} (h : m.Renamed R m' named)
    {file : SourceFile} (hFile : file ∈ m.files) {c : ClassDecl} (hc : c ∈ file.classes) :
    ∃ file' ∈ m'.files, file'.name = file.name ∧
      ∃ c' ∈ file'.classes, ∃ ids, c.Renamed R c' ids := by
  obtain ⟨hFiles⟩ := h
  obtain ⟨file', hFile', _, hRenamed⟩ := hFiles.exists_mem hFile
  obtain ⟨hDeclarations⟩ := hRenamed
  obtain ⟨d, hd, hClass⟩ := List.mem_filterMap.mp hc
  obtain ⟨d', hd', ids, hDeclaration⟩ := hDeclarations.exists_mem hd
  refine ⟨_, hFile', rfl, ?_⟩
  cases hDeclaration with
  | ofClass hDecl =>
    cases hClass
    exact ⟨_, List.mem_filterMap.mpr ⟨_, hd', rfl⟩, ids, hDecl⟩
  | function | constructor | property | field => cases hClass

theorem ClassDecl.Renamed.id {c c' : ClassDecl} (h : c.Renamed R c' named) : R c.id c'.id := by
  obtain ⟨hId⟩ := h
  exact hId

end Classes

section Result

variable (m : SourceModule) (builtins : SymbolGraph)

theorem SourceModule.actualize_actualized :
    (m.actualize builtins).actualized =
      m.placeholders.filter fun pair => builtins.contains pair.2 := by
  unfold SourceModule.actualize
  simp only
  split <;> rfl

theorem SourceModule.actualize_unknown :
    (m.actualize builtins).unknown =
      (m.placeholders.filter fun pair => !builtins.contains pair.2).map (·.1) := by
  unfold SourceModule.actualize
  simp only
  split <;> rfl

variable {m builtins}

theorem SourceModule.actualize_of_nil (h : (m.actualize builtins).actualized = []) :
    (m.actualize builtins).module = m ∧ (m.actualize builtins).substituted = 0 := by
  rw [SourceModule.actualize_actualized] at h
  unfold SourceModule.actualize
  simp only
  rw [h]
  exact ⟨rfl, rfl⟩

theorem SourceModule.actualize_of_ne_nil {mapping : List (ClassId × ClassId)}
    (hMapping : (m.actualize builtins).actualized = mapping) (h : mapping ≠ []) :
    let rest : SourceModule :=
      { m with files := m.files.map (·.withoutClasses (mapping.map (·.1))) }
    (m.actualize builtins).module =
        rest.mapClassIds (fun id => (substitute? mapping id).getD id) ∧
      (m.actualize builtins).substituted =
        (namedIn rest.nodes).countP fun id => (substitute? mapping id).isSome := by
  rw [SourceModule.actualize_actualized] at hMapping
  unfold SourceModule.actualize
  simp only
  rw [hMapping, if_neg (by simpa using h)]
  exact ⟨rfl, rfl⟩

end Result

/-- Replacing the placeholders of a module. The report has those that have a built-in class, in
order, and those that have none. Without any of the former nothing changes. With some, their classes
are gone from the files, which have everything else left in its order, and the classes named in what
is left are replaced, at as many places as counted; any other class of a file stays if it is in none
of these placeholders, among them the other placeholders. -/
theorem SourceModule.actualize_substitutes (m : SourceModule) (builtins : SymbolGraph) :
    let result := m.actualize builtins
    let placeholders := result.actualized.map (·.1)
    (result.actualized = m.placeholders.filter fun pair => builtins.contains pair.2) ∧
    (result.unknown = (m.placeholders.filter fun pair => !builtins.contains pair.2).map (·.1)) ∧
    (result.actualized = [] → result.module = m ∧ result.substituted = 0) ∧
    (result.actualized ≠ [] →
      (∃ rest, m.Sheds placeholders rest ∧
        (∀ file ∈ rest.files, ∀ c ∈ file.classes, c.id ∉ placeholders) ∧
        ∃ named,
          OnlyRenaming (SourceModule.Renamed (Replaces result.actualized)) rest result.module
            named ∧
          result.substituted =
            named.countP fun id => ∃ pair ∈ result.actualized, id.IsWithin pair.1) ∧
      ∀ file ∈ m.files, ∀ c ∈ file.classes,
        (∀ pair ∈ result.actualized, ¬ c.id.IsWithin pair.1) →
        ∃ file' ∈ result.module.files, file'.name = file.name ∧ ∃ c' ∈ file'.classes,
          c'.id = c.id ∧ ∃ ids, c.Renamed (Replaces result.actualized) c' ids) := by
  intro result placeholders
  refine ⟨m.actualize_actualized builtins, m.actualize_unknown builtins,
    SourceModule.actualize_of_nil, ?_⟩
  intro hSome
  obtain ⟨hModule, hSubstituted⟩ := SourceModule.actualize_of_ne_nil rfl hSome
  let rest : SourceModule := { m with files := m.files.map (·.withoutClasses placeholders) }
  have hSheds : m.Sheds placeholders rest := m.sheds_withoutClasses placeholders
  have hOnly : OnlyRenaming (SourceModule.Renamed (Replaces result.actualized)) rest
      result.module (namedIn rest.nodes) := by
    rw [replaces_eq_isImage, hModule]
    exact rest.onlyRenaming
  refine ⟨⟨rest, hSheds, fun _ hFile _ hc => hSheds.id_not_mem hFile hc, namedIn rest.nodes, hOnly,
    ?_⟩, ?_⟩
  · rw [hSubstituted]
    refine List.countP_congr fun id _ => ?_
    rw [substitute?_isSome_iff, decide_eq_true_iff]
  · intro file hFile c hc hNot
    have hOther : c.id ∉ placeholders := by
      intro hGone
      obtain ⟨pair, hPair, hId⟩ := List.mem_map.mp hGone
      have hOutside := hNot pair hPair
      rw [hId] at hOutside
      exact hOutside ⟨rfl, List.prefix_refl _⟩
    have hStays : c ∈ (file.withoutClasses placeholders).classes :=
      SourceFile.mem_classes.mpr ((file.sheds_declarations placeholders).mem
        (SourceFile.mem_classes.mp hc) hOther)
    obtain ⟨file', hFile', hName, c', hc', ids, hRenamed⟩ :=
      hOnly.holds.exists_class (List.mem_map_of_mem hFile) hStays
    exact ⟨file', hFile', hName, c', hc', hRenamed.id.eq_of_not_within hNot, ids, hRenamed⟩

end KotlinBackend
