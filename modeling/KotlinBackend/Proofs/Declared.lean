import KotlinBackend.Expected
import KotlinBackend.Placeholder
import KotlinBackend.Program.Revision

/-!
# Announced and actual classes

A class is announced if it is marked as expected or is inside of a class that is. The other classes
of a module are actual: revisions leave them alone, renamings rename them, and they are all that
is declared once the announced declarations are gone.
-/

namespace KotlinBackend

mutual

/-- The classes that a class declares, itself included, outside of announced classes. -/
def ClassDecl.actualClasses : ClassDecl → List ClassId
  | { id, isExpect, declarations, .. } =>
    if isExpect then [] else id :: Declaration.listActualClasses declarations

def Declaration.actualClasses : Declaration → List ClassId
  | .ofClass decl => decl.actualClasses
  | .function _ => []
  | .constructor _ => []
  | .property _ => []
  | .field _ => []

def Declaration.listActualClasses : List Declaration → List ClassId
  | [] => []
  | declaration :: rest => declaration.actualClasses ++ Declaration.listActualClasses rest

end

mutual

/-- The classes declared by an announced class or inside of one. -/
def ClassDecl.announcedClasses : ClassDecl → List ClassId
  | { id, isExpect, declarations, .. } =>
    if isExpect then id :: Declaration.listDeclaredClasses declarations
    else Declaration.listAnnouncedClasses declarations

def Declaration.announcedClasses : Declaration → List ClassId
  | .ofClass decl => decl.announcedClasses
  | .function _ => []
  | .constructor _ => []
  | .property _ => []
  | .field _ => []

def Declaration.listAnnouncedClasses : List Declaration → List ClassId
  | [] => []
  | declaration :: rest => declaration.announcedClasses ++ Declaration.listAnnouncedClasses rest

end

/-- The classes of a module that are neither announced nor inside of an announced class. -/
def SourceModule.actualClasses (m : SourceModule) : List ClassId :=
  m.files.flatMap fun f => Declaration.listActualClasses f.declarations

/-- The classes of a module that are announced or inside of an announced class. -/
def SourceModule.announcedClasses (m : SourceModule) : List ClassId :=
  m.files.flatMap fun f => Declaration.listAnnouncedClasses f.declarations

section Declared

variable {id : ClassId}

mutual

theorem ClassDecl.mem_declaredClasses (c : ClassDecl) :
    id ∈ c.declaredClasses ↔ id ∈ c.actualClasses ∨ id ∈ c.announcedClasses := by
  obtain ⟨cid, kind, modality, visibility, isLocal, isValue, isExpect, isExternal, isCompanion,
    typeParameters, supertypes, annotations, enumEntries, declarations, origin⟩ := c
  have ih := Declaration.mem_listDeclaredClasses declarations
  cases isExpect with
  | true => simp [ClassDecl.declaredClasses, ClassDecl.actualClasses, ClassDecl.announcedClasses]
  | false =>
    simp [ClassDecl.declaredClasses, ClassDecl.actualClasses, ClassDecl.announcedClasses, ih,
      or_assoc]

theorem Declaration.mem_declaredClasses (d : Declaration) :
    id ∈ d.declaredClasses ↔ id ∈ d.actualClasses ∨ id ∈ d.announcedClasses := by
  cases d with
  | ofClass decl => exact ClassDecl.mem_declaredClasses decl
  | function | constructor | property | field =>
    simp [Declaration.declaredClasses, Declaration.actualClasses, Declaration.announcedClasses]

theorem Declaration.mem_listDeclaredClasses (ds : List Declaration) :
    id ∈ Declaration.listDeclaredClasses ds ↔
      id ∈ Declaration.listActualClasses ds ∨ id ∈ Declaration.listAnnouncedClasses ds := by
  cases ds with
  | nil =>
    simp [Declaration.listDeclaredClasses, Declaration.listActualClasses,
      Declaration.listAnnouncedClasses]
  | cons d rest =>
    simp only [Declaration.listDeclaredClasses, Declaration.listActualClasses,
      Declaration.listAnnouncedClasses, List.mem_append, Declaration.mem_declaredClasses d,
      Declaration.mem_listDeclaredClasses rest]
    exact or_or_or_comm

end

theorem SourceModule.mem_declaredClasses {m : SourceModule} :
    id ∈ m.declaredClasses ↔ id ∈ m.actualClasses ∨ id ∈ m.announcedClasses := by
  simp only [SourceModule.declaredClasses, SourceModule.actualClasses,
    SourceModule.announcedClasses, List.mem_flatMap, Declaration.mem_listDeclaredClasses]
  constructor
  · rintro ⟨f, hf, h | h⟩
    · exact .inl ⟨f, hf, h⟩
    · exact .inr ⟨f, hf, h⟩
  · rintro (⟨f, hf, h⟩ | ⟨f, hf, h⟩)
    · exact ⟨f, hf, .inl h⟩
    · exact ⟨f, hf, .inr h⟩

end Declared

section Traversals

variable {step : Expression → Option Expression} {f : ClassId → ClassId}

mutual

theorem ClassDecl.actualClasses_revise (c : ClassDecl) :
    (c.revise step).value.actualClasses = c.actualClasses := by
  obtain ⟨cid, kind, modality, visibility, isLocal, isValue, isExpect, isExternal, isCompanion,
    typeParameters, supertypes, annotations, enumEntries, declarations, origin⟩ := c
  simp [ClassDecl.revise, ClassDecl.actualClasses,
    Declaration.listActualClasses_revise declarations]

theorem Declaration.actualClasses_revise (d : Declaration) :
    (d.revise step).value.actualClasses = d.actualClasses := by
  cases d with
  | ofClass decl => exact ClassDecl.actualClasses_revise decl
  | function | constructor | property | field => rfl

theorem Declaration.listActualClasses_revise (ds : List Declaration) :
    Declaration.listActualClasses (Declaration.reviseList step ds).value =
      Declaration.listActualClasses ds := by
  cases ds with
  | nil => rfl
  | cons d rest =>
    simp [Declaration.reviseList, Declaration.listActualClasses,
      Declaration.actualClasses_revise d, Declaration.listActualClasses_revise rest]

end

theorem SourceModule.actualClasses_revise (m : SourceModule) :
    (m.revise step).value.actualClasses = m.actualClasses := by
  simp [SourceModule.revise, SourceModule.actualClasses, SourceFile.revise, Tally.value_each,
    List.flatMap_map, Declaration.listActualClasses_revise]

mutual

theorem ClassDecl.actualClasses_mapClassIds (c : ClassDecl) :
    (c.mapClassIds f).actualClasses = c.actualClasses.map f := by
  obtain ⟨cid, kind, modality, visibility, isLocal, isValue, isExpect, isExternal, isCompanion,
    typeParameters, supertypes, annotations, enumEntries, declarations, origin⟩ := c
  cases isExpect <;>
    simp [ClassDecl.mapClassIds, ClassDecl.actualClasses,
      Declaration.listActualClasses_mapClassIds declarations]

theorem Declaration.actualClasses_mapClassIds (d : Declaration) :
    (d.mapClassIds f).actualClasses = d.actualClasses.map f := by
  cases d with
  | ofClass decl => exact ClassDecl.actualClasses_mapClassIds decl
  | function | constructor | property | field => rfl

theorem Declaration.listActualClasses_mapClassIds (ds : List Declaration) :
    Declaration.listActualClasses (Declaration.mapClassIdsList f ds) =
      (Declaration.listActualClasses ds).map f := by
  cases ds with
  | nil => rfl
  | cons d rest =>
    simp [Declaration.mapClassIdsList, Declaration.listActualClasses,
      Declaration.actualClasses_mapClassIds d, Declaration.listActualClasses_mapClassIds rest]

end

theorem SourceModule.actualClasses_mapClassIds (m : SourceModule) :
    (m.mapClassIds f).actualClasses = m.actualClasses.map f := by
  simp [SourceModule.mapClassIds, SourceModule.actualClasses, SourceFile.mapClassIds,
    List.flatMap_map, List.map_flatMap, Declaration.listActualClasses_mapClassIds]

theorem ClassDecl.actualClasses_of_isExpect {c : ClassDecl} (h : c.isExpect = true) :
    c.actualClasses = [] := by
  obtain ⟨cid, kind, modality, visibility, isLocal, isValue, isExpect, isExternal, isCompanion,
    typeParameters, supertypes, annotations, enumEntries, declarations, origin⟩ := c
  simp only at h
  simp [ClassDecl.actualClasses, h]

theorem Declaration.actualClasses_of_isExpect {d : Declaration} (h : d.isExpect = true) :
    d.actualClasses = [] := by
  cases d with
  | ofClass decl => exact ClassDecl.actualClasses_of_isExpect h
  | function | constructor | property | field => rfl

mutual

theorem ClassDecl.actualClasses_withoutExpected (c : ClassDecl) :
    c.withoutExpected.value.actualClasses = c.actualClasses := by
  obtain ⟨cid, kind, modality, visibility, isLocal, isValue, isExpect, isExternal, isCompanion,
    typeParameters, supertypes, annotations, enumEntries, declarations, origin⟩ := c
  simp [ClassDecl.withoutExpected, ClassDecl.actualClasses,
    Declaration.listActualClasses_withoutExpected declarations]

theorem Declaration.actualClasses_withoutExpected (d : Declaration) :
    d.withoutExpected.value.actualClasses = d.actualClasses := by
  cases d with
  | ofClass decl => exact ClassDecl.actualClasses_withoutExpected decl
  | function | constructor | property | field => rfl

theorem Declaration.listActualClasses_withoutExpected (ds : List Declaration) :
    Declaration.listActualClasses (Declaration.withoutExpectedList ds).value =
      Declaration.listActualClasses ds := by
  cases ds with
  | nil => rfl
  | cons d rest =>
    have ih := Declaration.listActualClasses_withoutExpected rest
    by_cases h : d.isExpect
    · simp [Declaration.withoutExpectedList, Declaration.listActualClasses, h, ih,
        Declaration.actualClasses_of_isExpect h]
    · simp [Declaration.withoutExpectedList, Declaration.listActualClasses, h, ih,
        Declaration.actualClasses_withoutExpected d]

end

theorem actualClasses_stripExpected (m : SourceModule) :
    (stripExpected m).value.actualClasses = m.actualClasses := by
  simp [stripExpected, SourceModule.actualClasses, SourceFile.withoutExpected, Tally.value_each,
    List.flatMap_map, Declaration.listActualClasses_withoutExpected]

end Traversals

/-- One class is inside of another: in the same package, with further names. -/
def ClassId.Extends (inner outer : ClassId) : Prop :=
  inner.package = outer.package ∧ outer.names <+: inner.names ∧
    outer.names.length < inner.names.length

mutual

/-- The identifiers of the classes nested in a class, at any depth, say so. -/
def ClassDecl.WellNested : ClassDecl → Prop
  | { id, declarations, .. } => Declaration.ListNestedIn id declarations

def Declaration.NestedIn (outer : ClassId) : Declaration → Prop
  | .ofClass decl => decl.id.Extends outer ∧ decl.WellNested
  | .function _ => True
  | .constructor _ => True
  | .property _ => True
  | .field _ => True

def Declaration.ListNestedIn (outer : ClassId) : List Declaration → Prop
  | [] => True
  | declaration :: rest => declaration.NestedIn outer ∧ Declaration.ListNestedIn outer rest

end

def SourceModule.WellNested (m : SourceModule) : Prop :=
  ∀ f ∈ m.files, ∀ c ∈ f.classes, c.WellNested

instance (inner outer : ClassId) : Decidable (inner.Extends outer) :=
  inferInstanceAs (Decidable (_ ∧ _ ∧ _))

mutual

def ClassDecl.decideWellNested : (c : ClassDecl) → Decidable c.WellNested
  | { id, declarations, .. } => Declaration.decideListNestedIn id declarations

def Declaration.decideNestedIn (outer : ClassId) : (d : Declaration) → Decidable (d.NestedIn outer)
  | .ofClass decl =>
    have := decl.decideWellNested
    inferInstanceAs (Decidable (decl.id.Extends outer ∧ decl.WellNested))
  | .function _ => .isTrue trivial
  | .constructor _ => .isTrue trivial
  | .property _ => .isTrue trivial
  | .field _ => .isTrue trivial

def Declaration.decideListNestedIn (outer : ClassId) :
    (ds : List Declaration) → Decidable (Declaration.ListNestedIn outer ds)
  | [] => .isTrue trivial
  | declaration :: rest =>
    have := declaration.decideNestedIn outer
    have := Declaration.decideListNestedIn outer rest
    inferInstanceAs
      (Decidable (declaration.NestedIn outer ∧ Declaration.ListNestedIn outer rest))

end

instance : DecidablePred ClassDecl.WellNested := ClassDecl.decideWellNested

instance : DecidablePred SourceModule.WellNested := fun m =>
  inferInstanceAs (Decidable (∀ f ∈ m.files, ∀ c ∈ f.classes, c.WellNested))

/-- What follows the names of the outer class exists exactly when the names are there. -/
theorem ClassId.inside?_isSome {id outer : ClassId} :
    (id.inside? outer).isSome ↔ id.package = outer.package ∧ outer.names <+: id.names := by
  unfold ClassId.inside?
  split <;> simp_all

theorem ClassId.inside?_trans {id middle outer : ClassId} (h : (id.inside? middle).isSome)
    (h' : middle.Extends outer) : (id.inside? outer).isSome := by
  rw [ClassId.inside?_isSome] at h ⊢
  exact ⟨h.1.trans h'.1, h'.2.1.trans h.2⟩

mutual

theorem ClassDecl.WellNested.inside {id : ClassId} (c : ClassDecl) (h : c.WellNested)
    (hid : id ∈ c.declaredClasses) : (id.inside? c.id).isSome := by
  obtain ⟨cid, kind, modality, visibility, isLocal, isValue, isExpect, isExternal, isCompanion,
    typeParameters, supertypes, annotations, enumEntries, declarations, origin⟩ := c
  simp only [ClassDecl.declaredClasses, List.mem_cons] at hid
  simp only [ClassDecl.WellNested] at h
  rcases hid with rfl | hid
  · exact ClassId.inside?_isSome.mpr ⟨rfl, List.prefix_refl _⟩
  · exact Declaration.ListNestedIn.inside cid declarations h hid

theorem Declaration.NestedIn.inside {id : ClassId} (outer : ClassId) (d : Declaration)
    (h : d.NestedIn outer) (hid : id ∈ d.declaredClasses) : (id.inside? outer).isSome := by
  cases d with
  | ofClass decl =>
    simp only [Declaration.NestedIn] at h
    exact ClassId.inside?_trans (ClassDecl.WellNested.inside decl h.2 hid) h.1
  | function | constructor | property | field => simp [Declaration.declaredClasses] at hid

theorem Declaration.ListNestedIn.inside {id : ClassId} (outer : ClassId) (ds : List Declaration)
    (h : Declaration.ListNestedIn outer ds) (hid : id ∈ Declaration.listDeclaredClasses ds) :
    (id.inside? outer).isSome := by
  cases ds with
  | nil => simp [Declaration.listDeclaredClasses] at hid
  | cons d rest =>
    simp only [Declaration.ListNestedIn] at h
    simp only [Declaration.listDeclaredClasses, List.mem_append] at hid
    rcases hid with hid | hid
    · exact Declaration.NestedIn.inside outer d h.1 hid
    · exact Declaration.ListNestedIn.inside outer rest h.2 hid

end

end KotlinBackend
