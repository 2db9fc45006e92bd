import KotlinBackend.Output.Declaration
import KotlinBackend.Proofs.ClassTree

/-!
# Where classes are written

A reference to a class writes its identifier, while the class is written inside the classes around
it. `Code.declared` reads off an output tree which declarations it has, each with the declarations
around it; these are the classes of `SourceFile.written`. The two ways to name a class agree unless
the class is in a companion, whose members are written in the class around it, or is the class of
arrays.
-/

namespace KotlinBackend.Output

mutual

/-- The declarations of an output tree, each as its header behind the headers around it. Only they
have a body in paragraphs. -/
def Code.declared : Code → List (List Code)
  | .block header [.list items .paragraphs] =>
    [header] :: (Code.listDeclared items).map (header :: ·)
  | .list items .paragraphs => Code.listDeclared items
  | _ => []

def Code.listDeclared : List Code → List (List Code)
  | [] => []
  | code :: rest => code.declared ++ Code.listDeclared rest

end

def Code.isParagraphs : Code → Bool
  | .list _ .paragraphs => true
  | _ => false

theorem declared_block {header : Code} {body : List Code}
    (h : ∀ code ∈ body, code.isParagraphs = false) : (Code.block header body).declared = [] := by
  unfold Code.declared
  split
  · rename_i hBody
    cases hBody
    cases h _ List.mem_cons_self
  · rename_i hBlock
    cases hBlock
  · rfl

section Members

variable (g : Context) (scope : Scope) (owner : ClassDecl) (inCompanion : Bool)

theorem isParagraphs_whenStatementCode (branches : List BranchParts) :
    (whenStatementCode branches).value.isParagraphs = false := by
  cases branches with
  | nil => rfl
  | cons branch rest =>
    simp only [whenStatementCode, branchChain, Tally.value_bind, Tally.value_pure]
    split <;> rfl

theorem isParagraphs_returnCode (e : Expression) (code : Tally Code) :
    (returnCode e code).value.isParagraphs = false := by
  unfold returnCode
  split
  · split <;> rfl
  · rfl

theorem isParagraphs_statementCode (s : Statement) :
    (statementCode g scope s).value.isParagraphs = false := by
  cases s with
  | evaluate e =>
    cases e with
    | «when» branches type => exact isParagraphs_whenStatementCode _
    | _ => rfl
  | declare name type initializer isVariable => cases initializer <;> rfl
  | returns value =>
    cases value with
    | none => rfl
    | some e => exact isParagraphs_returnCode e _
  | assign | assignField | conditional | loop | throws => rfl

theorem isParagraphs_statementCodes (ss : List Statement) :
    ∀ code ∈ (statementCodes g scope ss).value, code.isParagraphs = false := by
  induction ss with
  | nil => exact List.forall_mem_nil _
  | cons s rest ih =>
    simp only [statementCodes, Tally.value_bind, Tally.value_pure, List.forall_mem_cons]
    exact ⟨isParagraphs_statementCode g scope s, ih⟩

theorem declared_functionCode (d : FunctionDecl) :
    (functionCode g owner inCompanion d).value.declared = [] := by
  unfold functionCode
  split
  · exact declared_block (isParagraphs_statementCodes g _ _)
  · split
    · rfl
    · refine declared_block ?_
      unfold defaultBody
      split
      · exact List.forall_mem_nil _
      · exact List.forall_mem_singleton.mpr rfl

theorem declared_constructorLikeCode (parameters : List ValueParameter) (visibility : Visibility)
    (delegation : List Code) (body : Option (List Statement)) :
    (constructorLikeCode g owner parameters visibility delegation body).value.declared = [] :=
  declared_block (isParagraphs_statementCodes g _ _)

theorem declared_computedPropertyCode (header : Code) (getter : List Statement)
    (setter : Option (List Statement)) :
    (computedPropertyCode g scope header getter setter).value.declared = [] := by
  cases setter with
  | some body => rfl
  | none =>
    simp only [computedPropertyCode, Tally.value_bind]
    split <;> rfl

theorem declared_propertyCode (d : PropertyDecl) :
    (propertyCode g owner inCompanion d).value.declared = [] := by
  unfold propertyCode
  simp only
  split
  · rfl
  · split
    · rfl
    · exact declared_computedPropertyCode g _ _ _ _

theorem declared_fieldCode (d : FieldDecl) :
    (fieldCode g owner inCompanion d).value.declared = [] := by
  unfold fieldCode
  simp only
  split <;> rfl

end Members

theorem listDeclared_append (codes codes' : List Code) :
    Code.listDeclared (codes ++ codes') =
      Code.listDeclared codes ++ Code.listDeclared codes' := by
  induction codes with
  | nil => rfl
  | cons code rest ih => simp only [List.cons_append, Code.listDeclared, ih, List.append_assoc]

theorem listDeclared_instanceCodes (c : ClassDecl) : Code.listDeclared (instanceCodes c) = [] := by
  unfold instanceCodes
  split <;> rfl

theorem listDeclared_enumCodes (c : ClassDecl) :
    Code.listDeclared (enumCodes c).value = [] := by
  have hMarks (extra : List Declaration) :
      Code.listDeclared (Tally.each (fun _ => Code.mark "ENUM_MEMBER") extra).value = [] := by
    induction extra with
    | nil => rfl
    | cons d rest ih => exact ih
  simp only [enumCodes, Tally.value_bind, Tally.value_pure, listDeclared_append, hMarks]
  split <;> rfl

end KotlinBackend.Output

namespace KotlinBackend

open Output

/-- A class that is written as a class. -/
structure WrittenClass where
  /-- The classes around it in the source, outermost first. -/
  enclosing : List ClassDecl
  decl : ClassDecl

namespace WrittenClass

def inside (outer : ClassDecl) (w : WrittenClass) : WrittenClass :=
  { w with enclosing := outer :: w.enclosing }

/-- The class behind the classes that it is written in, when it is a member of a class. The members
of a companion are written in the class around the companion. -/
def memberPath (w : WrittenClass) : List ClassDecl :=
  w.enclosing.filter (!·.isCompanion) ++ [w.decl]

/-- The class behind the classes that it is written in. A class of a file is always one of them. -/
def path : WrittenClass → List ClassDecl
  | ⟨[], decl⟩ => [decl]
  | ⟨first :: inner, decl⟩ => first :: memberPath ⟨inner, decl⟩

theorem path_inside (outer : ClassDecl) (w : WrittenClass) :
    (w.inside outer).path = outer :: w.memberPath := rfl

end WrittenClass

mutual

/-- The classes that are written for the members of a class. -/
def ClassDecl.writtenInside : ClassDecl → List WrittenClass
  | decl@{ declarations, .. } => (Declaration.listWritten declarations).map (.inside decl)

/-- A class and the classes in it that are written. An enumeration has no members. -/
def ClassDecl.written : ClassDecl → List WrittenClass
  | decl@{ declarations, .. } =>
    ⟨[], decl⟩ :: if decl.kind = .enumeration then []
      else (Declaration.listWritten declarations).map (.inside decl)

def Declaration.written : Declaration → List WrittenClass
  | .ofClass decl => if decl.isCompanion then decl.writtenInside else decl.written
  | .function _ => []
  | .constructor _ => []
  | .property _ => []
  | .field _ => []

def Declaration.listWritten : List Declaration → List WrittenClass
  | [] => []
  | declaration :: rest =>
    (if isEmitted declaration then declaration.written else []) ++ Declaration.listWritten rest

end

def SourceFile.written (f : SourceFile) : List WrittenClass := f.classes.flatMap ClassDecl.written

/-- The headers of a class and of the classes that lead from it to another. -/
def pathHeaders (nested : Bool) : List ClassDecl → List Code
  | [] => []
  | first :: inner => classHeader nested first :: inner.map (classHeader true)

theorem WrittenClass.memberPath_inside_companion {outer : ClassDecl} (w : WrittenClass)
    (h : outer.isCompanion = true) : (w.inside outer).memberPath = w.memberPath := by
  simp [WrittenClass.memberPath, WrittenClass.inside, h]

theorem ClassDecl.memberPath_written {c : ClassDecl} (h : c.isCompanion = false) :
    ∀ w ∈ c.written, w.memberPath = w.path := by
  cases c
  simp only [ClassDecl.written, List.forall_mem_cons]
  refine ⟨rfl, ?_⟩
  split
  · exact List.forall_mem_nil _
  · intro w hw
    obtain ⟨inner, -, rfl⟩ := List.mem_map.mp hw
    rw [WrittenClass.path_inside]
    simp [WrittenClass.memberPath, WrittenClass.inside] at h ⊢
    simp [h]

section Reading

variable (g : Context)

theorem value_classCode (nested : Bool) (c : ClassDecl) :
    (classCode g nested c).value =
      .block (classHeader nested c) [.paragraphs (instanceCodes c ++
        if c.kind = .enumeration then (enumCodes c).value
        else (memberCodes g c false c.declarations).value)] := by
  cases c
  rw [classCode]
  split <;> rfl

theorem value_memberCodes_cons (owner : ClassDecl) (inCompanion : Bool) (d : Declaration)
    (rest : List Declaration) :
    (memberCodes g owner inCompanion (d :: rest)).value =
      (if isEmitted d then (declarationCodes g owner inCompanion d).value else []) ++
        (memberCodes g owner inCompanion rest).value := by
  rw [memberCodes]
  split <;> rfl

theorem pathHeaders_true (path : List ClassDecl) :
    pathHeaders true path = path.map (classHeader true) := by
  cases path <;> rfl

theorem listDeclared_singleton (code : Code) : Code.listDeclared [code] = code.declared := by
  rw [Code.listDeclared, Code.listDeclared, List.append_nil]

mutual

theorem ClassDecl.declared_classCode (nested : Bool) (c : ClassDecl) :
    (classCode g nested c).value.declared = c.written.map fun w => pathHeaders nested w.path := by
  obtain ⟨id, kind, modality, visibility, isLocal, isValue, isExpect, isExternal, isCompanion,
    typeParameters, supertypes, annotations, enumEntries, declarations, origin⟩ := c
  have hMembers := fun owner => Declaration.listDeclared_memberCodes owner false declarations
  rw [value_classCode, Code.paragraphs, Code.declared, listDeclared_append,
    listDeclared_instanceCodes, List.nil_append, ClassDecl.written, List.map_cons]
  congr 1
  split
  · rw [listDeclared_enumCodes]
    rfl
  · rw [hMembers, List.map_map, List.map_map]
    rfl

theorem ClassDecl.listDeclared_companionCodes (c : ClassDecl) (h : c.isCompanion = true) :
    Code.listDeclared (companionCodes g c).value =
      c.writtenInside.map fun w => w.memberPath.map (classHeader true) := by
  obtain ⟨id, kind, modality, visibility, isLocal, isValue, isExpect, isExternal, isCompanion,
    typeParameters, supertypes, annotations, enumEntries, declarations, origin⟩ := c
  rw [companionCodes, Declaration.listDeclared_memberCodes _ true declarations,
    ClassDecl.writtenInside, List.map_map]
  refine List.map_congr_left fun w _ => ?_
  rw [Function.comp, WrittenClass.memberPath_inside_companion w h]

theorem Declaration.listDeclared_declarationCodes (owner : ClassDecl) (inCompanion : Bool)
    (d : Declaration) :
    Code.listDeclared (declarationCodes g owner inCompanion d).value =
      d.written.map fun w => w.memberPath.map (classHeader true) := by
  cases d with
  | ofClass decl =>
    rw [declarationCodes, Declaration.written]
    split
    · rename_i hCompanion
      exact ClassDecl.listDeclared_companionCodes decl hCompanion
    · rename_i hCompanion
      have hClass := ClassDecl.declared_classCode true decl
      have hPaths := ClassDecl.memberPath_written (Bool.eq_false_iff.mpr hCompanion)
      rw [Tally.value_bind, Tally.value_pure, listDeclared_singleton, hClass]
      refine List.map_congr_left fun w hw => ?_
      rw [pathHeaders_true, hPaths w hw]
  | function decl =>
    rw [declarationCodes]
    split
    · exact (listDeclared_singleton _).trans (declared_constructorLikeCode g owner _ _ _ _)
    · exact (listDeclared_singleton _).trans (declared_functionCode g owner inCompanion decl)
  | constructor decl =>
    rw [declarationCodes]
    split
    · rfl
    · exact (listDeclared_singleton _).trans (declared_constructorLikeCode g owner _ _ _ _)
  | property decl =>
    rw [declarationCodes]
    exact (listDeclared_singleton _).trans (declared_propertyCode g owner inCompanion decl)
  | field decl =>
    rw [declarationCodes]
    exact (listDeclared_singleton _).trans (declared_fieldCode g owner inCompanion decl)

theorem Declaration.listDeclared_memberCodes (owner : ClassDecl) (inCompanion : Bool)
    (ds : List Declaration) :
    Code.listDeclared (memberCodes g owner inCompanion ds).value =
      (Declaration.listWritten ds).map fun w => w.memberPath.map (classHeader true) := by
  cases ds with
  | nil => simp [memberCodes, Declaration.listWritten, Code.listDeclared]
  | cons d rest =>
    rw [value_memberCodes_cons, listDeclared_append, Declaration.listWritten, List.map_append,
      Declaration.listDeclared_memberCodes owner inCompanion rest]
    congr 1
    split
    · exact Declaration.listDeclared_declarationCodes owner inCompanion d
    · rfl

end

theorem declared_topLevelCode (d : Declaration) :
    (topLevelCode g d).value.declared =
      (d.class?.toList.flatMap ClassDecl.written).map fun w => pathHeaders false w.path := by
  cases d with
  | ofClass decl =>
    rw [topLevelCode, ClassDecl.declared_classCode]
    simp [Declaration.class?]
  | function | constructor | property | field => rfl

/-- The header of the namespace of a file. -/
def namespaceHeaders (f : SourceFile) : List Code :=
  if f.package.isRoot then [] else [.text ("namespace " ++ f.package.text)]

/-- The declarations that are written for a file: its namespace and its classes. -/
def SourceFile.declarationPaths (f : SourceFile) : List (List Code) :=
  (if f.package.isRoot then [] else [namespaceHeaders f]) ++
    f.written.map fun w => namespaceHeaders f ++ pathHeaders false w.path

theorem declared_fileCode (f : SourceFile) :
    (fileCode g f).value.declared = f.declarationPaths := by
  have hItems : Code.listDeclared (Tally.each (topLevelCode g) f.declarations).value =
      f.written.map fun w => pathHeaders false w.path := by
    unfold SourceFile.written SourceFile.classes
    induction f.declarations with
    | nil => rfl
    | cons d rest ih =>
      simp only [Tally.each, Tally.value_bind, Tally.value_pure, Code.listDeclared, ih,
        declared_topLevelCode, List.filterMap_cons]
      cases d.class? <;> simp
  unfold fileCode SourceFile.declarationPaths namespaceHeaders
  simp only [Tally.value_bind]
  split
  · exact hItems
  · rw [Tally.value_pure, Code.paragraphs, Code.declared, hItems, List.map_map]
    rfl

end Reading

/-- The names that lead to a class in the source. -/
def WrittenClass.names (w : WrittenClass) : List String := (w.enclosing ++ [w.decl]).map (·.name)

/-- A class that is nested in one of some classes has its identifier and a further name. -/
def NestedIds (classes : List ClassDecl) : Prop :=
  ∀ c ∈ classes, ∀ d ∈ c.classes, d.id = c.id.nested d.name

/-- The identifiers of the classes of a module say where the classes are. -/
def SourceModule.IdsFollowNesting (m : SourceModule) : Prop :=
  (∀ f ∈ m.files, ∀ c ∈ f.classes, c.id = ⟨f.package, [c.name]⟩) ∧ NestedIds m.allClasses

instance : DecidablePred NestedIds := fun classes =>
  inferInstanceAs (Decidable (∀ c ∈ classes, ∀ d ∈ c.classes, d.id = c.id.nested d.name))

instance : DecidablePred SourceModule.IdsFollowNesting := fun m =>
  inferInstanceAs (Decidable ((∀ f ∈ m.files, ∀ c ∈ f.classes, c.id = ⟨f.package, [c.name]⟩) ∧
    NestedIds m.allClasses))

section Names

theorem ClassDecl.id_inside {outer : ClassId} {c : ClassDecl} (hId : c.id = outer.nested c.name)
    {w : WrittenClass} (h : w.decl.id = ⟨c.id.package, c.id.names ++ w.names⟩) :
    (w.inside c).decl.id = ⟨outer.package, outer.names ++ (w.inside c).names⟩ := by
  have hNames : (w.inside c).names = c.name :: w.names := rfl
  have hDecl : (w.inside c).decl = w.decl := rfl
  rw [hDecl, h, hId, hNames, ClassId.nested, List.append_assoc, List.singleton_append]

mutual

theorem ClassDecl.id_writtenInside (c : ClassDecl) (hNested : NestedIds c.tree)
    {outer : ClassId} (hId : c.id = outer.nested c.name) :
    ∀ w ∈ c.writtenInside, w.decl.id = ⟨outer.package, outer.names ++ w.names⟩ := by
  obtain ⟨id, kind, modality, visibility, isLocal, isValue, isExpect, isExternal, isCompanion,
    typeParameters, supertypes, annotations, enumEntries, declarations, origin⟩ := c
  obtain ⟨hMembers, hInner⟩ := List.forall_mem_cons.mp hNested
  intro w hw
  obtain ⟨inner, hMem, rfl⟩ := List.mem_map.mp hw
  exact ClassDecl.id_inside hId (Declaration.id_listWritten declarations hInner hMembers inner hMem)

theorem ClassDecl.id_written (c : ClassDecl) (hNested : NestedIds c.tree)
    {outer : ClassId} (hId : c.id = outer.nested c.name) :
    ∀ w ∈ c.written, w.decl.id = ⟨outer.package, outer.names ++ w.names⟩ := by
  obtain ⟨id, kind, modality, visibility, isLocal, isValue, isExpect, isExternal, isCompanion,
    typeParameters, supertypes, annotations, enumEntries, declarations, origin⟩ := c
  obtain ⟨hMembers, hInner⟩ := List.forall_mem_cons.mp hNested
  rw [ClassDecl.written]
  refine List.forall_mem_cons.mpr ⟨hId, ?_⟩
  split
  · exact List.forall_mem_nil _
  · intro w hw
    obtain ⟨inner, hMem, rfl⟩ := List.mem_map.mp hw
    exact ClassDecl.id_inside hId
      (Declaration.id_listWritten declarations hInner hMembers inner hMem)

theorem Declaration.id_written (d : Declaration) (hNested : NestedIds d.tree)
    {outer : ClassId} (hId : ∀ c, d.class? = some c → c.id = outer.nested c.name) :
    ∀ w ∈ d.written, w.decl.id = ⟨outer.package, outer.names ++ w.names⟩ := by
  cases d with
  | ofClass decl =>
    rw [Declaration.written]
    split
    · exact ClassDecl.id_writtenInside decl hNested (hId decl rfl)
    · exact ClassDecl.id_written decl hNested (hId decl rfl)
  | function | constructor | property | field => exact List.forall_mem_nil _

theorem Declaration.id_listWritten (ds : List Declaration)
    (hNested : NestedIds (Declaration.listTree ds)) {outer : ClassId}
    (hId : ∀ c ∈ ds.filterMap Declaration.class?, c.id = outer.nested c.name) :
    ∀ w ∈ Declaration.listWritten ds, w.decl.id = ⟨outer.package, outer.names ++ w.names⟩ := by
  cases ds with
  | nil => exact List.forall_mem_nil _
  | cons d rest =>
    rw [NestedIds, Declaration.listTree, List.forall_mem_append] at hNested
    have hFirst : ∀ c, d.class? = some c → c.id = outer.nested c.name := fun c hc =>
      hId c (List.mem_filterMap.mpr ⟨d, List.mem_cons_self, hc⟩)
    have hRest : ∀ c ∈ rest.filterMap Declaration.class?, c.id = outer.nested c.name :=
      fun c hc => hId c (List.filterMap_subset _ (List.subset_cons_self d rest) hc)
    rw [Declaration.listWritten]
    refine List.forall_mem_append.mpr ⟨?_, Declaration.id_listWritten rest hNested.2 hRest⟩
    split
    · exact Declaration.id_written d hNested.1 hFirst
    · exact List.forall_mem_nil _

end

theorem SourceModule.IdsFollowNesting.id_written {m : SourceModule} (h : m.IdsFollowNesting)
    {f : SourceFile} (hf : f ∈ m.files) {w : WrittenClass} (hw : w ∈ f.written) :
    w.decl.id = ⟨f.package, w.names⟩ := by
  obtain ⟨c, hc, hw⟩ := List.mem_flatMap.mp hw
  obtain ⟨d, hd, hClass⟩ := List.mem_filterMap.mp hc
  have hNested : NestedIds c.tree := by
    intro inner hInner
    refine h.2 inner (List.mem_flatMap.mpr ⟨f, hf, ?_⟩)
    rw [Declaration.listTree_eq_flatMap]
    refine List.mem_flatMap.mpr ⟨d, hd, ?_⟩
    cases d with
    | ofClass decl =>
      cases hClass
      exact hInner
    | function | constructor | property | field => cases hClass
  have hTop : c.id = ClassId.nested ⟨f.package, []⟩ c.name := h.1 f hf c hc
  exact ClassDecl.id_written c hNested hTop w hw

end Names

section Paths

variable {w : WrittenClass}

theorem length_intercalate_dot {names : List String} (h : names ≠ []) :
    (".".intercalate names).length + 1 = total (names.map (·.length + 1)) := by
  induction names with
  | nil => exact absurd rfl h
  | cons name rest ih =>
    cases rest with
    | nil => simp [total]
    | cons next rest =>
      rw [String.intercalate_cons_cons, String.length_append, String.length_append, List.map_cons,
        total, ← ih (List.cons_ne_nil _ _)]
      have hDot : ".".length = 1 := by decide
      omega

theorem total_add_length_le {l l' : List String} (h : l.Sublist l') :
    total (l.map (·.length + 1)) + l'.length ≤ total (l'.map (·.length + 1)) + l.length := by
  induction h with
  | slnil => exact Nat.le_refl _
  | cons name _ ih =>
    simp only [List.map_cons, total, List.length_cons]
    omega
  | cons_cons name _ ih =>
    simp only [List.map_cons, total, List.length_cons]
    omega

theorem length_intercalate_lt {l l' : List String} (h : l.Sublist l') (hNonempty : l ≠ [])
    (hShorter : l.length < l'.length) :
    (".".intercalate l).length < (".".intercalate l').length := by
  have hNonempty' : l' ≠ [] := by
    rintro rfl
    exact absurd hShorter (Nat.not_lt_zero _)
  have hLength := length_intercalate_dot hNonempty
  have hLength' := length_intercalate_dot hNonempty'
  have hTotal := total_add_length_le h
  omega

theorem WrittenClass.path_sublist : w.path.Sublist (w.enclosing ++ [w.decl]) := by
  obtain ⟨enclosing, decl⟩ := w
  cases enclosing with
  | nil => exact List.Sublist.refl _
  | cons first inner =>
    exact (List.Sublist.append List.filter_sublist (List.Sublist.refl _)).cons_cons first

theorem WrittenClass.length_path :
    w.path.length = (w.enclosing ++ [w.decl]).length ↔
      ∀ c ∈ w.enclosing.tail, c.isCompanion = false := by
  obtain ⟨enclosing, decl⟩ := w
  cases enclosing with
  | nil => simp [WrittenClass.path]
  | cons first inner =>
    simp [WrittenClass.path, WrittenClass.memberPath, List.length_filter_eq_length_iff]

theorem className_of_not_mapped {id : ClassId} (h : nameTable.lookup id.qualifiedName = none)
    (hArray : id ≠ WellKnown.array) : className id = id.qualifiedName := by
  simp [className, SourceType.ofClass, typeName, hArray, argumentNames, classBaseName, h]

theorem length_qualify (package : QualifiedName) (name : String) :
    (package.qualify name).length = (package.qualify "").length + name.length := by
  unfold QualifiedName.qualify
  split
  · exact (Nat.zero_add _).symm
  · simp only [String.length_append]
    rfl

theorem WrittenClass.path_ne_nil : w.path ≠ [] := by
  obtain ⟨enclosing, decl⟩ := w
  cases enclosing <;> exact List.cons_ne_nil _ _

theorem WrittenClass.path_of_array (hNames : w.names = ["Array"]) :
    w.path.map (·.name) = ["Array"] := by
  obtain ⟨enclosing, decl⟩ := w
  cases enclosing with
  | nil => exact hNames
  | cons first inner => simp [WrittenClass.names] at hNames

theorem WrittenClass.path_eq_className_iff {package : QualifiedName}
    (hId : w.decl.id = ⟨package, w.names⟩)
    (hTable : nameTable.lookup w.decl.id.qualifiedName = none) :
    package.qualify (".".intercalate (w.path.map (·.name))) = className w.decl.id ↔
      (∀ c ∈ w.enclosing.tail, c.isCompanion = false) ∧ w.decl.id ≠ WellKnown.array := by
  by_cases hArray : w.decl.id = WellKnown.array
  · refine iff_of_false ?_ fun h => h.2 hArray
    have hPackage : package = ⟨"kotlin"⟩ := congrArg ClassId.package (hId.symm.trans hArray)
    have hNames : w.names = ["Array"] := congrArg ClassId.names (hId.symm.trans hArray)
    rw [hArray, hPackage, WrittenClass.path_of_array hNames]
    decide
  · have hQualified : w.decl.id.qualifiedName = package.qualify (".".intercalate w.names) := by
      rw [hId]
      rfl
    rw [className_of_not_mapped hTable hArray, hQualified, ← WrittenClass.length_path]
    constructor
    · -- a name that is left out makes the path shorter
      intro h
      refine ⟨?_, hArray⟩
      have hSublist := (WrittenClass.path_sublist (w := w)).map (·.name)
      have hSame := congrArg String.length h
      rw [length_qualify, length_qualify package (".".intercalate w.names)] at hSame
      refine Nat.le_antisymm WrittenClass.path_sublist.length_le (Nat.le_of_not_lt fun hLess => ?_)
      have hShorter := length_intercalate_lt hSublist (by simpa using WrittenClass.path_ne_nil)
        (by simpa using hLess)
      rw [← WrittenClass.names] at hShorter
      omega
    · rintro ⟨hLength, -⟩
      rw [WrittenClass.path_sublist.eq_of_length hLength]
      rfl

end Paths

/-- The output of a module has, in order, the namespace of each file and the classes that are
written, each in those that are around it. The path to such a class is the name that references to
it use, unless a table has another name for it, if and only if the class is not inside a companion
and is not the class of arrays. -/
theorem written_class_path_iff (symbols : SymbolSource) (m : SourceModule)
    (hIds : m.IdsFollowNesting) :
    (generate symbols m).value.map (·.code.declared) = m.files.map (·.declarationPaths) ∧
    ∀ f ∈ m.files, ∀ w ∈ f.written, nameTable.lookup w.decl.id.qualifiedName = none →
      (f.package.qualify (".".intercalate (w.path.map (·.name))) = className w.decl.id ↔
        (∀ c ∈ w.enclosing.tail, c.isCompanion = false) ∧ w.decl.id ≠ WellKnown.array) := by
  constructor
  · rw [generate, Tally.value_each, List.map_map]
    refine List.map_congr_left fun f _ => ?_
    exact declared_fileCode _ f
  · intro f hf w hw hTable
    exact WrittenClass.path_eq_className_iff (hIds.id_written hf hw) hTable

/-- A class of boxes: its hook is inside its base, and its lid is inside its companion. -/
def boxClass : ClassDecl :=
  let id : ClassId := .inPackage "app" "Box"
  { id
    declarations :=
      [.ofClass
        { id := id.nested "Base"
          declarations := [.ofClass { id := (id.nested "Base").nested "Hook" }] },
      .ofClass
        { id := id.companion, kind := .object, isCompanion := true
          declarations := [.ofClass { id := id.companion.nested "Lid" }] }] }

def boxFile : SourceFile :=
  { name := "main.kt", package := ⟨"app"⟩, declarations := [.ofClass boxClass] }

theorem boxFile_hook_path :
    SourceModule.IdsFollowNesting ⟨"main", [boxFile]⟩ ∧
    ∃ w ∈ boxFile.written, w.path.map (·.name) = ["Box", "Base", "Hook"] ∧
      boxFile.package.qualify (".".intercalate (w.path.map (·.name))) = className w.decl.id := by
  have hIds : SourceModule.IdsFollowNesting ⟨"main", [boxFile]⟩ := by decide
  have hNamed := (written_class_path_iff (.layered []) ⟨"main", [boxFile]⟩ hIds).2 boxFile
    List.mem_cons_self (boxFile.written.get ⟨2, by decide⟩) (List.get_mem _ _) (by decide +kernel)
  exact ⟨hIds, _, List.get_mem _ ⟨2, by decide⟩, by decide +kernel,
    hNamed.mpr (by decide +kernel)⟩

theorem boxFile_lid_path :
    SourceModule.IdsFollowNesting ⟨"main", [boxFile]⟩ ∧
    boxFile.written.map (fun w => (boxFile.package.qualify (".".intercalate (w.path.map (·.name))),
      className w.decl.id)) =
      [("app.Box", "app.Box"), ("app.Box.Base", "app.Box.Base"),
        ("app.Box.Base.Hook", "app.Box.Base.Hook"), ("app.Box.Lid", "app.Box.Companion.Lid")] := by
  decide +kernel

end KotlinBackend
