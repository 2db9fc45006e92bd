import KotlinBackend.Proofs.ClassTree
import KotlinBackend.Proofs.Mention.Occurrence
import KotlinBackend.Proofs.Resolution.Closure
import Mathlib.Data.List.Lex
import Mathlib.Data.String.Basic

/-!
# The unresolved references of a module

What a file lacks is said by rules: a class that occurs somewhere in the file and that no file of
the module declares at any depth, outside of the trusted packages and unknown to the source of
symbols. The main statement is that the report consists, file by file and in increasing order, of
exactly the classes that are lacking.
-/

namespace KotlinBackend

namespace ClassId

theorem key_injective : Function.Injective key := by
  rintro ⟨⟨package⟩, names⟩ ⟨⟨package'⟩, names'⟩ h
  obtain ⟨rfl, rfl⟩ := List.cons.inj h
  rfl

theorem lt_trans' {a b c : ClassId} (hab : a < b) (hbc : b < c) : a < c := by
  have hKey : a.key < c.key := lt_trans hab hbc
  exact hKey

theorem lt_of_not_lt {a b : ClassId} (hLt : ¬ a < b) (hNe : a ≠ b) : b < a := by
  rcases lt_trichotomy a.key b.key with h | h | h
  · exact absurd h hLt
  · exact absurd (key_injective h) hNe
  · exact h

theorem ne_of_lt {a b : ClassId} (h : a < b) : a ≠ b := by
  rintro rfl
  exact lt_irrefl a.key h

theorem pairwise_insertSorted {id : ClassId} {ids : List ClassId} (h : ids.Pairwise (· < ·)) :
    (insertSorted id ids).Pairwise (· < ·) := by
  fun_induction insertSorted id ids with
  | case1 => exact List.pairwise_singleton _ id
  | case2 first rest hLt =>
    refine List.pairwise_cons.mpr ⟨fun other hOther => ?_, h⟩
    rcases List.mem_cons.mp hOther with rfl | hOther
    · exact hLt
    · exact lt_trans' hLt ((List.pairwise_cons.mp h).1 other hOther)
  | case3 => exact h
  | case4 first rest hLt hNe ih =>
    obtain ⟨hFirst, hRest⟩ := List.pairwise_cons.mp h
    refine List.pairwise_cons.mpr ⟨fun other hOther => ?_, ih hRest⟩
    rcases mem_insertSorted.mp hOther with rfl | hOther
    · exact lt_of_not_lt hLt hNe
    · exact hFirst other hOther

theorem pairwise_sortUnique (ids : List ClassId) : (sortUnique ids).Pairwise (· < ·) := by
  have hFold (ids sorted : List ClassId) (h : sorted.Pairwise (· < ·)) :
      (ids.foldl (fun sorted id => insertSorted id sorted) sorted).Pairwise (· < ·) := by
    induction ids generalizing sorted with
    | nil => exact h
    | cons first rest ih => exact ih _ (pairwise_insertSorted h)
  exact hFold ids [] List.Pairwise.nil

/-- An increasing list is determined by its members. -/
theorem eq_of_pairwise_of_mem {ids ids' : List ClassId} (h : ids.Pairwise (· < ·))
    (h' : ids'.Pairwise (· < ·)) (hMem : ∀ id, id ∈ ids ↔ id ∈ ids') : ids = ids' := by
  have hPerm : ids.Perm ids' :=
    (List.perm_ext_iff_of_nodup (h.imp ne_of_lt) (h'.imp ne_of_lt)).mpr hMem
  refine hPerm.eq_of_pairwise (fun a b _ _ hab hba => ?_) h h'
  exact absurd (lt_trans' hab hba) (lt_irrefl a.key)

end ClassId

/-- A declaration is a class of an identifier, or such a class is somewhere inside it. -/
inductive Declaration.Declares : Declaration → ClassId → Prop
  | itself (c : ClassDecl) : Declares (.ofClass c) c.id
  | nested {c : ClassDecl} {d : Declaration} {id : ClassId} : d ∈ c.declarations →
    Declares d id → Declares (.ofClass c) id

def SourceModule.Declares (m : SourceModule) (id : ClassId) : Prop :=
  ∃ f ∈ m.files, ∃ d ∈ f.declarations, d.Declares id

/-- The packages whose classes nobody has to know. -/
inductive Trusted : QualifiedName → Prop
  | compiler : Trusted ⟨"sharpen.internal"⟩
  | language : Trusted ⟨"kotlin"⟩
  | inLanguage (rest : String) : Trusted ⟨"kotlin." ++ rest⟩

structure SourceFile.Lacks (f : SourceFile) (m : SourceModule) (symbols : SymbolSource)
    (id : ClassId) : Prop where
  occurs : f.Contains (.classRef id)
  undeclared : ¬ m.Declares id
  untrusted : ¬ Trusted id.package
  unknown : symbols.contains id = false

/-- Files are reported in their order, and each with what it lacks in increasing order. -/
inductive SourceModule.Reports (m : SourceModule) (symbols : SymbolSource) :
    List SourceFile → List UnresolvedReference → Prop
  | nil : Reports m symbols [] []
  | cons {f : SourceFile} {files : List SourceFile} {ids : List ClassId}
    {rest : List UnresolvedReference} : ids.Pairwise (· < ·) →
    (∀ id, id ∈ ids ↔ f.Lacks m symbols id) → Reports m symbols files rest →
    Reports m symbols (f :: files) (ids.map (fun id => ⟨f.name, id⟩) ++ rest)

mutual

theorem Declaration.mem_declaredClasses_iff {id : ClassId} (d : Declaration) :
    id ∈ d.declaredClasses ↔ d.Declares id := by
  cases d with
  | ofClass c =>
    obtain ⟨own, kind, modality, visibility, isLocal, isValue, isExpect, isExternal, isCompanion,
      typeParameters, supertypes, annotations, enumEntries, declarations, origin⟩ := c
    rw [Declaration.declaredClasses, ClassDecl.declaredClasses, List.mem_cons,
      Declaration.mem_listDeclaredClasses_iff declarations]
    constructor
    · rintro (rfl | ⟨d, hd, h⟩)
      · exact .itself _
      · exact .nested hd h
    · intro h
      cases h with
      | itself => exact .inl rfl
      | nested hd h => exact .inr ⟨_, hd, h⟩
  | function decl | constructor decl | property decl | field decl =>
    rw [Declaration.declaredClasses]
    exact ⟨fun h => absurd h List.not_mem_nil, fun h => nomatch h⟩

theorem Declaration.mem_listDeclaredClasses_iff {id : ClassId} (ds : List Declaration) :
    id ∈ Declaration.listDeclaredClasses ds ↔ ∃ d ∈ ds, d.Declares id := by
  cases ds with
  | nil => simp [Declaration.listDeclaredClasses]
  | cons d rest =>
    simp [Declaration.listDeclaredClasses, Declaration.mem_declaredClasses_iff d,
      Declaration.mem_listDeclaredClasses_iff rest]

end

theorem SourceModule.mem_declaredClasses_iff {m : SourceModule} {id : ClassId} :
    id ∈ m.declaredClasses ↔ m.Declares id := by
  simp only [SourceModule.declaredClasses, List.mem_flatMap, SourceModule.Declares,
    Declaration.mem_listDeclaredClasses_iff]

theorem isTrustedPackage_iff {package : QualifiedName} :
    isTrustedPackage package = true ↔ Trusted package := by
  obtain ⟨text⟩ := package
  have hLanguage : "kotlin" ++ "." = "kotlin." := by decide
  simp only [isTrustedPackage, internalPackage, WellKnown.languagePackage, Bool.or_eq_true,
    beq_iff_eq, Text.startsWith_iff]
  rw [hLanguage]
  constructor
  · rintro ((rfl | rfl) | ⟨rest, hRest⟩)
    · exact .compiler
    · exact .language
    · have hText : text = "kotlin." ++ String.ofList rest := by
        apply String.toList_injective
        rw [← hRest, String.toList_append]
        exact congrArg _ String.toList_ofList.symm
      rw [hText]
      exact .inLanguage _
  · intro h
    cases h with
    | compiler => exact .inl (.inl rfl)
    | language => exact .inl (.inr rfl)
    | inLanguage rest =>
      refine .inr ?_
      rw [String.toList_append]
      exact List.prefix_append _ _

theorem SourceFile.mem_classRefs {f : SourceFile} {id : ClassId} :
    id ∈ f.classRefs ↔ f.Contains (.classRef id) := by
  rw [SourceFile.classRefs, List.mem_filterMap]
  constructor
  · rintro ⟨node, hNode, hClass⟩
    cases node with
    | classRef other =>
      obtain rfl := Option.some.inj hClass
      exact SourceFile.mem_nodes.mp hNode
    | file | declaration | parameter | body | statement | expression | type | callable =>
      cases hClass
  · intro h
    exact ⟨.classRef id, SourceFile.mem_nodes.mpr h, rfl⟩

theorem SourceFile.mem_unresolved {f : SourceFile} {m : SourceModule} {symbols : SymbolSource}
    {id : ClassId} :
    id ∈ f.unresolved m.declaredClasses symbols ↔ f.Lacks m symbols id := by
  have hTrusted : isTrustedPackage id.package = false ↔ ¬ Trusted id.package := by
    rw [← isTrustedPackage_iff, Bool.not_eq_true]
  simp only [SourceFile.unresolved, ClassId.mem_sortUnique, List.mem_filter,
    SourceFile.mem_classRefs, Bool.and_eq_true, Bool.not_eq_true', List.contains_eq_mem,
    decide_eq_false_iff_not, SourceModule.mem_declaredClasses_iff, hTrusted]
  constructor
  · rintro ⟨hOccurs, ⟨hDeclared, hTrusted⟩, hKnown⟩
    exact ⟨hOccurs, hDeclared, hTrusted, hKnown⟩
  · rintro ⟨hOccurs, hDeclared, hTrusted, hKnown⟩
    exact ⟨hOccurs, ⟨hDeclared, hTrusted⟩, hKnown⟩

theorem SourceModule.reports_iff {m : SourceModule} {symbols : SymbolSource}
    {files : List SourceFile} {references : List UnresolvedReference} :
    m.Reports symbols files references ↔
      references = files.flatMap fun f =>
        (f.unresolved m.declaredClasses symbols).map fun id => ⟨f.name, id⟩ := by
  constructor
  · intro h
    induction h with
    | nil => rfl
    | cons hIncreasing hMem _ ih =>
      rw [List.flatMap_cons, ih, ClassId.eq_of_pairwise_of_mem hIncreasing
        (ClassId.pairwise_sortUnique _) fun id => (hMem id).trans SourceFile.mem_unresolved.symm]
      rfl
  · rintro rfl
    induction files with
    | nil => exact .nil
    | cons f files ih =>
      exact .cons (ClassId.pairwise_sortUnique _) (fun _ => SourceFile.mem_unresolved) ih

theorem optionMap_of_fixed {α : Type} {g : α → α} (h : ∀ a, g a = a) (o : Option α) :
    o.map g = o := by
  cases o with
  | none => rfl
  | some a => rw [Option.map_some, h a]

mutual

theorem SourceType.mapClassIds_id (t : SourceType) : t.mapClassIds (fun id => id) = t := by
  cases t with
  | applied id arguments nullable =>
    rw [SourceType.mapClassIds, TypeArgument.listMapClassIds_id arguments]
  | parameter name nullable => rw [SourceType.mapClassIds]

theorem TypeArgument.listMapClassIds_id (arguments : List TypeArgument) :
    TypeArgument.listMapClassIds (fun id => id) arguments = arguments := by
  cases arguments with
  | nil => rfl
  | cons a rest =>
    rw [TypeArgument.listMapClassIds, TypeArgument.listMapClassIds_id rest]
    cases a with
    | star => rw [TypeArgument.mapClassIds]
    | projected variance type => rw [TypeArgument.mapClassIds, SourceType.mapClassIds_id type]

end

theorem SourceType.map_mapClassIds_id (types : List SourceType) :
    types.map (·.mapClassIds fun id => id) = types :=
  List.map_id'' SourceType.mapClassIds_id types

theorem CallableId.mapClassId_id (id : CallableId) : id.mapClassId (fun id => id) = id := by
  obtain ⟨owner, name⟩ := id
  cases owner <;> rfl

mutual

theorem Expression.mapClassIds_id (e : Expression) : e.mapClassIds (fun id => id) = e := by
  cases e with
  | constant value => rw [Expression.mapClassIds]
  | readValue name type => rw [Expression.mapClassIds, SourceType.mapClassIds_id]
  | self type => rw [Expression.mapClassIds, SourceType.mapClassIds_id]
  | readField receiver field type =>
    rw [Expression.mapClassIds, Expression.mapClassIdsOption_id receiver,
      SourceType.mapClassIds_id]
  | object id => rw [Expression.mapClassIds]
  | call c => rw [Expression.mapClassIds, Call.mapClassIds_id c]
  | construct id typeArguments arguments =>
    rw [Expression.mapClassIds, SourceType.map_mapClassIds_id,
      Expression.mapClassIdsArguments_id arguments]
  | concatenation parts => rw [Expression.mapClassIds, Expression.mapClassIdsList_id parts]
  | typeOperation operator operand type =>
    rw [Expression.mapClassIds, Expression.mapClassIds_id operand, SourceType.mapClassIds_id]
  | «when» branches type =>
    rw [Expression.mapClassIds, Branch.mapClassIdsList_id branches, SourceType.mapClassIds_id]
  | block statements type =>
    rw [Expression.mapClassIds, Statement.mapClassIdsList_id statements,
      SourceType.mapClassIds_id]
  | unsupported kind => rw [Expression.mapClassIds]

theorem Call.mapClassIds_id (c : Call) : c.mapClassIds (fun id => id) = c := by
  obtain ⟨callee, dispatchReceiver, extensionReceiver, arguments, typeArguments, type⟩ := c
  rw [Call.mapClassIds, CallableId.mapClassId_id, Expression.mapClassIdsOption_id dispatchReceiver,
    Expression.mapClassIdsOption_id extensionReceiver,
    Expression.mapClassIdsArguments_id arguments, SourceType.map_mapClassIds_id,
    SourceType.mapClassIds_id]

theorem Statement.mapClassIds_id (s : Statement) : s.mapClassIds (fun id => id) = s := by
  cases s with
  | evaluate e => rw [Statement.mapClassIds, Expression.mapClassIds_id e]
  | declare name type initializer isVariable =>
    rw [Statement.mapClassIds, SourceType.mapClassIds_id,
      Expression.mapClassIdsOption_id initializer]
  | assign name value => rw [Statement.mapClassIds, Expression.mapClassIds_id value]
  | assignField receiver field value =>
    rw [Statement.mapClassIds, Expression.mapClassIdsOption_id receiver,
      Expression.mapClassIds_id value]
  | returns value => rw [Statement.mapClassIds, Expression.mapClassIdsOption_id value]
  | conditional condition thenBranch elseBranch =>
    rw [Statement.mapClassIds, Expression.mapClassIds_id condition,
      Statement.mapClassIdsList_id thenBranch, Statement.mapClassIdsList_id elseBranch]
  | loop condition body =>
    rw [Statement.mapClassIds, Expression.mapClassIds_id condition,
      Statement.mapClassIdsList_id body]
  | throws value => rw [Statement.mapClassIds, Expression.mapClassIds_id value]

theorem Expression.mapClassIdsOption_id (e : Option Expression) :
    Expression.mapClassIdsOption (fun id => id) e = e := by
  cases e with
  | none => rfl
  | some e => rw [Expression.mapClassIdsOption, Expression.mapClassIds_id e]

theorem Expression.mapClassIdsList_id (es : List Expression) :
    Expression.mapClassIdsList (fun id => id) es = es := by
  cases es with
  | nil => rfl
  | cons e rest =>
    rw [Expression.mapClassIdsList, Expression.mapClassIds_id e,
      Expression.mapClassIdsList_id rest]

theorem Expression.mapClassIdsArguments_id (es : List (Option Expression)) :
    Expression.mapClassIdsArguments (fun id => id) es = es := by
  cases es with
  | nil => rfl
  | cons e rest =>
    rw [Expression.mapClassIdsArguments, Expression.mapClassIdsOption_id e,
      Expression.mapClassIdsArguments_id rest]

theorem Branch.mapClassIdsList_id (bs : List Branch) :
    Branch.mapClassIdsList (fun id => id) bs = bs := by
  cases bs with
  | nil => rfl
  | cons b rest =>
    obtain ⟨condition, result⟩ := b
    rw [Branch.mapClassIdsList, Branch.mapClassIds, Expression.mapClassIds_id condition,
      Expression.mapClassIds_id result, Branch.mapClassIdsList_id rest]

theorem Statement.mapClassIdsList_id (ss : List Statement) :
    Statement.mapClassIdsList (fun id => id) ss = ss := by
  cases ss with
  | nil => rfl
  | cons s rest =>
    rw [Statement.mapClassIdsList, Statement.mapClassIds_id s, Statement.mapClassIdsList_id rest]

end

theorem AnnotationUse.mapClassIds_id (a : AnnotationUse) : a.mapClassIds (fun id => id) = a := rfl

theorem TypeParameter.mapClassIds_id (p : TypeParameter) : p.mapClassIds (fun id => id) = p := by
  rw [TypeParameter.mapClassIds, SourceType.map_mapClassIds_id]

theorem ValueParameter.mapClassIds_id (p : ValueParameter) :
    p.mapClassIds (fun id => id) = p := by
  rw [ValueParameter.mapClassIds, SourceType.mapClassIds_id,
    optionMap_of_fixed Expression.mapClassIds_id]

theorem FunctionDecl.mapClassIds_id (d : FunctionDecl) : d.mapClassIds (fun id => id) = d := by
  rw [FunctionDecl.mapClassIds, CallableId.mapClassId_id, SourceType.mapClassIds_id,
    List.map_id'' TypeParameter.mapClassIds_id, optionMap_of_fixed ValueParameter.mapClassIds_id,
    List.map_id'' ValueParameter.mapClassIds_id, List.map_id'' AnnotationUse.mapClassIds_id,
    optionMap_of_fixed Statement.mapClassIdsList_id]

theorem Delegation.mapClassIds_id (d : Delegation) : d.mapClassIds (fun id => id) = d := by
  rw [Delegation.mapClassIds, Expression.mapClassIdsArguments_id]

theorem ConstructorDecl.mapClassIds_id (d : ConstructorDecl) :
    d.mapClassIds (fun id => id) = d := by
  rw [ConstructorDecl.mapClassIds, List.map_id'' ValueParameter.mapClassIds_id,
    optionMap_of_fixed Delegation.mapClassIds_id, optionMap_of_fixed Statement.mapClassIdsList_id]

theorem PropertyDecl.mapClassIds_id (d : PropertyDecl) : d.mapClassIds (fun id => id) = d := by
  rw [PropertyDecl.mapClassIds, CallableId.mapClassId_id, SourceType.mapClassIds_id,
    optionMap_of_fixed Statement.mapClassIdsList_id,
    optionMap_of_fixed Statement.mapClassIdsList_id,
    optionMap_of_fixed Expression.mapClassIds_id]

theorem FieldDecl.mapClassIds_id (d : FieldDecl) : d.mapClassIds (fun id => id) = d := by
  rw [FieldDecl.mapClassIds, SourceType.mapClassIds_id,
    optionMap_of_fixed Expression.mapClassIds_id]

mutual

theorem ClassDecl.mapClassIds_id (c : ClassDecl) : c.mapClassIds (fun id => id) = c := by
  obtain ⟨id, kind, modality, visibility, isLocal, isValue, isExpect, isExternal, isCompanion,
    typeParameters, supertypes, annotations, enumEntries, declarations, origin⟩ := c
  rw [ClassDecl.mapClassIds, List.map_id'' TypeParameter.mapClassIds_id,
    SourceType.map_mapClassIds_id, List.map_id'' AnnotationUse.mapClassIds_id,
    Declaration.mapClassIdsList_id declarations]

theorem Declaration.mapClassIds_id (d : Declaration) : d.mapClassIds (fun id => id) = d := by
  cases d with
  | ofClass decl => rw [Declaration.mapClassIds, ClassDecl.mapClassIds_id decl]
  | function decl => rw [Declaration.mapClassIds, FunctionDecl.mapClassIds_id]
  | constructor decl => rw [Declaration.mapClassIds, ConstructorDecl.mapClassIds_id]
  | property decl => rw [Declaration.mapClassIds, PropertyDecl.mapClassIds_id]
  | field decl => rw [Declaration.mapClassIds, FieldDecl.mapClassIds_id]

theorem Declaration.mapClassIdsList_id (ds : List Declaration) :
    Declaration.mapClassIdsList (fun id => id) ds = ds := by
  cases ds with
  | nil => rfl
  | cons d rest =>
    rw [Declaration.mapClassIdsList, Declaration.mapClassIds_id d,
      Declaration.mapClassIdsList_id rest]

end

theorem SourceFile.mapClassIds_id (f : SourceFile) : f.mapClassIds (fun id => id) = f := by
  rw [SourceFile.mapClassIds, Declaration.mapClassIdsList_id]

theorem SourceModule.mapClassIds_id (m : SourceModule) : m.mapClassIds (fun id => id) = m := by
  rw [SourceModule.mapClassIds, List.map_id'' SourceFile.mapClassIds_id]

/-- The references that are reported are those that the rules ask for and no others, and a visit
of every place that can name a class, with each name left as it is, gives the module back. -/
theorem SourceModule.unresolved_reported_exactly (m : SourceModule) (symbols : SymbolSource) :
    (∀ references, m.Reports symbols m.files references ↔ references = m.unresolved symbols) ∧
      m.mapClassIds (fun id => id) = m :=
  ⟨fun _ => SourceModule.reports_iff, m.mapClassIds_id⟩

end KotlinBackend
