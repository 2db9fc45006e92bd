import KotlinBackend.Program.Renaming
import KotlinBackend.Proofs.Mention.Basic

/-!
# The classes named after a renaming

A renamed program names exactly the renamed classes: a property holds of all of them if and only if
its composition with the renaming holds of the classes named before.
-/

namespace KotlinBackend

variable {P : ClassId → Prop} {f : ClassId → ClassId}

mutual

theorem SourceType.classIds_mapClassIds (t : SourceType) :
    (t.mapClassIds f).classIds = t.classIds.map f := by
  cases t with
  | applied id arguments nullable =>
    simp [SourceType.mapClassIds, SourceType.classIds,
      TypeArgument.listClassIds_mapClassIds arguments]
  | parameter name nullable => rfl

theorem TypeArgument.classIds_mapClassIds (a : TypeArgument) :
    (a.mapClassIds f).classIds = a.classIds.map f := by
  cases a with
  | star => rfl
  | projected variance type => exact SourceType.classIds_mapClassIds type

theorem TypeArgument.listClassIds_mapClassIds (arguments : List TypeArgument) :
    TypeArgument.listClassIds (TypeArgument.listMapClassIds f arguments) =
      (TypeArgument.listClassIds arguments).map f := by
  cases arguments with
  | nil => rfl
  | cons a rest =>
    simp [TypeArgument.listMapClassIds, TypeArgument.listClassIds,
      TypeArgument.classIds_mapClassIds a, TypeArgument.listClassIds_mapClassIds rest]

end

@[simp] theorem namesOnly_mapType {t : SourceType} :
    NamesOnly P (t.mapClassIds f).nodes ↔ NamesOnly (P ∘ f) t.nodes := by
  simp [namesOnly_type, SourceType.classIds_mapClassIds]

@[simp] theorem namesOnly_mapTypes {types : List SourceType} :
    NamesOnly P (SourceType.listNodes (types.map (·.mapClassIds f))) ↔
      NamesOnly (P ∘ f) (SourceType.listNodes types) := by
  simp [namesOnly_types]

@[simp] theorem namesOnly_mapCallable {id : CallableId} :
    NamesOnly P (id.mapClassId f).nodes ↔ NamesOnly (P ∘ f) id.nodes := by
  obtain ⟨owner, name⟩ := id
  cases owner <;>
    simp [namesOnly_callable, CallableId.mapClassId, CallableId.class?, Owner.class?]

mutual

theorem Expression.namesOnly_mapClassIds (e : Expression) :
    NamesOnly P (e.mapClassIds f).nodes ↔ NamesOnly (P ∘ f) e.nodes := by
  cases e with
  | constant | readValue | self | object | unsupported =>
    simp [Expression.mapClassIds, Expression.nodes, Node.class?]
  | readField receiver field type =>
    simp [Expression.mapClassIds, Expression.nodes, Node.class?,
      Expression.namesOnly_mapClassIdsOption receiver]
  | call c =>
    simp [Expression.mapClassIds, Expression.nodes, Node.class?, Call.namesOnly_mapClassIds c]
  | construct id typeArguments arguments =>
    simp [Expression.mapClassIds, Expression.nodes, Node.class?,
      Expression.namesOnly_mapClassIdsArguments arguments]
  | concatenation parts =>
    simp [Expression.mapClassIds, Expression.nodes, Node.class?,
      Expression.namesOnly_mapClassIdsList parts]
  | typeOperation operator operand type =>
    simp [Expression.mapClassIds, Expression.nodes, Node.class?,
      Expression.namesOnly_mapClassIds operand]
  | «when» branches type =>
    simp [Expression.mapClassIds, Expression.nodes, Node.class?,
      Branch.namesOnly_mapClassIdsList branches]
  | block statements type =>
    simp [Expression.mapClassIds, Expression.nodes, Node.class?,
      Statement.namesOnly_mapClassIdsList statements]

theorem Call.namesOnly_mapClassIds (c : Call) :
    NamesOnly P (c.mapClassIds f).nodes ↔ NamesOnly (P ∘ f) c.nodes := by
  obtain ⟨callee, dispatchReceiver, extensionReceiver, arguments, typeArguments, type⟩ := c
  simp [Call.mapClassIds, Call.nodes, Expression.namesOnly_mapClassIdsOption dispatchReceiver,
    Expression.namesOnly_mapClassIdsOption extensionReceiver,
    Expression.namesOnly_mapClassIdsArguments arguments]

theorem Branch.namesOnly_mapClassIds (b : Branch) :
    NamesOnly P (b.mapClassIds f).nodes ↔ NamesOnly (P ∘ f) b.nodes := by
  obtain ⟨condition, result⟩ := b
  simp [Branch.mapClassIds, Branch.nodes, Expression.namesOnly_mapClassIds condition,
    Expression.namesOnly_mapClassIds result]

theorem Statement.namesOnly_mapClassIds (s : Statement) :
    NamesOnly P (s.mapClassIds f).nodes ↔ NamesOnly (P ∘ f) s.nodes := by
  cases s with
  | evaluate e =>
    simp [Statement.mapClassIds, Statement.nodes, Node.class?, Expression.namesOnly_mapClassIds e]
  | declare name type initializer isVariable =>
    simp [Statement.mapClassIds, Statement.nodes, Node.class?,
      Expression.namesOnly_mapClassIdsOption initializer]
  | assign name value =>
    simp [Statement.mapClassIds, Statement.nodes, Node.class?,
      Expression.namesOnly_mapClassIds value]
  | assignField receiver field value =>
    simp [Statement.mapClassIds, Statement.nodes, Node.class?,
      Expression.namesOnly_mapClassIdsOption receiver, Expression.namesOnly_mapClassIds value]
  | returns value =>
    simp [Statement.mapClassIds, Statement.nodes, Node.class?,
      Expression.namesOnly_mapClassIdsOption value]
  | conditional condition thenBranch elseBranch =>
    simp [Statement.mapClassIds, Statement.nodes, Node.class?,
      Expression.namesOnly_mapClassIds condition, Statement.namesOnly_mapClassIdsList thenBranch,
      Statement.namesOnly_mapClassIdsList elseBranch]
  | loop condition body =>
    simp [Statement.mapClassIds, Statement.nodes, Node.class?,
      Expression.namesOnly_mapClassIds condition, Statement.namesOnly_mapClassIdsList body]
  | throws value =>
    simp [Statement.mapClassIds, Statement.nodes, Node.class?,
      Expression.namesOnly_mapClassIds value]

theorem Expression.namesOnly_mapClassIdsOption (e : Option Expression) :
    NamesOnly P (Expression.optionNodes (Expression.mapClassIdsOption f e)) ↔
      NamesOnly (P ∘ f) (Expression.optionNodes e) := by
  cases e with
  | none => simp [Expression.mapClassIdsOption, Expression.optionNodes]
  | some e => exact Expression.namesOnly_mapClassIds e

theorem Expression.namesOnly_mapClassIdsList (es : List Expression) :
    NamesOnly P (Expression.listNodes (Expression.mapClassIdsList f es)) ↔
      NamesOnly (P ∘ f) (Expression.listNodes es) := by
  cases es with
  | nil => simp [Expression.mapClassIdsList, Expression.listNodes]
  | cons e rest =>
    simp [Expression.mapClassIdsList, Expression.listNodes, Expression.namesOnly_mapClassIds e,
      Expression.namesOnly_mapClassIdsList rest]

theorem Expression.namesOnly_mapClassIdsArguments (es : List (Option Expression)) :
    NamesOnly P (Expression.argumentNodes (Expression.mapClassIdsArguments f es)) ↔
      NamesOnly (P ∘ f) (Expression.argumentNodes es) := by
  cases es with
  | nil => simp [Expression.mapClassIdsArguments, Expression.argumentNodes]
  | cons e rest =>
    simp [Expression.mapClassIdsArguments, Expression.argumentNodes,
      Expression.namesOnly_mapClassIdsOption e, Expression.namesOnly_mapClassIdsArguments rest]

theorem Branch.namesOnly_mapClassIdsList (bs : List Branch) :
    NamesOnly P (Branch.listNodes (Branch.mapClassIdsList f bs)) ↔
      NamesOnly (P ∘ f) (Branch.listNodes bs) := by
  cases bs with
  | nil => simp [Branch.mapClassIdsList, Branch.listNodes]
  | cons b rest =>
    simp [Branch.mapClassIdsList, Branch.listNodes, Branch.namesOnly_mapClassIds b,
      Branch.namesOnly_mapClassIdsList rest]

theorem Statement.namesOnly_mapClassIdsList (ss : List Statement) :
    NamesOnly P (Statement.listNodes (Statement.mapClassIdsList f ss)) ↔
      NamesOnly (P ∘ f) (Statement.listNodes ss) := by
  cases ss with
  | nil => simp [Statement.mapClassIdsList, Statement.listNodes]
  | cons s rest =>
    simp [Statement.mapClassIdsList, Statement.listNodes, Statement.namesOnly_mapClassIds s,
      Statement.namesOnly_mapClassIdsList rest]

end

@[simp] theorem AnnotationUse.namesOnly_mapClassIds {a : AnnotationUse} :
    NamesOnly P (a.mapClassIds f).nodes ↔ NamesOnly (P ∘ f) a.nodes := by
  simp [AnnotationUse.mapClassIds, AnnotationUse.nodes, Node.class?]

@[simp] theorem TypeParameter.namesOnly_mapClassIds {p : TypeParameter} :
    NamesOnly P (p.mapClassIds f).nodes ↔ NamesOnly (P ∘ f) p.nodes := by
  simp [TypeParameter.mapClassIds, TypeParameter.nodes]

@[simp] theorem namesOnly_mapOption {e : Option Expression} :
    NamesOnly P (Expression.optionNodes (e.map (·.mapClassIds f))) ↔
      NamesOnly (P ∘ f) (Expression.optionNodes e) := by
  cases e with
  | none => simp [Expression.optionNodes]
  | some e => exact Expression.namesOnly_mapClassIds e

@[simp] theorem ValueParameter.namesOnly_mapClassIds {p : ValueParameter} :
    NamesOnly P (p.mapClassIds f).nodes ↔ NamesOnly (P ∘ f) p.nodes := by
  simp [ValueParameter.mapClassIds, ValueParameter.nodes, Node.class?]

@[simp] theorem namesOnly_mapBody {body : Option (List Statement)} :
    NamesOnly P (bodyNodes (body.map (Statement.mapClassIdsList f))) ↔
      NamesOnly (P ∘ f) (bodyNodes body) := by
  cases body with
  | none => simp [bodyNodes]
  | some statements => simp [bodyNodes, Node.class?, Statement.namesOnly_mapClassIdsList]

theorem FunctionDecl.namesOnly_mapClassIds {d : FunctionDecl} :
    NamesOnly P (d.mapClassIds f).nodes ↔ NamesOnly (P ∘ f) d.nodes := by
  cases hd : d.extensionReceiver <;>
    simp [FunctionDecl.mapClassIds, FunctionDecl.nodes, namesOnly_flatMap, hd]

theorem ConstructorDecl.namesOnly_mapClassIds {d : ConstructorDecl} :
    NamesOnly P (d.mapClassIds f).nodes ↔ NamesOnly (P ∘ f) d.nodes := by
  cases hd : d.delegation <;>
    simp [ConstructorDecl.mapClassIds, ConstructorDecl.nodes, Delegation.mapClassIds,
      namesOnly_flatMap, Node.class?, Expression.namesOnly_mapClassIdsArguments, hd]

theorem PropertyDecl.namesOnly_mapClassIds {d : PropertyDecl} :
    NamesOnly P (d.mapClassIds f).nodes ↔ NamesOnly (P ∘ f) d.nodes := by
  simp [PropertyDecl.mapClassIds, PropertyDecl.nodes]

theorem FieldDecl.namesOnly_mapClassIds {d : FieldDecl} :
    NamesOnly P (d.mapClassIds f).nodes ↔ NamesOnly (P ∘ f) d.nodes := by
  simp [FieldDecl.mapClassIds, FieldDecl.nodes]

mutual

theorem ClassDecl.namesOnly_mapClassIds (c : ClassDecl) :
    NamesOnly P (c.mapClassIds f).nodes ↔ NamesOnly (P ∘ f) c.nodes := by
  obtain ⟨id, kind, modality, visibility, isLocal, isValue, isExpect, isExternal, isCompanion,
    typeParameters, supertypes, annotations, enumEntries, declarations, origin⟩ := c
  simp [ClassDecl.mapClassIds, ClassDecl.nodes, namesOnly_flatMap, Node.class?,
    Declaration.namesOnly_mapClassIdsList declarations]

theorem Declaration.namesOnly_mapClassIds (d : Declaration) :
    NamesOnly P (d.mapClassIds f).nodes ↔ NamesOnly (P ∘ f) d.nodes := by
  cases d with
  | ofClass decl =>
    simp [Declaration.mapClassIds, Declaration.nodes, Node.class?,
      ClassDecl.namesOnly_mapClassIds decl]
  | function decl =>
    simp [Declaration.mapClassIds, Declaration.nodes, Node.class?,
      FunctionDecl.namesOnly_mapClassIds]
  | constructor decl =>
    simp [Declaration.mapClassIds, Declaration.nodes, Node.class?,
      ConstructorDecl.namesOnly_mapClassIds]
  | property decl =>
    simp [Declaration.mapClassIds, Declaration.nodes, Node.class?,
      PropertyDecl.namesOnly_mapClassIds]
  | field decl =>
    simp [Declaration.mapClassIds, Declaration.nodes, Node.class?,
      FieldDecl.namesOnly_mapClassIds]

theorem Declaration.namesOnly_mapClassIdsList (ds : List Declaration) :
    NamesOnly P (Declaration.listNodes (Declaration.mapClassIdsList f ds)) ↔
      NamesOnly (P ∘ f) (Declaration.listNodes ds) := by
  cases ds with
  | nil => simp [Declaration.mapClassIdsList, Declaration.listNodes]
  | cons d rest =>
    simp [Declaration.mapClassIdsList, Declaration.listNodes, Declaration.namesOnly_mapClassIds d,
      Declaration.namesOnly_mapClassIdsList rest]

end

theorem SourceModule.namesOnly_mapClassIds {m : SourceModule} :
    NamesOnly P (m.mapClassIds f).nodes ↔ NamesOnly (P ∘ f) m.nodes := by
  simp [SourceModule.mapClassIds, SourceModule.nodes, SourceFile.mapClassIds, SourceFile.nodes,
    namesOnly_flatMap, Node.class?, Declaration.namesOnly_mapClassIdsList]

end KotlinBackend
