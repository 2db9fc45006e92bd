import KotlinBackend.Facade.Basic
import KotlinBackend.Program.Node

/-!
# The calls of a program

A call site is a call without what its operands are: the callable and how many arguments it is
given. Pointing calls at new places keeps the call sites in their order and changes each callee by
itself. The induction follows the syntax; an object that is dropped as a receiver holds no call.
-/

namespace KotlinBackend

structure CallSite where
  callee : CallableId
  /-- The number of arguments, with those that are left to default values. -/
  arguments : Nat
  deriving DecidableEq, Repr

def Node.site? : Node → Option CallSite
  | .expression (.call c) => some ⟨c.callee, c.arguments.length⟩
  | _ => none

def sitesIn (nodes : List Node) : List CallSite := nodes.filterMap Node.site?

def SourceModule.sites (m : SourceModule) : List CallSite := sitesIn m.nodes

/-- A call site where calls of moved callables are pointed at their new places. -/
def Moves.follow (moves : Moves) (site : CallSite) : CallSite :=
  { site with callee := (moves.target? site.callee).getD site.callee }

section Lists

variable {nodes nodes' : List Node}

@[simp] theorem sitesIn_nil : sitesIn [] = [] := rfl

@[simp] theorem sitesIn_cons {node : Node} :
    sitesIn (node :: nodes) = node.site?.toList ++ sitesIn nodes := by
  cases h : node.site? <;> simp [sitesIn, h]

@[simp] theorem sitesIn_append : sitesIn (nodes ++ nodes') = sitesIn nodes ++ sitesIn nodes' :=
  List.filterMap_append

theorem sitesIn_flatMap {α : Type} {items : List α} {f : α → List Node} :
    sitesIn (items.flatMap f) = items.flatMap fun a => sitesIn (f a) := by
  induction items with
  | nil => rfl
  | cons a rest ih => rw [List.flatMap_cons, sitesIn_append, ih, List.flatMap_cons]

theorem sitesIn_flatMap_nil {α : Type} {items : List α} {f : α → List Node}
    (h : ∀ a, sitesIn (f a) = []) : sitesIn (items.flatMap f) = [] := by
  rw [sitesIn_flatMap, List.flatMap_eq_nil_iff]
  exact fun a _ => h a

theorem sitesIn_classRefs (ids : List ClassId) : sitesIn (ids.map .classRef) = [] := by
  induction ids with
  | nil => rfl
  | cons id rest ih => simp [ih, Node.site?]

@[simp] theorem sitesIn_type (t : SourceType) : sitesIn t.nodes = [] := by
  simp [SourceType.nodes, sitesIn_classRefs, Node.site?]

@[simp] theorem sitesIn_types (types : List SourceType) :
    sitesIn (SourceType.listNodes types) = [] :=
  sitesIn_flatMap_nil sitesIn_type

@[simp] theorem sitesIn_callable (id : CallableId) : sitesIn id.nodes = [] := by
  simp [CallableId.nodes, sitesIn_classRefs, Node.site?]

@[simp] theorem sitesIn_typeParameters (ps : List TypeParameter) :
    sitesIn (ps.flatMap TypeParameter.nodes) = [] :=
  sitesIn_flatMap_nil fun p => sitesIn_types p.bounds

@[simp] theorem sitesIn_annotations (as : List AnnotationUse) :
    sitesIn (as.flatMap AnnotationUse.nodes) = [] :=
  sitesIn_flatMap_nil fun _ => rfl

end Lists

section Retarget

variable (moves : Moves)

theorem sitesIn_dropObject (receiver : Option Expression) :
    sitesIn (Expression.optionNodes (dropObject receiver)) =
      sitesIn (Expression.optionNodes receiver) := by
  unfold dropObject
  split
  · simp [Expression.optionNodes, Expression.nodes, Node.site?]
  · rfl

/-- A call whose operands are done: its own callee follows. -/
theorem sitesIn_replace_call (c : Call) :
    sitesIn (Expression.replace moves.step (.call c)).value.nodes =
      moves.follow ⟨c.callee, c.arguments.length⟩ :: sitesIn c.nodes := by
  obtain ⟨callee, dispatchReceiver, extensionReceiver, arguments, typeArguments, type⟩ := c
  cases hTarget : moves.target? callee with
  | none =>
    simp [Expression.replace, Moves.step, Moves.follow, hTarget, Expression.nodes, Node.site?]
  | some target =>
    simp [Expression.replace, Moves.step, Moves.follow, hTarget, Expression.nodes, Call.nodes,
      Node.site?, sitesIn_dropObject]

theorem length_reviseArguments (step : Expression → Option Expression)
    (es : List (Option Expression)) :
    (Expression.reviseArguments step es).value.length = es.length := by
  induction es with
  | nil => rfl
  | cons e rest ih => simp [Expression.reviseArguments, ih]

mutual

theorem Expression.sites_revise (e : Expression) :
    sitesIn (e.revise moves.step).value.nodes = (sitesIn e.nodes).map moves.follow := by
  cases e with
  | constant | readValue | self | object | unsupported =>
    simp [Expression.revise, Expression.replace, Moves.step, Expression.nodes, Node.site?]
  | readField receiver field type =>
    simp [Expression.revise, Expression.replace, Moves.step, Expression.nodes, Node.site?,
      Expression.sites_reviseOption receiver]
  | call c =>
    obtain ⟨callee, dispatchReceiver, extensionReceiver, arguments, typeArguments, type⟩ := c
    have hOperands := Call.sites_revise
      ⟨callee, dispatchReceiver, extensionReceiver, arguments, typeArguments, type⟩
    simp only [Expression.revise, Tally.value_bind, sitesIn_replace_call, hOperands,
      Expression.nodes, sitesIn_cons, Node.site?, Option.toList_some, List.cons_append,
      List.nil_append, List.map_cons]
    simp [Call.revise, length_reviseArguments]
  | construct id typeArguments arguments =>
    simp [Expression.revise, Expression.replace, Moves.step, Expression.nodes, Node.site?,
      Expression.sites_reviseArguments arguments]
  | concatenation parts =>
    simp [Expression.revise, Expression.replace, Moves.step, Expression.nodes, Node.site?,
      Expression.sites_reviseList parts]
  | typeOperation operator operand type =>
    simp [Expression.revise, Expression.replace, Moves.step, Expression.nodes, Node.site?,
      Expression.sites_revise operand]
  | «when» branches type =>
    simp [Expression.revise, Expression.replace, Moves.step, Expression.nodes, Node.site?,
      Branch.sites_reviseList branches]
  | block statements type =>
    simp [Expression.revise, Expression.replace, Moves.step, Expression.nodes, Node.site?,
      Statement.sites_reviseList statements]

theorem Call.sites_revise (c : Call) :
    sitesIn (c.revise moves.step).value.nodes = (sitesIn c.nodes).map moves.follow := by
  obtain ⟨callee, dispatchReceiver, extensionReceiver, arguments, typeArguments, type⟩ := c
  simp [Call.revise, Call.nodes, Expression.sites_reviseOption dispatchReceiver,
    Expression.sites_reviseOption extensionReceiver, Expression.sites_reviseArguments arguments]

theorem Branch.sites_revise (b : Branch) :
    sitesIn (b.revise moves.step).value.nodes = (sitesIn b.nodes).map moves.follow := by
  obtain ⟨condition, result⟩ := b
  simp [Branch.revise, Branch.nodes, Expression.sites_revise condition,
    Expression.sites_revise result]

theorem Statement.sites_revise (s : Statement) :
    sitesIn (s.revise moves.step).value.nodes = (sitesIn s.nodes).map moves.follow := by
  cases s with
  | evaluate e =>
    simp [Statement.revise, Statement.nodes, Node.site?, Expression.sites_revise e]
  | declare name type initializer isVariable =>
    simp [Statement.revise, Statement.nodes, Node.site?,
      Expression.sites_reviseOption initializer]
  | assign name value =>
    simp [Statement.revise, Statement.nodes, Node.site?, Expression.sites_revise value]
  | assignField receiver field value =>
    simp [Statement.revise, Statement.nodes, Node.site?, Expression.sites_reviseOption receiver,
      Expression.sites_revise value]
  | returns value =>
    simp [Statement.revise, Statement.nodes, Node.site?, Expression.sites_reviseOption value]
  | conditional condition thenBranch elseBranch =>
    simp [Statement.revise, Statement.nodes, Node.site?, Expression.sites_revise condition,
      Statement.sites_reviseList thenBranch, Statement.sites_reviseList elseBranch]
  | loop condition body =>
    simp [Statement.revise, Statement.nodes, Node.site?, Expression.sites_revise condition,
      Statement.sites_reviseList body]
  | throws value =>
    simp [Statement.revise, Statement.nodes, Node.site?, Expression.sites_revise value]

theorem Expression.sites_reviseOption (e : Option Expression) :
    sitesIn (Expression.optionNodes (Expression.reviseOption moves.step e).value) =
      (sitesIn (Expression.optionNodes e)).map moves.follow := by
  cases e with
  | none => rfl
  | some e => exact Expression.sites_revise e

theorem Expression.sites_reviseList (es : List Expression) :
    sitesIn (Expression.listNodes (Expression.reviseList moves.step es).value) =
      (sitesIn (Expression.listNodes es)).map moves.follow := by
  cases es with
  | nil => rfl
  | cons e rest =>
    simp [Expression.reviseList, Expression.listNodes, Expression.sites_revise e,
      Expression.sites_reviseList rest]

theorem Expression.sites_reviseArguments (es : List (Option Expression)) :
    sitesIn (Expression.argumentNodes (Expression.reviseArguments moves.step es).value) =
      (sitesIn (Expression.argumentNodes es)).map moves.follow := by
  cases es with
  | nil => rfl
  | cons e rest =>
    simp [Expression.reviseArguments, Expression.argumentNodes, Expression.sites_reviseOption e,
      Expression.sites_reviseArguments rest]

theorem Branch.sites_reviseList (bs : List Branch) :
    sitesIn (Branch.listNodes (Branch.reviseList moves.step bs).value) =
      (sitesIn (Branch.listNodes bs)).map moves.follow := by
  cases bs with
  | nil => rfl
  | cons b rest =>
    simp [Branch.reviseList, Branch.listNodes, Branch.sites_revise b, Branch.sites_reviseList rest]

theorem Statement.sites_reviseList (ss : List Statement) :
    sitesIn (Statement.listNodes (Statement.reviseList moves.step ss).value) =
      (sitesIn (Statement.listNodes ss)).map moves.follow := by
  cases ss with
  | nil => rfl
  | cons s rest =>
    simp [Statement.reviseList, Statement.listNodes, Statement.sites_revise s,
      Statement.sites_reviseList rest]

end

theorem sites_reviseBody (body : Option (List Statement)) :
    sitesIn (bodyNodes (reviseBody moves.step body).value) =
      (sitesIn (bodyNodes body)).map moves.follow := by
  cases body with
  | none => rfl
  | some statements => simp [reviseBody, bodyNodes, Node.site?, Statement.sites_reviseList]

theorem sites_reviseParameters (ps : List ValueParameter) :
    sitesIn ((Tally.each (·.revise moves.step) ps).value.flatMap ValueParameter.nodes) =
      (sitesIn (ps.flatMap ValueParameter.nodes)).map moves.follow := by
  have hParameter (p : ValueParameter) :
      sitesIn (p.revise moves.step).value.nodes = (sitesIn p.nodes).map moves.follow := by
    simp [ValueParameter.revise, ValueParameter.nodes, Node.site?, Expression.sites_reviseOption]
  rw [Tally.value_each, sitesIn_flatMap, sitesIn_flatMap, List.flatMap_map, List.map_flatMap]
  simp only [hParameter]

theorem FunctionDecl.sites_revise (d : FunctionDecl) :
    sitesIn (d.revise moves.step).value.nodes = (sitesIn d.nodes).map moves.follow := by
  have hReceiver : sitesIn ((Tally.each (·.revise moves.step)
      d.extensionReceiver.toList).value.head?.toList.flatMap ValueParameter.nodes) =
        (sitesIn (d.extensionReceiver.toList.flatMap ValueParameter.nodes)).map moves.follow := by
    rw [← sites_reviseParameters]
    cases d.extensionReceiver <;> rfl
  simp only [FunctionDecl.revise, FunctionDecl.nodes, Tally.value_bind, Tally.value_pure,
    sitesIn_append, hReceiver, sites_reviseParameters, sites_reviseBody, sitesIn_callable,
    sitesIn_typeParameters, sitesIn_type, sitesIn_annotations, List.map_append, List.map_nil]

theorem ConstructorDecl.sites_revise (d : ConstructorDecl) :
    sitesIn (d.revise moves.step).value.nodes = (sitesIn d.nodes).map moves.follow := by
  have hDelegation : sitesIn ((Tally.each (·.revise moves.step)
      d.delegation.toList).value.head?.toList.flatMap (Expression.argumentNodes ·.arguments)) =
        (sitesIn (d.delegation.toList.flatMap
          (Expression.argumentNodes ·.arguments))).map moves.follow := by
    cases d.delegation with
    | none => rfl
    | some delegation =>
      simp [Tally.each, Delegation.revise, Expression.sites_reviseArguments]
  simp only [ConstructorDecl.revise, ConstructorDecl.nodes, Tally.value_bind, Tally.value_pure,
    sitesIn_cons, sitesIn_append, hDelegation, sites_reviseParameters, sites_reviseBody, Node.site?,
    Option.toList_none, List.nil_append, List.map_append]

theorem PropertyDecl.sites_revise (d : PropertyDecl) :
    sitesIn (d.revise moves.step).value.nodes = (sitesIn d.nodes).map moves.follow := by
  simp [PropertyDecl.revise, PropertyDecl.nodes, sites_reviseBody, Expression.sites_reviseOption]

theorem FieldDecl.sites_revise (d : FieldDecl) :
    sitesIn (d.revise moves.step).value.nodes = (sitesIn d.nodes).map moves.follow := by
  simp [FieldDecl.revise, FieldDecl.nodes, Expression.sites_reviseOption]

mutual

theorem ClassDecl.sites_revise (c : ClassDecl) :
    sitesIn (c.revise moves.step).value.nodes = (sitesIn c.nodes).map moves.follow := by
  obtain ⟨id, kind, modality, visibility, isLocal, isValue, isExpect, isExternal, isCompanion,
    typeParameters, supertypes, annotations, enumEntries, declarations, origin⟩ := c
  simp [ClassDecl.revise, ClassDecl.nodes, Node.site?, Declaration.sites_reviseList declarations]

theorem Declaration.sites_revise (d : Declaration) :
    sitesIn (d.revise moves.step).value.nodes = (sitesIn d.nodes).map moves.follow := by
  cases d with
  | ofClass decl =>
    simp [Declaration.revise, Declaration.nodes, Node.site?, ClassDecl.sites_revise decl]
  | function decl =>
    simp [Declaration.revise, Declaration.nodes, Node.site?, FunctionDecl.sites_revise]
  | constructor decl =>
    simp [Declaration.revise, Declaration.nodes, Node.site?, ConstructorDecl.sites_revise]
  | property decl =>
    simp [Declaration.revise, Declaration.nodes, Node.site?, PropertyDecl.sites_revise]
  | field decl =>
    simp [Declaration.revise, Declaration.nodes, Node.site?, FieldDecl.sites_revise]

theorem Declaration.sites_reviseList (ds : List Declaration) :
    sitesIn (Declaration.listNodes (Declaration.reviseList moves.step ds).value) =
      (sitesIn (Declaration.listNodes ds)).map moves.follow := by
  cases ds with
  | nil => rfl
  | cons d rest =>
    simp [Declaration.reviseList, Declaration.listNodes, Declaration.sites_revise d,
      Declaration.sites_reviseList rest]

end

/-- Every call site follows the moves, and nothing else becomes of it. -/
theorem SourceModule.sites_retarget (m : SourceModule) :
    (m.retarget moves).sites = m.sites.map moves.follow := by
  have hFile (f : SourceFile) :
      sitesIn (f.revise moves.step).value.nodes = (sitesIn f.nodes).map moves.follow := by
    simp [SourceFile.revise, SourceFile.nodes, Node.site?, Declaration.sites_reviseList]
  simp only [SourceModule.retarget, SourceModule.revise, SourceModule.sites, SourceModule.nodes,
    Tally.value_bind, Tally.value_pure, Tally.value_each, sitesIn_flatMap, List.flatMap_map,
    List.map_flatMap, hFile]

end Retarget

end KotlinBackend
