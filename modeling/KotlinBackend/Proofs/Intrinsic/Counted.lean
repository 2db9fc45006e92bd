import KotlinBackend.Proofs.Intrinsic.Replaced
import KotlinBackend.Proofs.Settled.Revision

/-!
# Types and counts under intrinsics

The expressions of a program, in the order of the source text, have the same types before and after
calls are replaced, and the number that is counted is that of the calls that qualify in the program
as it was written. Both add up along the syntax, so they are proved in one induction.
-/

namespace KotlinBackend

/-- The expressions among some nodes. -/
def expressionsIn (nodes : List Node) : List Expression := nodes.filterMap Node.expression?

def Expression.call? : Expression → Option Call
  | .call c => some c
  | _ => none

def SourceFile.expressions (f : SourceFile) : List Expression := expressionsIn f.nodes

/-- The calls of a file, those inside of other calls included. -/
def SourceFile.calls (f : SourceFile) : List Call := f.expressions.filterMap Expression.call?

section Lists

variable {nodes nodes' : List Node}

@[simp] theorem expressionsIn_nil : expressionsIn [] = [] := rfl

@[simp] theorem expressionsIn_append :
    expressionsIn (nodes ++ nodes') = expressionsIn nodes ++ expressionsIn nodes' :=
  List.filterMap_append

@[simp] theorem expressionsIn_expression {e : Expression} :
    expressionsIn (.expression e :: nodes) = e :: expressionsIn nodes := rfl

@[simp] theorem expressionsIn_statement :
    expressionsIn (.statement :: nodes) = expressionsIn nodes := rfl

@[simp] theorem expressionsIn_classRef {id : ClassId} :
    expressionsIn (.classRef id :: nodes) = expressionsIn nodes := rfl

@[simp] theorem expressionsIn_parameter {name : String} :
    expressionsIn (.parameter name :: nodes) = expressionsIn nodes := rfl

@[simp] theorem expressionsIn_classRefs {ids : List ClassId} :
    expressionsIn (ids.map .classRef) = [] := by
  induction ids with
  | nil => rfl
  | cons id rest ih => exact ih

@[simp] theorem expressionsIn_type {t : SourceType} : expressionsIn t.nodes = [] :=
  expressionsIn_classRefs

@[simp] theorem expressionsIn_callable {id : CallableId} : expressionsIn id.nodes = [] :=
  expressionsIn_classRefs

theorem expressionsIn_flatMap {α : Type} {items : List α} {nodesOf : α → List Node} :
    expressionsIn (items.flatMap nodesOf) = items.flatMap fun a => expressionsIn (nodesOf a) := by
  induction items with
  | nil => rfl
  | cons a rest ih => simp [ih]

@[simp] theorem expressionsIn_types {types : List SourceType} :
    expressionsIn (SourceType.listNodes types) = [] := by
  simp [SourceType.listNodes, expressionsIn_flatMap]

@[simp] theorem expressionsIn_typeParameters {ps : List TypeParameter} :
    expressionsIn (ps.flatMap TypeParameter.nodes) = [] := by
  simp [expressionsIn_flatMap, TypeParameter.nodes]

@[simp] theorem expressionsIn_annotations {uses : List AnnotationUse} :
    expressionsIn (uses.flatMap AnnotationUse.nodes) = [] := by
  rw [expressionsIn_flatMap, List.flatMap_eq_nil_iff]
  intro use _
  rfl

/-- The expressions of a call are those of its operands. -/
theorem expressionsIn_call (c : Call) :
    expressionsIn c.nodes = expressionsIn (Expression.argumentNodes c.operands) := by
  obtain ⟨callee, dispatchReceiver, extensionReceiver, arguments, typeArguments, type⟩ := c
  cases dispatchReceiver <;> cases extensionReceiver <;>
    simp [Call.nodes, Call.operands, Expression.argumentNodes, Expression.optionNodes]

end Lists

/-- Expressions and what became of them: the types are the same one by one, and what is counted are
the calls that qualify. -/
structure Balanced (es es' : List Expression) (count : Nat) : Prop where
  types : es'.map Expression.type = es.map Expression.type
  count : count = (es.filterMap Expression.call?).countP fun c => ∃ i, c.Qualifies i

namespace Balanced

variable {es es' : List Expression} {n : Nat}

theorem nil : Balanced [] [] 0 := ⟨rfl, rfl⟩

theorem append {fs fs' : List Expression} {k : Nat} (h : Balanced es es' n)
    (h' : Balanced fs fs' k) : Balanced (es ++ fs) (es' ++ fs') (n + k) where
  types := by rw [List.map_append, List.map_append, h.types, h'.types]
  count := by rw [List.filterMap_append, List.countP_append, h.count, h'.count]

/-- An expression around others that is no call. -/
theorem around {e e' : Expression} (h : Balanced es es' n) (hCall : e.call? = none)
    (hType : e'.type = e.type) : Balanced (e :: es) (e' :: es') n where
  types := by rw [List.map_cons, List.map_cons, hType, h.types]
  count := by rw [List.filterMap_cons_none hCall, h.count]

theorem aroundReplaced {c : Call} {e' : Expression} {i : Intrinsic} (h : Balanced es es' n)
    (hQualifies : c.Qualifies i) (hType : e'.type = c.type) :
    Balanced (.call c :: es) (e' :: es') (n + 1) where
  types := by
    rw [List.map_cons, List.map_cons, hType, h.types]
    rfl
  count := by
    have hCall : (Expression.call c).call? = some c := rfl
    have hCounted : decide (∃ i, c.Qualifies i) = true := decide_eq_true ⟨i, hQualifies⟩
    rw [List.filterMap_cons_some hCall, List.countP_cons, if_pos hCounted, h.count]

theorem aroundKept {c : Call} {e' : Expression} (h : Balanced es es' n)
    (hKept : ∀ i, ¬ c.Qualifies i) (hType : e'.type = c.type) :
    Balanced (.call c :: es) (e' :: es') n where
  types := by
    rw [List.map_cons, List.map_cons, hType, h.types]
    rfl
  count := by
    have hCall : (Expression.call c).call? = some c := rfl
    have hNotCounted : ¬ decide (∃ i, c.Qualifies i) = true := by
      rw [decide_eq_true_eq, not_exists]
      exact hKept
    rw [List.filterMap_cons_some hCall, List.countP_cons, if_neg hNotCounted, h.count,
      Nat.add_zero]

end Balanced

/-- A part of a program and its revision. -/
abbrev BalancedRevision {α : Type} (nodesOf : α → List Node) (a : α) (revised : Tally α) : Prop :=
  Balanced (expressionsIn (nodesOf a)) (expressionsIn (nodesOf revised.value)) revised.count

-- Only calls have a step, so that an expression of any other form is put together again from its
-- revised parts.
theorem Balanced.revise_of_none {e e₁ : Expression} {es es' : List Expression} {n : Nat}
    {parts : List Node} (h : Balanced es es' n) (hCall : e.call? = none)
    (hStep : intrinsicStep e₁ = none) (hType : e₁.type = e.type)
    (hNodes : e₁.nodes = .expression e₁ :: parts) (hParts : expressionsIn parts = es') :
    Balanced (e :: es) (expressionsIn (Expression.replace intrinsicStep e₁).value.nodes)
      (n + (Expression.replace intrinsicStep e₁).count) := by
  rw [Expression.replace, hStep]
  rw [Tally.value_pure, Tally.count_pure, hNodes, expressionsIn_expression, hParts]
  exact h.around hCall hType

theorem Balanced.leaf {e : Expression} {parts : List Node} (hCall : e.call? = none)
    (hNodes : e.nodes = .expression e :: parts) (hParts : expressionsIn parts = []) :
    Balanced (expressionsIn e.nodes) (expressionsIn e.nodes) 0 := by
  rw [hNodes, expressionsIn_expression, hParts]
  exact Balanced.nil.around hCall rfl

/-- A call around operands that were revised; whether it is replaced is decided last. -/
theorem Balanced.ofCall {c : Call} (h : BalancedRevision Call.nodes c (c.revise intrinsicStep)) :
    BalancedRevision Expression.nodes (.call c) ((Expression.call c).revise intrinsicStep) := by
  have hSame := Call.qualifies_revise c
  have hType : (c.revise intrinsicStep).value.type = c.type := by
    cases c
    rfl
  rw [BalancedRevision, Expression.nodes, expressionsIn_expression, Expression.revise,
    Tally.value_bind, Tally.count_bind]
  generalize c.revise intrinsicStep = revised at h hSame hType ⊢
  rw [Expression.replace]
  cases hStep : intrinsicStep (.call revised.value) with
  | some e =>
    obtain ⟨i, hQualifies, rfl⟩ := intrinsicStep_eq_some_iff.mp hStep
    have hOperands : expressionsIn (i.call revised.value.operands revised.value.type).nodes =
        expressionsIn revised.value.nodes := by
      rw [expressionsIn_call, expressionsIn_call]
      rfl
    simp only [Tally.value_once, Tally.count_once, Expression.nodes, expressionsIn_expression,
      hOperands]
    exact h.aroundReplaced ((hSame i).mp hQualifies) hType
  | none =>
    have hKept (i : Intrinsic) : ¬ c.Qualifies i := by
      intro hQualifies
      have hSome := isSome_intrinsicStep_iff.mpr ⟨i, (hSame i).mpr hQualifies⟩
      rw [hStep] at hSome
      cases hSome
    simp only [Tally.value_pure, Tally.count_pure, Expression.nodes, expressionsIn_expression,
      Nat.add_zero]
    exact h.aroundKept hKept hType

mutual

theorem Expression.balanced_revise (e : Expression) :
    BalancedRevision Expression.nodes e (e.revise intrinsicStep) := by
  cases e with
  | constant value => exact Balanced.leaf rfl rfl expressionsIn_nil
  | readValue name type => exact Balanced.leaf rfl rfl expressionsIn_type
  | self type => exact Balanced.leaf rfl rfl expressionsIn_type
  | readField receiver field type =>
    rw [BalancedRevision, Expression.nodes, expressionsIn_expression, expressionsIn_append,
      expressionsIn_type, List.append_nil, Expression.revise]
    exact (Expression.balanced_reviseOption receiver).revise_of_none rfl rfl rfl rfl (by simp)
  | object id => exact Balanced.leaf rfl rfl rfl
  | call c => exact Balanced.ofCall (Call.balanced_revise c)
  | construct id typeArguments arguments =>
    rw [BalancedRevision, Expression.nodes, expressionsIn_expression,
      expressionsIn_classRef, expressionsIn_append, expressionsIn_types, List.nil_append,
      Expression.revise]
    exact (Expression.balanced_reviseArguments arguments).revise_of_none rfl rfl rfl rfl
      (by rw [expressionsIn_classRef, expressionsIn_append, expressionsIn_types, List.nil_append])
  | concatenation parts =>
    rw [BalancedRevision, Expression.nodes, expressionsIn_expression, Expression.revise]
    exact (Expression.balanced_reviseList parts).revise_of_none rfl rfl rfl rfl rfl
  | typeOperation operator operand type =>
    rw [BalancedRevision, Expression.nodes, expressionsIn_expression, expressionsIn_append,
      expressionsIn_type, List.append_nil, Expression.revise]
    exact (Expression.balanced_revise operand).revise_of_none rfl rfl rfl rfl (by simp)
  | «when» branches type =>
    rw [BalancedRevision, Expression.nodes, expressionsIn_expression, expressionsIn_append,
      expressionsIn_type, List.append_nil, Expression.revise]
    exact (Branch.balanced_reviseList branches).revise_of_none rfl rfl rfl rfl (by simp)
  | block statements type =>
    rw [BalancedRevision, Expression.nodes, expressionsIn_expression, expressionsIn_append,
      expressionsIn_type, List.append_nil, Expression.revise]
    exact (Statement.balanced_reviseList statements).revise_of_none rfl rfl rfl rfl (by simp)
  | unsupported kind => exact Balanced.leaf rfl rfl expressionsIn_nil

theorem Call.balanced_revise (c : Call) :
    BalancedRevision Call.nodes c (c.revise intrinsicStep) := by
  obtain ⟨callee, dispatchReceiver, extensionReceiver, arguments, typeArguments, type⟩ := c
  have h := ((Expression.balanced_reviseOption dispatchReceiver).append
    (Expression.balanced_reviseOption extensionReceiver)).append
    (Expression.balanced_reviseArguments arguments)
  simpa [BalancedRevision, Call.nodes, Call.revise, Nat.add_assoc] using h

theorem Branch.balanced_revise (b : Branch) :
    BalancedRevision Branch.nodes b (b.revise intrinsicStep) := by
  obtain ⟨condition, result⟩ := b
  rw [BalancedRevision, Branch.nodes, expressionsIn_append, Branch.revise]
  simp only [Tally.value_bind, Tally.count_bind, Tally.value_pure, Tally.count_pure, Branch.nodes,
    expressionsIn_append, Nat.add_zero]
  exact (Expression.balanced_revise condition).append (Expression.balanced_revise result)

theorem Statement.balanced_revise (s : Statement) :
    BalancedRevision Statement.nodes s (s.revise intrinsicStep) := by
  cases s with
  | evaluate e => exact Expression.balanced_revise e
  | declare name type value isVariable =>
    have h := Expression.balanced_reviseOption value
    simpa [BalancedRevision, Statement.nodes, Statement.revise] using h
  | assign name value => exact Expression.balanced_revise value
  | assignField receiver field value =>
    have h := (Expression.balanced_reviseOption receiver).append
      (Expression.balanced_revise value)
    simpa [BalancedRevision, Statement.nodes, Statement.revise] using h
  | returns value => exact Expression.balanced_reviseOption value
  | conditional condition yes no =>
    have h := ((Expression.balanced_revise condition).append
      (Statement.balanced_reviseList yes)).append (Statement.balanced_reviseList no)
    simpa [BalancedRevision, Statement.nodes, Statement.revise, Nat.add_assoc] using h
  | loop condition body =>
    have h := (Expression.balanced_revise condition).append (Statement.balanced_reviseList body)
    simpa [BalancedRevision, Statement.nodes, Statement.revise] using h
  | throws value => exact Expression.balanced_revise value

theorem Expression.balanced_reviseOption (e : Option Expression) :
    BalancedRevision Expression.optionNodes e (Expression.reviseOption intrinsicStep e) := by
  cases e with
  | none => exact Balanced.nil
  | some e => exact Expression.balanced_revise e

theorem Expression.balanced_reviseList (es : List Expression) :
    BalancedRevision Expression.listNodes es (Expression.reviseList intrinsicStep es) := by
  cases es with
  | nil => exact Balanced.nil
  | cons e rest =>
    have h := (Expression.balanced_revise e).append (Expression.balanced_reviseList rest)
    simpa [BalancedRevision, Expression.listNodes, Expression.reviseList] using h

theorem Expression.balanced_reviseArguments (es : List (Option Expression)) :
    BalancedRevision Expression.argumentNodes es
      (Expression.reviseArguments intrinsicStep es) := by
  cases es with
  | nil => exact Balanced.nil
  | cons e rest =>
    have h := (Expression.balanced_reviseOption e).append
      (Expression.balanced_reviseArguments rest)
    simpa [BalancedRevision, Expression.argumentNodes, Expression.reviseArguments] using h

theorem Branch.balanced_reviseList (bs : List Branch) :
    BalancedRevision Branch.listNodes bs (Branch.reviseList intrinsicStep bs) := by
  cases bs with
  | nil => exact Balanced.nil
  | cons b rest =>
    have h := (Branch.balanced_revise b).append (Branch.balanced_reviseList rest)
    simpa [BalancedRevision, Branch.listNodes, Branch.reviseList] using h

theorem Statement.balanced_reviseList (ss : List Statement) :
    BalancedRevision Statement.listNodes ss (Statement.reviseList intrinsicStep ss) := by
  cases ss with
  | nil => exact Balanced.nil
  | cons s rest =>
    have h := (Statement.balanced_revise s).append (Statement.balanced_reviseList rest)
    simpa [BalancedRevision, Statement.listNodes, Statement.reviseList] using h

end

theorem balanced_each {α : Type} {nodesOf : α → List Node} {f : α → Tally α}
    (h : ∀ a, BalancedRevision nodesOf a (f a)) (items : List α) :
    BalancedRevision (·.flatMap nodesOf) items (Tally.each f items) := by
  induction items with
  | nil => exact Balanced.nil
  | cons a rest ih =>
    have hWhole := (h a).append ih
    simpa [BalancedRevision, Tally.each] using hWhole

theorem balanced_eachOption {α : Type} {nodesOf : α → List Node} {f : α → Tally α}
    (h : ∀ a, BalancedRevision nodesOf a (f a)) (item : Option α) :
    Balanced (expressionsIn (item.toList.flatMap nodesOf))
      (expressionsIn ((Tally.each f item.toList).value.head?.toList.flatMap nodesOf))
      (Tally.each f item.toList).count := by
  cases item with
  | none => exact Balanced.nil
  | some a => exact balanced_each h [a]

theorem balanced_reviseBody (body : Option (List Statement)) :
    BalancedRevision bodyNodes body (reviseBody intrinsicStep body) := by
  cases body with
  | none => exact Balanced.nil
  | some statements => exact Statement.balanced_reviseList statements

theorem ValueParameter.balanced_revise (p : ValueParameter) :
    BalancedRevision ValueParameter.nodes p (p.revise intrinsicStep) := by
  have h := Expression.balanced_reviseOption p.defaultValue
  simpa [BalancedRevision, ValueParameter.nodes, ValueParameter.revise] using h

theorem FunctionDecl.balanced_revise (d : FunctionDecl) :
    BalancedRevision FunctionDecl.nodes d (d.revise intrinsicStep) := by
  have h := ((balanced_eachOption ValueParameter.balanced_revise d.extensionReceiver).append
    (balanced_each ValueParameter.balanced_revise d.valueParameters)).append
    (balanced_reviseBody d.body)
  simpa [BalancedRevision, FunctionDecl.nodes, FunctionDecl.revise, Nat.add_assoc] using h

theorem Delegation.balanced_revise (d : Delegation) :
    BalancedRevision (Expression.argumentNodes ·.arguments) d (d.revise intrinsicStep) :=
  Expression.balanced_reviseArguments d.arguments

theorem ConstructorDecl.balanced_revise (d : ConstructorDecl) :
    BalancedRevision ConstructorDecl.nodes d (d.revise intrinsicStep) := by
  have h := ((balanced_each ValueParameter.balanced_revise d.valueParameters).append
    (balanced_eachOption Delegation.balanced_revise d.delegation)).append
    (balanced_reviseBody d.body)
  simpa [BalancedRevision, ConstructorDecl.nodes, ConstructorDecl.revise, Nat.add_assoc] using h

theorem PropertyDecl.balanced_revise (d : PropertyDecl) :
    BalancedRevision PropertyDecl.nodes d (d.revise intrinsicStep) := by
  have h := ((balanced_reviseBody d.getter).append (balanced_reviseBody d.setter)).append
    (Expression.balanced_reviseOption d.initializer)
  simpa [BalancedRevision, PropertyDecl.nodes, PropertyDecl.revise, Nat.add_assoc] using h

theorem FieldDecl.balanced_revise (d : FieldDecl) :
    BalancedRevision FieldDecl.nodes d (d.revise intrinsicStep) := by
  have h := Expression.balanced_reviseOption d.initializer
  simpa [BalancedRevision, FieldDecl.nodes, FieldDecl.revise] using h

mutual

theorem ClassDecl.balanced_revise (c : ClassDecl) :
    BalancedRevision ClassDecl.nodes c (c.revise intrinsicStep) := by
  obtain ⟨id, kind, modality, visibility, isLocal, isValue, isExpect, isExternal, isCompanion,
    typeParameters, supertypes, annotations, enumEntries, declarations, origin⟩ := c
  have h := Declaration.balanced_reviseList declarations
  simpa [BalancedRevision, ClassDecl.nodes, ClassDecl.revise] using h

theorem Declaration.balanced_revise (d : Declaration) :
    BalancedRevision Declaration.nodes d (d.revise intrinsicStep) := by
  cases d with
  | ofClass decl => exact ClassDecl.balanced_revise decl
  | function decl => exact decl.balanced_revise
  | constructor decl => exact decl.balanced_revise
  | property decl => exact decl.balanced_revise
  | field decl => exact decl.balanced_revise

theorem Declaration.balanced_reviseList (ds : List Declaration) :
    BalancedRevision Declaration.listNodes ds (Declaration.reviseList intrinsicStep ds) := by
  cases ds with
  | nil => exact Balanced.nil
  | cons d rest =>
    have h := (Declaration.balanced_revise d).append (Declaration.balanced_reviseList rest)
    simpa [BalancedRevision, Declaration.listNodes, Declaration.reviseList] using h

end

theorem SourceFile.balanced_useIntrinsics (f : SourceFile) :
    BalancedRevision SourceFile.nodes f f.useIntrinsics :=
  Declaration.balanced_reviseList f.declarations

/-- Exactly the calls that qualify as they are written are replaced, each at once and with all its
operands. Every expression keeps its type, and the count is that of the calls that qualify. -/
theorem SourceFile.useIntrinsics_exact (f : SourceFile) :
    f.WithIntrinsics f.useIntrinsics.value ∧
      f.useIntrinsics.value.expressions.map Expression.type = f.expressions.map Expression.type ∧
      f.useIntrinsics.count = f.calls.countP fun c => ∃ i, c.Qualifies i :=
  ⟨f.withIntrinsics_useIntrinsics, f.balanced_useIntrinsics.types, f.balanced_useIntrinsics.count⟩

end KotlinBackend
