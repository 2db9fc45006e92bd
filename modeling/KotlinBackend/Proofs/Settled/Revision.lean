import KotlinBackend.Program.Node
import KotlinBackend.Program.Revision

/-!
# Settled programs

A program is settled for a step if no expression in it has the step. A revision leaves a settled
program as it is and counts nothing. Conversely one revision settles a program, provided that what a
step gives is settled once the parts of the expression were: the induction works from the inside
out, so a replaced expression is not looked at again.
-/

namespace KotlinBackend

theorem Tally.pure_bind {α β : Type} (a : α) (f : α → Tally β) : (pure a >>= f) = f a := by
  have hCount : (pure a >>= f).count = (f a).count := Nat.zero_add _
  calc (pure a >>= f) = ⟨(f a).value, (pure a >>= f).count⟩ := rfl
    _ = f a := by rw [hCount]

theorem Tally.each_eq_pure {α : Type} {f : α → Tally α} {items : List α}
    (h : ∀ a ∈ items, f a = pure a) : Tally.each f items = pure items := by
  induction items with
  | nil => rfl
  | cons a rest ih =>
    have hRest := ih fun b hb => h b (List.mem_cons_of_mem _ hb)
    rw [Tally.each, h a List.mem_cons_self, Tally.pure_bind, hRest, Tally.pure_bind]

def Node.expression? : Node → Option Expression
  | .expression e => some e
  | _ => none

/-- No expression among some nodes has a step. -/
def SettledIn (step : Expression → Option Expression) (nodes : List Node) : Prop :=
  ∀ e ∈ nodes.filterMap Node.expression?, step e = none

section Lists

variable {step : Expression → Option Expression} {nodes nodes' : List Node}

theorem SettledIn.of_subset (h : SettledIn step nodes) (hSubset : nodes' ⊆ nodes) :
    SettledIn step nodes' :=
  fun e he => h e (List.filterMap_subset _ hSubset he)

@[simp] theorem settledIn_nil : SettledIn step [] := by simp [SettledIn]

@[simp] theorem settledIn_cons {node : Node} :
    SettledIn step (node :: nodes) ↔
      (∀ e, node.expression? = some e → step e = none) ∧ SettledIn step nodes := by
  cases h : node.expression? <;> simp [SettledIn, h]

@[simp] theorem settledIn_append :
    SettledIn step (nodes ++ nodes') ↔ SettledIn step nodes ∧ SettledIn step nodes' := by
  simp only [SettledIn, List.filterMap_append, List.forall_mem_append]

theorem settledIn_flatMap {α : Type} {items : List α} {f : α → List Node} :
    SettledIn step (items.flatMap f) ↔ ∀ a ∈ items, SettledIn step (f a) := by
  induction items with
  | nil => simp
  | cons a rest ih => simp [ih]

@[simp] theorem settledIn_classRefs {ids : List ClassId} :
    SettledIn step (ids.map .classRef) := by
  induction ids with
  | nil => exact settledIn_nil
  | cons id rest ih => simp [ih, Node.expression?]

@[simp] theorem settledIn_type {t : SourceType} : SettledIn step t.nodes := by
  simp [SourceType.nodes, Node.expression?]

@[simp] theorem settledIn_types {types : List SourceType} :
    SettledIn step (SourceType.listNodes types) := by
  rw [SourceType.listNodes, settledIn_flatMap]
  exact fun _ _ => settledIn_type

@[simp] theorem settledIn_callable {id : CallableId} : SettledIn step id.nodes := by
  simp [CallableId.nodes, Node.expression?]

theorem settledIn_argumentNodes {es : List (Option Expression)} :
    SettledIn step (Expression.argumentNodes es) ↔
      ∀ e, some e ∈ es → SettledIn step e.nodes := by
  induction es with
  | nil => simp [Expression.argumentNodes]
  | cons first rest ih =>
    cases first <;> simp [Expression.argumentNodes, Expression.optionNodes, ih]

@[simp] theorem settledIn_typeParameters {ps : List TypeParameter} :
    SettledIn step (ps.flatMap TypeParameter.nodes) := by
  rw [settledIn_flatMap]
  exact fun _ _ => settledIn_types

@[simp] theorem settledIn_annotations {uses : List AnnotationUse} :
    SettledIn step (uses.flatMap AnnotationUse.nodes) := by
  rw [settledIn_flatMap]
  intro use _
  simp [AnnotationUse.nodes, Node.expression?]

end Lists

section Stable

variable {step : Expression → Option Expression}

theorem Expression.replace_of_none {e : Expression} (h : step e = none) :
    Expression.replace step e = pure e := by
  rw [Expression.replace, h]

mutual

theorem Expression.revise_of_settled (e : Expression) (h : SettledIn step e.nodes) :
    e.revise step = pure e := by
  cases e with
  | constant | readValue | self | object | unsupported =>
    simp only [Expression.nodes, settledIn_cons] at h
    exact Expression.replace_of_none (h.1 _ rfl)
  | readField receiver field type =>
    simp only [Expression.nodes, settledIn_cons, settledIn_append] at h
    obtain ⟨hStep, hReceiver, _⟩ := h
    rw [Expression.revise, Expression.reviseOption_of_settled receiver hReceiver, Tally.pure_bind]
    exact Expression.replace_of_none (hStep _ rfl)
  | call c =>
    simp only [Expression.nodes, settledIn_cons] at h
    rw [Expression.revise, Call.revise_of_settled c h.2, Tally.pure_bind]
    exact Expression.replace_of_none (h.1 _ rfl)
  | construct id typeArguments arguments =>
    simp only [Expression.nodes, settledIn_cons, settledIn_append] at h
    obtain ⟨hStep, _, _, hArguments⟩ := h
    rw [Expression.revise, Expression.reviseArguments_of_settled arguments hArguments,
      Tally.pure_bind]
    exact Expression.replace_of_none (hStep _ rfl)
  | concatenation parts =>
    simp only [Expression.nodes, settledIn_cons] at h
    rw [Expression.revise, Expression.reviseList_of_settled parts h.2, Tally.pure_bind]
    exact Expression.replace_of_none (h.1 _ rfl)
  | typeOperation operator operand type =>
    simp only [Expression.nodes, settledIn_cons, settledIn_append] at h
    obtain ⟨hStep, hOperand, _⟩ := h
    rw [Expression.revise, Expression.revise_of_settled operand hOperand, Tally.pure_bind]
    exact Expression.replace_of_none (hStep _ rfl)
  | «when» branches type =>
    simp only [Expression.nodes, settledIn_cons, settledIn_append] at h
    obtain ⟨hStep, hBranches, _⟩ := h
    rw [Expression.revise, Branch.reviseList_of_settled branches hBranches, Tally.pure_bind]
    exact Expression.replace_of_none (hStep _ rfl)
  | block statements type =>
    simp only [Expression.nodes, settledIn_cons, settledIn_append] at h
    obtain ⟨hStep, hStatements, _⟩ := h
    rw [Expression.revise, Statement.reviseList_of_settled statements hStatements,
      Tally.pure_bind]
    exact Expression.replace_of_none (hStep _ rfl)

theorem Call.revise_of_settled (c : Call) (h : SettledIn step c.nodes) :
    c.revise step = pure c := by
  obtain ⟨callee, dispatchReceiver, extensionReceiver, arguments, typeArguments, type⟩ := c
  simp only [Call.nodes, settledIn_append] at h
  obtain ⟨⟨⟨⟨⟨_, hDispatch⟩, hExtension⟩, hArguments⟩, _⟩, _⟩ := h
  rw [Call.revise, Expression.reviseOption_of_settled dispatchReceiver hDispatch,
    Tally.pure_bind, Expression.reviseOption_of_settled extensionReceiver hExtension,
    Tally.pure_bind, Expression.reviseArguments_of_settled arguments hArguments, Tally.pure_bind]

theorem Branch.revise_of_settled (b : Branch) (h : SettledIn step b.nodes) :
    b.revise step = pure b := by
  obtain ⟨condition, result⟩ := b
  simp only [Branch.nodes, settledIn_append] at h
  rw [Branch.revise, Expression.revise_of_settled condition h.1, Tally.pure_bind,
    Expression.revise_of_settled result h.2, Tally.pure_bind]

theorem Statement.revise_of_settled (s : Statement) (h : SettledIn step s.nodes) :
    s.revise step = pure s := by
  cases s with
  | evaluate e =>
    simp only [Statement.nodes, settledIn_cons] at h
    rw [Statement.revise, Expression.revise_of_settled e h.2, Tally.pure_bind]
  | declare name type initializer isVariable =>
    simp only [Statement.nodes, settledIn_cons, settledIn_append] at h
    rw [Statement.revise, Expression.reviseOption_of_settled initializer h.2.2, Tally.pure_bind]
  | assign name value =>
    simp only [Statement.nodes, settledIn_cons] at h
    rw [Statement.revise, Expression.revise_of_settled value h.2, Tally.pure_bind]
  | assignField receiver field value =>
    simp only [Statement.nodes, settledIn_cons, settledIn_append] at h
    rw [Statement.revise, Expression.reviseOption_of_settled receiver h.2.1, Tally.pure_bind,
      Expression.revise_of_settled value h.2.2, Tally.pure_bind]
  | returns value =>
    simp only [Statement.nodes, settledIn_cons] at h
    rw [Statement.revise, Expression.reviseOption_of_settled value h.2, Tally.pure_bind]
  | conditional condition thenBranch elseBranch =>
    simp only [Statement.nodes, settledIn_cons, settledIn_append] at h
    obtain ⟨_, ⟨hCondition, hThen⟩, hElse⟩ := h
    rw [Statement.revise, Expression.revise_of_settled condition hCondition, Tally.pure_bind,
      Statement.reviseList_of_settled thenBranch hThen, Tally.pure_bind,
      Statement.reviseList_of_settled elseBranch hElse, Tally.pure_bind]
  | loop condition body =>
    simp only [Statement.nodes, settledIn_cons, settledIn_append] at h
    rw [Statement.revise, Expression.revise_of_settled condition h.2.1, Tally.pure_bind,
      Statement.reviseList_of_settled body h.2.2, Tally.pure_bind]
  | throws value =>
    simp only [Statement.nodes, settledIn_cons] at h
    rw [Statement.revise, Expression.revise_of_settled value h.2, Tally.pure_bind]

theorem Expression.reviseOption_of_settled (e : Option Expression)
    (h : SettledIn step (Expression.optionNodes e)) :
    Expression.reviseOption step e = pure e := by
  cases e with
  | none => rfl
  | some e => rw [Expression.reviseOption, Expression.revise_of_settled e h, Tally.pure_bind]

theorem Expression.reviseList_of_settled (es : List Expression)
    (h : SettledIn step (Expression.listNodes es)) : Expression.reviseList step es = pure es := by
  cases es with
  | nil => rfl
  | cons e rest =>
    simp only [Expression.listNodes, settledIn_append] at h
    rw [Expression.reviseList, Expression.revise_of_settled e h.1, Tally.pure_bind,
      Expression.reviseList_of_settled rest h.2, Tally.pure_bind]

theorem Expression.reviseArguments_of_settled (es : List (Option Expression))
    (h : SettledIn step (Expression.argumentNodes es)) :
    Expression.reviseArguments step es = pure es := by
  cases es with
  | nil => rfl
  | cons e rest =>
    simp only [Expression.argumentNodes, settledIn_append] at h
    rw [Expression.reviseArguments, Expression.reviseOption_of_settled e h.1, Tally.pure_bind,
      Expression.reviseArguments_of_settled rest h.2, Tally.pure_bind]

theorem Branch.reviseList_of_settled (bs : List Branch)
    (h : SettledIn step (Branch.listNodes bs)) : Branch.reviseList step bs = pure bs := by
  cases bs with
  | nil => rfl
  | cons b rest =>
    simp only [Branch.listNodes, settledIn_append] at h
    rw [Branch.reviseList, Branch.revise_of_settled b h.1, Tally.pure_bind,
      Branch.reviseList_of_settled rest h.2, Tally.pure_bind]

theorem Statement.reviseList_of_settled (ss : List Statement)
    (h : SettledIn step (Statement.listNodes ss)) : Statement.reviseList step ss = pure ss := by
  cases ss with
  | nil => rfl
  | cons s rest =>
    simp only [Statement.listNodes, settledIn_append] at h
    rw [Statement.reviseList, Statement.revise_of_settled s h.1, Tally.pure_bind,
      Statement.reviseList_of_settled rest h.2, Tally.pure_bind]

end

theorem reviseBody_of_settled (body : Option (List Statement))
    (h : SettledIn step (bodyNodes body)) : reviseBody step body = pure body := by
  cases body with
  | none => rfl
  | some statements =>
    simp only [bodyNodes, settledIn_cons] at h
    rw [reviseBody, Statement.reviseList_of_settled statements h.2, Tally.pure_bind]

theorem ValueParameter.revise_of_settled (p : ValueParameter) (h : SettledIn step p.nodes) :
    p.revise step = pure p := by
  simp only [ValueParameter.nodes, settledIn_cons, settledIn_append] at h
  rw [ValueParameter.revise, Expression.reviseOption_of_settled _ h.2.2, Tally.pure_bind]

theorem reviseParameters_of_settled (ps : List ValueParameter)
    (h : SettledIn step (ps.flatMap ValueParameter.nodes)) :
    Tally.each (·.revise step) ps = pure ps := by
  rw [settledIn_flatMap] at h
  exact Tally.each_eq_pure fun p hp => p.revise_of_settled (h p hp)

theorem FunctionDecl.revise_of_settled (d : FunctionDecl) (h : SettledIn step d.nodes) :
    d.revise step = pure d := by
  simp only [FunctionDecl.nodes, settledIn_append] at h
  obtain ⟨⟨⟨⟨⟨_, hReceiver⟩, hParameters⟩, _⟩, _⟩, hBody⟩ := h
  have hHead : d.extensionReceiver.toList.head? = d.extensionReceiver := by
    cases d.extensionReceiver <;> rfl
  rw [FunctionDecl.revise, reviseParameters_of_settled _ hReceiver, Tally.pure_bind,
    reviseParameters_of_settled _ hParameters, Tally.pure_bind, reviseBody_of_settled _ hBody,
    Tally.pure_bind, hHead]

theorem ConstructorDecl.revise_of_settled (d : ConstructorDecl) (h : SettledIn step d.nodes) :
    d.revise step = pure d := by
  simp only [ConstructorDecl.nodes, settledIn_cons, settledIn_append] at h
  obtain ⟨_, ⟨hParameters, hDelegation⟩, hBody⟩ := h
  have hHead : d.delegation.toList.head? = d.delegation := by cases d.delegation <;> rfl
  have hArguments : Tally.each (·.revise step) d.delegation.toList = pure d.delegation.toList := by
    rw [settledIn_flatMap] at hDelegation
    refine Tally.each_eq_pure fun delegation hMem => ?_
    rw [Delegation.revise, Expression.reviseArguments_of_settled _ (hDelegation delegation hMem),
      Tally.pure_bind]
  rw [ConstructorDecl.revise, reviseParameters_of_settled _ hParameters, Tally.pure_bind,
    hArguments, Tally.pure_bind, reviseBody_of_settled _ hBody, Tally.pure_bind, hHead]

theorem PropertyDecl.revise_of_settled (d : PropertyDecl) (h : SettledIn step d.nodes) :
    d.revise step = pure d := by
  simp only [PropertyDecl.nodes, settledIn_append] at h
  obtain ⟨⟨⟨_, hGetter⟩, hSetter⟩, hInitializer⟩ := h
  rw [PropertyDecl.revise, reviseBody_of_settled _ hGetter, Tally.pure_bind,
    reviseBody_of_settled _ hSetter, Tally.pure_bind,
    Expression.reviseOption_of_settled _ hInitializer, Tally.pure_bind]

theorem FieldDecl.revise_of_settled (d : FieldDecl) (h : SettledIn step d.nodes) :
    d.revise step = pure d := by
  simp only [FieldDecl.nodes, settledIn_append] at h
  rw [FieldDecl.revise, Expression.reviseOption_of_settled _ h.2, Tally.pure_bind]

mutual

theorem ClassDecl.revise_of_settled (c : ClassDecl) (h : SettledIn step c.nodes) :
    c.revise step = pure c := by
  obtain ⟨id, kind, modality, visibility, isLocal, isValue, isExpect, isExternal, isCompanion,
    typeParameters, supertypes, annotations, enumEntries, declarations, origin⟩ := c
  simp only [ClassDecl.nodes, settledIn_cons, settledIn_append] at h
  rw [ClassDecl.revise, Declaration.reviseList_of_settled declarations h.2.2, Tally.pure_bind]

theorem Declaration.revise_of_settled (d : Declaration) (h : SettledIn step d.nodes) :
    d.revise step = pure d := by
  cases d with
  | ofClass decl =>
    simp only [Declaration.nodes, settledIn_cons] at h
    rw [Declaration.revise, ClassDecl.revise_of_settled decl h.2, Tally.pure_bind]
  | function decl =>
    simp only [Declaration.nodes, settledIn_cons] at h
    rw [Declaration.revise, FunctionDecl.revise_of_settled decl h.2, Tally.pure_bind]
  | constructor decl =>
    simp only [Declaration.nodes, settledIn_cons] at h
    rw [Declaration.revise, ConstructorDecl.revise_of_settled decl h.2, Tally.pure_bind]
  | property decl =>
    simp only [Declaration.nodes, settledIn_cons] at h
    rw [Declaration.revise, PropertyDecl.revise_of_settled decl h.2, Tally.pure_bind]
  | field decl =>
    simp only [Declaration.nodes, settledIn_cons] at h
    rw [Declaration.revise, FieldDecl.revise_of_settled decl h.2, Tally.pure_bind]

theorem Declaration.reviseList_of_settled (ds : List Declaration)
    (h : SettledIn step (Declaration.listNodes ds)) : Declaration.reviseList step ds = pure ds := by
  cases ds with
  | nil => rfl
  | cons d rest =>
    simp only [Declaration.listNodes, settledIn_append] at h
    rw [Declaration.reviseList, Declaration.revise_of_settled d h.1, Tally.pure_bind,
      Declaration.reviseList_of_settled rest h.2, Tally.pure_bind]

end

theorem SourceFile.revise_of_settled (f : SourceFile) (h : SettledIn step f.nodes) :
    f.revise step = pure f := by
  simp only [SourceFile.nodes, settledIn_cons] at h
  rw [SourceFile.revise, Declaration.reviseList_of_settled _ h.2, Tally.pure_bind]

theorem SourceModule.revise_of_settled (m : SourceModule) (h : SettledIn step m.nodes) :
    m.revise step = pure m := by
  rw [SourceModule.nodes, settledIn_flatMap] at h
  rw [SourceModule.revise, Tally.each_eq_pure fun f hf => f.revise_of_settled (h f hf),
    Tally.pure_bind]

end Stable

/-- What a step gives is settled if the parts of the expression were. -/
def StepSettles (step : Expression → Option Expression) : Prop :=
  ∀ e e', step e = some e' → SettledIn step e.nodes.tail → SettledIn step e'.nodes

section Settling

variable {step : Expression → Option Expression}

theorem Expression.settledIn_replace (hStep : StepSettles step) {e : Expression}
    (h : SettledIn step e.nodes.tail) : SettledIn step (Expression.replace step e).value.nodes := by
  have hHead : e.nodes = .expression e :: e.nodes.tail := by cases e <;> rfl
  unfold Expression.replace
  cases he : step e with
  | some e' => exact hStep e e' he h
  | none =>
    rw [Tally.value_pure, hHead, settledIn_cons]
    refine ⟨?_, h⟩
    intro _ hEq
    cases hEq
    exact he

mutual

theorem Expression.settledIn_revise (hStep : StepSettles step) (e : Expression) :
    SettledIn step (e.revise step).value.nodes := by
  cases e with
  | constant | unsupported => exact Expression.settledIn_replace hStep settledIn_nil
  | readValue | self => exact Expression.settledIn_replace hStep settledIn_type
  | object => exact Expression.settledIn_replace hStep (@settledIn_classRefs _ [_])
  | readField receiver field type =>
    apply Expression.settledIn_replace hStep
    exact settledIn_append.mpr ⟨Expression.settledIn_reviseOption hStep receiver, settledIn_type⟩
  | call c =>
    apply Expression.settledIn_replace hStep
    exact Call.settledIn_revise hStep c
  | construct id typeArguments arguments =>
    apply Expression.settledIn_replace hStep
    refine settledIn_cons.mpr ⟨by simp [Node.expression?], settledIn_append.mpr ⟨?_, ?_⟩⟩
    · exact settledIn_types
    · exact Expression.settledIn_reviseArguments hStep arguments
  | concatenation parts =>
    apply Expression.settledIn_replace hStep
    exact Expression.settledIn_reviseList hStep parts
  | typeOperation operator operand type =>
    apply Expression.settledIn_replace hStep
    exact settledIn_append.mpr ⟨Expression.settledIn_revise hStep operand, settledIn_type⟩
  | «when» branches type =>
    apply Expression.settledIn_replace hStep
    exact settledIn_append.mpr ⟨Branch.settledIn_reviseList hStep branches, settledIn_type⟩
  | block statements type =>
    apply Expression.settledIn_replace hStep
    exact settledIn_append.mpr ⟨Statement.settledIn_reviseList hStep statements, settledIn_type⟩

theorem Call.settledIn_revise (hStep : StepSettles step) (c : Call) : SettledIn step
    (c.revise step).value.nodes := by
  obtain ⟨callee, dispatchReceiver, extensionReceiver, arguments, typeArguments, type⟩ := c
  simp only [Call.revise, Call.nodes, Tally.value_bind, Tally.value_pure, settledIn_append]
  exact ⟨⟨⟨⟨⟨settledIn_callable, Expression.settledIn_reviseOption hStep dispatchReceiver⟩,
    Expression.settledIn_reviseOption hStep extensionReceiver⟩,
    Expression.settledIn_reviseArguments hStep arguments⟩, settledIn_types⟩, settledIn_type⟩

theorem Branch.settledIn_revise (hStep : StepSettles step) (b : Branch) : SettledIn step
    (b.revise step).value.nodes := by
  obtain ⟨condition, result⟩ := b
  exact settledIn_append.mpr
    ⟨Expression.settledIn_revise hStep condition, Expression.settledIn_revise hStep result⟩

theorem Statement.settledIn_revise (hStep : StepSettles step) (s : Statement) :
    SettledIn step (s.revise step).value.nodes := by
  have hHead : ∀ e, Node.statement.expression? = some e → step e = none := nofun
  cases s with
  | evaluate e => exact settledIn_cons.mpr ⟨hHead, Expression.settledIn_revise hStep e⟩
  | declare name type initializer isVariable =>
    exact settledIn_cons.mpr ⟨hHead, settledIn_append.mpr
      ⟨settledIn_type, Expression.settledIn_reviseOption hStep initializer⟩⟩
  | assign name value => exact settledIn_cons.mpr ⟨hHead, Expression.settledIn_revise hStep value⟩
  | assignField receiver field value =>
    exact settledIn_cons.mpr ⟨hHead, settledIn_append.mpr
      ⟨Expression.settledIn_reviseOption hStep receiver, Expression.settledIn_revise hStep value⟩⟩
  | returns value => exact settledIn_cons.mpr ⟨hHead, Expression.settledIn_reviseOption hStep value⟩
  | conditional condition thenBranch elseBranch =>
    refine settledIn_cons.mpr ⟨hHead, settledIn_append.mpr ⟨settledIn_append.mpr ⟨?_, ?_⟩, ?_⟩⟩
    · exact Expression.settledIn_revise hStep condition
    · exact Statement.settledIn_reviseList hStep thenBranch
    · exact Statement.settledIn_reviseList hStep elseBranch
  | loop condition body =>
    exact settledIn_cons.mpr ⟨hHead, settledIn_append.mpr
      ⟨Expression.settledIn_revise hStep condition, Statement.settledIn_reviseList hStep body⟩⟩
  | throws value => exact settledIn_cons.mpr ⟨hHead, Expression.settledIn_revise hStep value⟩

theorem Expression.settledIn_reviseOption (hStep : StepSettles step) (e : Option Expression) :
    SettledIn step (Expression.optionNodes (Expression.reviseOption step e).value) := by
  cases e with
  | none => exact settledIn_nil
  | some e => exact Expression.settledIn_revise hStep e

theorem Expression.settledIn_reviseList (hStep : StepSettles step) (es : List Expression) :
    SettledIn step (Expression.listNodes (Expression.reviseList step es).value) := by
  cases es with
  | nil => exact settledIn_nil
  | cons e rest =>
    exact settledIn_append.mpr
      ⟨Expression.settledIn_revise hStep e, Expression.settledIn_reviseList hStep rest⟩

theorem Expression.settledIn_reviseArguments (hStep : StepSettles step)
    (es : List (Option Expression)) :
    SettledIn step (Expression.argumentNodes (Expression.reviseArguments step es).value) := by
  cases es with
  | nil => exact settledIn_nil
  | cons e rest =>
    exact settledIn_append.mpr
      ⟨Expression.settledIn_reviseOption hStep e, Expression.settledIn_reviseArguments hStep rest⟩

theorem Branch.settledIn_reviseList (hStep : StepSettles step) (bs : List Branch) :
    SettledIn step (Branch.listNodes (Branch.reviseList step bs).value) := by
  cases bs with
  | nil => exact settledIn_nil
  | cons b rest =>
    exact settledIn_append.mpr ⟨Branch.settledIn_revise hStep b,
      Branch.settledIn_reviseList hStep rest⟩

theorem Statement.settledIn_reviseList (hStep : StepSettles step) (ss : List Statement) :
    SettledIn step (Statement.listNodes (Statement.reviseList step ss).value) := by
  cases ss with
  | nil => exact settledIn_nil
  | cons s rest =>
    exact settledIn_append.mpr
      ⟨Statement.settledIn_revise hStep s, Statement.settledIn_reviseList hStep rest⟩

end

theorem settledIn_reviseBody (hStep : StepSettles step) (body : Option (List Statement)) :
    SettledIn step (bodyNodes (reviseBody step body).value) := by
  cases body with
  | none => exact settledIn_nil
  | some statements =>
    exact settledIn_cons.mpr ⟨nofun, Statement.settledIn_reviseList hStep statements⟩

theorem ValueParameter.settledIn_revise (hStep : StepSettles step) (p : ValueParameter) :
    SettledIn step (p.revise step).value.nodes :=
  settledIn_cons.mpr ⟨nofun, settledIn_append.mpr
    ⟨settledIn_type, Expression.settledIn_reviseOption hStep p.defaultValue⟩⟩

theorem settledIn_reviseParameters (hStep : StepSettles step) (ps : List ValueParameter) :
    SettledIn step ((Tally.each (·.revise step) ps).value.flatMap ValueParameter.nodes) := by
  rw [Tally.value_each, settledIn_flatMap]
  intro revised hRevised
  obtain ⟨p, _, rfl⟩ := List.mem_map.mp hRevised
  exact p.settledIn_revise hStep

theorem FunctionDecl.settledIn_revise (hStep : StepSettles step) (d : FunctionDecl) :
    SettledIn step (d.revise step).value.nodes := by
  have hReceiver := settledIn_reviseParameters hStep d.extensionReceiver.toList
  simp only [FunctionDecl.revise, FunctionDecl.nodes, Tally.value_bind, Tally.value_pure,
    settledIn_append]
  refine ⟨⟨⟨⟨⟨⟨settledIn_callable, settledIn_typeParameters⟩, ?_⟩,
    settledIn_reviseParameters hStep _⟩, settledIn_type⟩, settledIn_annotations⟩,
    settledIn_reviseBody hStep _⟩
  cases hd : d.extensionReceiver with
  | none => exact settledIn_nil
  | some receiver =>
    rw [hd] at hReceiver
    exact hReceiver

theorem ConstructorDecl.settledIn_revise (hStep : StepSettles step) (d : ConstructorDecl) :
    SettledIn step (d.revise step).value.nodes := by
  simp only [ConstructorDecl.revise, ConstructorDecl.nodes, Tally.value_bind, Tally.value_pure,
    settledIn_cons, settledIn_append]
  refine ⟨nofun, ⟨settledIn_reviseParameters hStep _, ?_⟩, settledIn_reviseBody hStep _⟩
  cases hd : d.delegation with
  | none => exact settledIn_nil
  | some delegation =>
    have hArguments := Expression.settledIn_reviseArguments hStep delegation.arguments
    simpa [Tally.each, Delegation.revise] using hArguments

theorem PropertyDecl.settledIn_revise (hStep : StepSettles step) (d : PropertyDecl) :
    SettledIn step (d.revise step).value.nodes := by
  simp only [PropertyDecl.revise, PropertyDecl.nodes, Tally.value_bind, Tally.value_pure,
    settledIn_append]
  exact ⟨⟨⟨⟨settledIn_callable, settledIn_type⟩, settledIn_reviseBody hStep d.getter⟩,
    settledIn_reviseBody hStep d.setter⟩, Expression.settledIn_reviseOption hStep d.initializer⟩

theorem FieldDecl.settledIn_revise (hStep : StepSettles step) (d : FieldDecl) : SettledIn step
    (d.revise step).value.nodes :=
  settledIn_append.mpr ⟨settledIn_type, Expression.settledIn_reviseOption hStep d.initializer⟩

mutual

theorem ClassDecl.settledIn_revise (hStep : StepSettles step) (c : ClassDecl) :
    SettledIn step (c.revise step).value.nodes := by
  obtain ⟨id, kind, modality, visibility, isLocal, isValue, isExpect, isExternal, isCompanion,
    typeParameters, supertypes, annotations, enumEntries, declarations, origin⟩ := c
  simp only [ClassDecl.revise, ClassDecl.nodes, Tally.value_bind, Tally.value_pure,
    settledIn_cons, settledIn_append]
  exact ⟨nofun, ⟨⟨settledIn_typeParameters, settledIn_types⟩, settledIn_annotations⟩,
    Declaration.settledIn_reviseList hStep declarations⟩

theorem Declaration.settledIn_revise (hStep : StepSettles step) (d : Declaration) :
    SettledIn step (d.revise step).value.nodes := by
  cases d with
  | ofClass decl => exact settledIn_cons.mpr ⟨nofun, ClassDecl.settledIn_revise hStep decl⟩
  | function decl => exact settledIn_cons.mpr ⟨nofun, decl.settledIn_revise hStep⟩
  | constructor decl => exact settledIn_cons.mpr ⟨nofun, decl.settledIn_revise hStep⟩
  | property decl => exact settledIn_cons.mpr ⟨nofun, decl.settledIn_revise hStep⟩
  | field decl => exact settledIn_cons.mpr ⟨nofun, decl.settledIn_revise hStep⟩

theorem Declaration.settledIn_reviseList (hStep : StepSettles step) (ds : List Declaration) :
    SettledIn step (Declaration.listNodes (Declaration.reviseList step ds).value) := by
  cases ds with
  | nil => exact settledIn_nil
  | cons d rest =>
    exact settledIn_append.mpr
      ⟨Declaration.settledIn_revise hStep d, Declaration.settledIn_reviseList hStep rest⟩

end

theorem SourceFile.settledIn_revise (hStep : StepSettles step) (f : SourceFile) :
    SettledIn step (f.revise step).value.nodes :=
  settledIn_cons.mpr ⟨nofun, Declaration.settledIn_reviseList hStep f.declarations⟩

theorem SourceModule.settledIn_revise (hStep : StepSettles step) (m : SourceModule) :
    SettledIn step (m.revise step).value.nodes := by
  simp only [SourceModule.revise, SourceModule.nodes, Tally.value_bind, Tally.value_pure,
    Tally.value_each, settledIn_flatMap]
  intro revised hRevised
  obtain ⟨f, _, rfl⟩ := List.mem_map.mp hRevised
  exact f.settledIn_revise hStep

end Settling

end KotlinBackend
