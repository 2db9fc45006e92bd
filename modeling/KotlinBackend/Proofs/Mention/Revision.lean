import KotlinBackend.Program.Revision
import KotlinBackend.Proofs.Mention.Basic

/-!
# The classes named after a revision

A revision names only classes with a property if the program did and each step keeps it so. The
induction follows the syntax; only `Expression.namesOnly_replace` looks at the step.
-/

namespace KotlinBackend

/-- A step of a revision names nothing new as far as `P` is concerned. -/
def StepKeeps (P : ClassId → Prop) (step : Expression → Option Expression) : Prop :=
  ∀ e e', step e = some e' → NamesOnly P e.nodes → NamesOnly P e'.nodes

section Revision

variable {P : ClassId → Prop} {step : Expression → Option Expression}

theorem Expression.namesOnly_replace (hstep : StepKeeps P step) {e : Expression}
    (h : NamesOnly P e.nodes) : NamesOnly P (Expression.replace step e).value.nodes := by
  unfold Expression.replace
  cases he : step e with
  | none => exact h
  | some e' => exact hstep e e' he h

mutual

theorem Expression.namesOnly_revise (hstep : StepKeeps P step) (e : Expression)
    (h : NamesOnly P e.nodes) : NamesOnly P (e.revise step).value.nodes := by
  cases e with
  | constant value => exact Expression.namesOnly_replace hstep h
  | readValue name type => exact Expression.namesOnly_replace hstep h
  | self type => exact Expression.namesOnly_replace hstep h
  | object id => exact Expression.namesOnly_replace hstep h
  | unsupported kind => exact Expression.namesOnly_replace hstep h
  | readField receiver field type =>
    simp only [Expression.nodes, namesOnly_cons, namesOnly_append] at h
    apply Expression.namesOnly_replace hstep
    simp only [Expression.nodes, namesOnly_cons, namesOnly_append]
    exact ⟨h.1, Expression.namesOnly_reviseOption hstep receiver h.2.1, h.2.2⟩
  | call c =>
    simp only [Expression.nodes, namesOnly_cons] at h
    apply Expression.namesOnly_replace hstep
    simp only [Expression.nodes, namesOnly_cons]
    exact ⟨by simp [Node.class?], Call.namesOnly_revise hstep c h.2⟩
  | construct id typeArguments arguments =>
    simp only [Expression.nodes, namesOnly_cons, namesOnly_append] at h
    apply Expression.namesOnly_replace hstep
    simp only [Expression.nodes, namesOnly_cons, namesOnly_append]
    exact ⟨h.1, h.2.1, h.2.2.1, Expression.namesOnly_reviseArguments hstep arguments h.2.2.2⟩
  | concatenation parts =>
    simp only [Expression.nodes, namesOnly_cons] at h
    apply Expression.namesOnly_replace hstep
    simp only [Expression.nodes, namesOnly_cons]
    exact ⟨by simp [Node.class?], Expression.namesOnly_reviseList hstep parts h.2⟩
  | typeOperation operator operand type =>
    simp only [Expression.nodes, namesOnly_cons, namesOnly_append] at h
    apply Expression.namesOnly_replace hstep
    simp only [Expression.nodes, namesOnly_cons, namesOnly_append]
    exact ⟨by simp [Node.class?], Expression.namesOnly_revise hstep operand h.2.1, h.2.2⟩
  | «when» branches type =>
    simp only [Expression.nodes, namesOnly_cons, namesOnly_append] at h
    apply Expression.namesOnly_replace hstep
    simp only [Expression.nodes, namesOnly_cons, namesOnly_append]
    exact ⟨by simp [Node.class?], Branch.namesOnly_reviseList hstep branches h.2.1, h.2.2⟩
  | block statements type =>
    simp only [Expression.nodes, namesOnly_cons, namesOnly_append] at h
    apply Expression.namesOnly_replace hstep
    simp only [Expression.nodes, namesOnly_cons, namesOnly_append]
    exact ⟨by simp [Node.class?], Statement.namesOnly_reviseList hstep statements h.2.1, h.2.2⟩

theorem Call.namesOnly_revise (hstep : StepKeeps P step) (c : Call) (h : NamesOnly P c.nodes) :
    NamesOnly P (c.revise step).value.nodes := by
  obtain ⟨callee, dispatchReceiver, extensionReceiver, arguments, typeArguments, type⟩ := c
  simp only [Call.nodes, namesOnly_append] at h
  obtain ⟨⟨⟨⟨⟨hCallee, hDispatch⟩, hExtension⟩, hArguments⟩, hTypes⟩, hType⟩ := h
  simp only [Call.revise, Call.nodes, Tally.value_bind, Tally.value_pure, namesOnly_append]
  exact ⟨⟨⟨⟨⟨hCallee, Expression.namesOnly_reviseOption hstep dispatchReceiver hDispatch⟩,
    Expression.namesOnly_reviseOption hstep extensionReceiver hExtension⟩,
    Expression.namesOnly_reviseArguments hstep arguments hArguments⟩, hTypes⟩, hType⟩

theorem Branch.namesOnly_revise (hstep : StepKeeps P step) (b : Branch) (h : NamesOnly P b.nodes) :
    NamesOnly P (b.revise step).value.nodes := by
  obtain ⟨condition, result⟩ := b
  simp only [Branch.nodes, namesOnly_append] at h
  simp only [Branch.revise, Branch.nodes, Tally.value_bind, Tally.value_pure, namesOnly_append]
  exact ⟨Expression.namesOnly_revise hstep condition h.1,
    Expression.namesOnly_revise hstep result h.2⟩

theorem Statement.namesOnly_revise (hstep : StepKeeps P step) (s : Statement)
    (h : NamesOnly P s.nodes) : NamesOnly P (s.revise step).value.nodes := by
  cases s with
  | evaluate e =>
    simp only [Statement.nodes, namesOnly_cons] at h
    exact namesOnly_cons.mpr ⟨h.1, Expression.namesOnly_revise hstep e h.2⟩
  | declare name type initializer isVariable =>
    simp only [Statement.nodes, namesOnly_cons, namesOnly_append] at h
    exact namesOnly_cons.mpr ⟨h.1, namesOnly_append.mpr
      ⟨h.2.1, Expression.namesOnly_reviseOption hstep initializer h.2.2⟩⟩
  | assign name value =>
    simp only [Statement.nodes, namesOnly_cons] at h
    exact namesOnly_cons.mpr ⟨h.1, Expression.namesOnly_revise hstep value h.2⟩
  | assignField receiver field value =>
    simp only [Statement.nodes, namesOnly_cons, namesOnly_append] at h
    exact namesOnly_cons.mpr ⟨h.1, namesOnly_append.mpr
      ⟨Expression.namesOnly_reviseOption hstep receiver h.2.1,
        Expression.namesOnly_revise hstep value h.2.2⟩⟩
  | returns value =>
    simp only [Statement.nodes, namesOnly_cons] at h
    exact namesOnly_cons.mpr ⟨h.1, Expression.namesOnly_reviseOption hstep value h.2⟩
  | conditional condition thenBranch elseBranch =>
    simp only [Statement.nodes, namesOnly_cons, namesOnly_append] at h
    refine namesOnly_cons.mpr ⟨h.1, namesOnly_append.mpr ⟨namesOnly_append.mpr ⟨?_, ?_⟩, ?_⟩⟩
    · exact Expression.namesOnly_revise hstep condition h.2.1.1
    · exact Statement.namesOnly_reviseList hstep thenBranch h.2.1.2
    · exact Statement.namesOnly_reviseList hstep elseBranch h.2.2
  | loop condition body =>
    simp only [Statement.nodes, namesOnly_cons, namesOnly_append] at h
    exact namesOnly_cons.mpr ⟨h.1, namesOnly_append.mpr
      ⟨Expression.namesOnly_revise hstep condition h.2.1,
        Statement.namesOnly_reviseList hstep body h.2.2⟩⟩
  | throws value =>
    simp only [Statement.nodes, namesOnly_cons] at h
    exact namesOnly_cons.mpr ⟨h.1, Expression.namesOnly_revise hstep value h.2⟩

theorem Expression.namesOnly_reviseOption (hstep : StepKeeps P step) (e : Option Expression)
    (h : NamesOnly P (Expression.optionNodes e)) :
    NamesOnly P (Expression.optionNodes (Expression.reviseOption step e).value) := by
  cases e with
  | none => exact namesOnly_nil
  | some e => exact Expression.namesOnly_revise hstep e h

theorem Expression.namesOnly_reviseList (hstep : StepKeeps P step) (es : List Expression)
    (h : NamesOnly P (Expression.listNodes es)) :
    NamesOnly P (Expression.listNodes (Expression.reviseList step es).value) := by
  cases es with
  | nil => exact namesOnly_nil
  | cons e rest =>
    simp only [Expression.listNodes, namesOnly_append] at h
    exact namesOnly_append.mpr
      ⟨Expression.namesOnly_revise hstep e h.1, Expression.namesOnly_reviseList hstep rest h.2⟩

theorem Expression.namesOnly_reviseArguments (hstep : StepKeeps P step)
    (es : List (Option Expression))
    (h : NamesOnly P (Expression.argumentNodes es)) :
    NamesOnly P (Expression.argumentNodes (Expression.reviseArguments step es).value) := by
  cases es with
  | nil => exact namesOnly_nil
  | cons e rest =>
    simp only [Expression.argumentNodes, namesOnly_append] at h
    exact namesOnly_append.mpr
      ⟨Expression.namesOnly_reviseOption hstep e h.1,
        Expression.namesOnly_reviseArguments hstep rest h.2⟩

theorem Branch.namesOnly_reviseList (hstep : StepKeeps P step) (bs : List Branch)
    (h : NamesOnly P (Branch.listNodes bs)) :
    NamesOnly P (Branch.listNodes (Branch.reviseList step bs).value) := by
  cases bs with
  | nil => exact namesOnly_nil
  | cons b rest =>
    simp only [Branch.listNodes, namesOnly_append] at h
    exact namesOnly_append.mpr
      ⟨Branch.namesOnly_revise hstep b h.1, Branch.namesOnly_reviseList hstep rest h.2⟩

theorem Statement.namesOnly_reviseList (hstep : StepKeeps P step) (ss : List Statement)
    (h : NamesOnly P (Statement.listNodes ss)) :
    NamesOnly P (Statement.listNodes (Statement.reviseList step ss).value) := by
  cases ss with
  | nil => exact namesOnly_nil
  | cons s rest =>
    simp only [Statement.listNodes, namesOnly_append] at h
    exact namesOnly_append.mpr
      ⟨Statement.namesOnly_revise hstep s h.1, Statement.namesOnly_reviseList hstep rest h.2⟩

end

theorem namesOnly_reviseBody (hstep : StepKeeps P step) (body : Option (List Statement))
    (h : NamesOnly P (bodyNodes body)) : NamesOnly P (bodyNodes (reviseBody step body).value) := by
  cases body with
  | none => exact namesOnly_nil
  | some statements =>
    simp only [bodyNodes, namesOnly_cons] at h
    exact namesOnly_cons.mpr
      ⟨by simp [Node.class?], Statement.namesOnly_reviseList hstep statements h.2⟩

theorem ValueParameter.namesOnly_revise (hstep : StepKeeps P step) (p : ValueParameter)
    (h : NamesOnly P p.nodes) : NamesOnly P (p.revise step).value.nodes := by
  simp only [ValueParameter.nodes, namesOnly_cons, namesOnly_append] at h
  exact namesOnly_cons.mpr ⟨h.1, namesOnly_append.mpr
    ⟨h.2.1, Expression.namesOnly_reviseOption hstep p.defaultValue h.2.2⟩⟩

theorem namesOnly_reviseParameters (hstep : StepKeeps P step) (ps : List ValueParameter)
    (h : NamesOnly P (ps.flatMap ValueParameter.nodes)) :
    NamesOnly P ((Tally.each (·.revise step) ps).value.flatMap ValueParameter.nodes) := by
  rw [Tally.value_each, namesOnly_flatMap]
  rw [namesOnly_flatMap] at h
  intro revised hRevised
  obtain ⟨p, hp, rfl⟩ := List.mem_map.mp hRevised
  exact ValueParameter.namesOnly_revise hstep p (h p hp)

theorem FunctionDecl.namesOnly_revise (hstep : StepKeeps P step) (d : FunctionDecl)
    (h : NamesOnly P d.nodes) : NamesOnly P (d.revise step).value.nodes := by
  simp only [FunctionDecl.nodes, namesOnly_append] at h
  obtain ⟨⟨⟨⟨⟨⟨hId, hTypes⟩, hReceiver⟩, hParameters⟩, hReturn⟩, hAnnotations⟩, hBody⟩ := h
  simp only [FunctionDecl.revise, FunctionDecl.nodes, Tally.value_bind, Tally.value_pure,
    namesOnly_append]
  refine ⟨⟨⟨⟨⟨⟨hId, hTypes⟩, ?_⟩, namesOnly_reviseParameters hstep _ hParameters⟩, hReturn⟩,
    hAnnotations⟩, namesOnly_reviseBody hstep d.body hBody⟩
  have hRevised := namesOnly_reviseParameters hstep _ hReceiver
  cases hd : d.extensionReceiver with
  | none => exact namesOnly_nil
  | some receiver =>
    rw [hd] at hRevised
    exact hRevised

theorem ConstructorDecl.namesOnly_revise (hstep : StepKeeps P step) (d : ConstructorDecl)
    (h : NamesOnly P d.nodes) : NamesOnly P (d.revise step).value.nodes := by
  simp only [ConstructorDecl.nodes, namesOnly_cons, namesOnly_append] at h
  obtain ⟨hId, ⟨hParameters, hDelegation⟩, hBody⟩ := h
  simp only [ConstructorDecl.revise, ConstructorDecl.nodes, Tally.value_bind, Tally.value_pure,
    namesOnly_cons, namesOnly_append]
  refine ⟨hId, ⟨namesOnly_reviseParameters hstep _ hParameters, ?_⟩,
    namesOnly_reviseBody hstep d.body hBody⟩
  cases hd : d.delegation with
  | none => exact namesOnly_nil
  | some delegation =>
    rw [hd] at hDelegation
    simp only [Option.toList_some, List.flatMap_singleton] at hDelegation
    simpa [Tally.each, Delegation.revise] using
      Expression.namesOnly_reviseArguments hstep delegation.arguments hDelegation

theorem PropertyDecl.namesOnly_revise (hstep : StepKeeps P step) (d : PropertyDecl)
    (h : NamesOnly P d.nodes) : NamesOnly P (d.revise step).value.nodes := by
  simp only [PropertyDecl.nodes, namesOnly_append] at h
  obtain ⟨⟨⟨hHead, hGetter⟩, hSetter⟩, hInitializer⟩ := h
  simp only [PropertyDecl.revise, PropertyDecl.nodes, Tally.value_bind, Tally.value_pure,
    namesOnly_append]
  exact ⟨⟨⟨hHead, namesOnly_reviseBody hstep d.getter hGetter⟩,
    namesOnly_reviseBody hstep d.setter hSetter⟩,
    Expression.namesOnly_reviseOption hstep d.initializer hInitializer⟩

theorem FieldDecl.namesOnly_revise (hstep : StepKeeps P step) (d : FieldDecl)
    (h : NamesOnly P d.nodes) : NamesOnly P (d.revise step).value.nodes := by
  simp only [FieldDecl.nodes, namesOnly_append] at h
  exact namesOnly_append.mpr
    ⟨h.1, Expression.namesOnly_reviseOption hstep d.initializer h.2⟩

mutual

theorem ClassDecl.namesOnly_revise (hstep : StepKeeps P step) (c : ClassDecl)
    (h : NamesOnly P c.nodes) : NamesOnly P (c.revise step).value.nodes := by
  obtain ⟨id, kind, modality, visibility, isLocal, isValue, isExpect, isExternal, isCompanion,
    typeParameters, supertypes, annotations, enumEntries, declarations, origin⟩ := c
  simp only [ClassDecl.nodes, namesOnly_cons, namesOnly_append] at h
  simp only [ClassDecl.revise, ClassDecl.nodes, Tally.value_bind, Tally.value_pure,
    namesOnly_cons, namesOnly_append]
  exact ⟨h.1, h.2.1, Declaration.namesOnly_reviseList hstep declarations h.2.2⟩

theorem Declaration.namesOnly_revise (hstep : StepKeeps P step) (d : Declaration)
    (h : NamesOnly P d.nodes) : NamesOnly P (d.revise step).value.nodes := by
  cases d with
  | ofClass decl =>
    simp only [Declaration.nodes, namesOnly_cons] at h
    exact namesOnly_cons.mpr ⟨by simp [Node.class?], ClassDecl.namesOnly_revise hstep decl h.2⟩
  | function decl =>
    simp only [Declaration.nodes, namesOnly_cons] at h
    exact namesOnly_cons.mpr
      ⟨by simp [Node.class?], FunctionDecl.namesOnly_revise hstep decl h.2⟩
  | constructor decl =>
    simp only [Declaration.nodes, namesOnly_cons] at h
    exact namesOnly_cons.mpr
      ⟨by simp [Node.class?], ConstructorDecl.namesOnly_revise hstep decl h.2⟩
  | property decl =>
    simp only [Declaration.nodes, namesOnly_cons] at h
    exact namesOnly_cons.mpr
      ⟨by simp [Node.class?], PropertyDecl.namesOnly_revise hstep decl h.2⟩
  | field decl =>
    simp only [Declaration.nodes, namesOnly_cons] at h
    exact namesOnly_cons.mpr ⟨by simp [Node.class?], FieldDecl.namesOnly_revise hstep decl h.2⟩

theorem Declaration.namesOnly_reviseList (hstep : StepKeeps P step) (ds : List Declaration)
    (h : NamesOnly P (Declaration.listNodes ds)) :
    NamesOnly P (Declaration.listNodes (Declaration.reviseList step ds).value) := by
  cases ds with
  | nil => exact namesOnly_nil
  | cons d rest =>
    simp only [Declaration.listNodes, namesOnly_append] at h
    exact namesOnly_append.mpr
      ⟨Declaration.namesOnly_revise hstep d h.1, Declaration.namesOnly_reviseList hstep rest h.2⟩

end

theorem SourceFile.namesOnly_revise (hstep : StepKeeps P step) (f : SourceFile)
    (h : NamesOnly P f.nodes) : NamesOnly P (f.revise step).value.nodes := by
  simp only [SourceFile.nodes, namesOnly_cons] at h
  exact namesOnly_cons.mpr
    ⟨by simp [Node.class?], Declaration.namesOnly_reviseList hstep f.declarations h.2⟩

theorem SourceModule.namesOnly_revise (hstep : StepKeeps P step) (m : SourceModule)
    (h : NamesOnly P m.nodes) : NamesOnly P (m.revise step).value.nodes := by
  simp only [SourceModule.nodes, namesOnly_flatMap] at h
  simp only [SourceModule.revise, SourceModule.nodes, Tally.value_bind, Tally.value_pure,
    Tally.value_each, namesOnly_flatMap]
  intro revised hRevised
  obtain ⟨f, hf, rfl⟩ := List.mem_map.mp hRevised
  exact SourceFile.namesOnly_revise hstep f (h f hf)

end Revision

end KotlinBackend
