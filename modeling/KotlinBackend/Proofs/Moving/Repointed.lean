import KotlinBackend.Facade.Basic
import KotlinBackend.Proofs.ClassTree
import Mathlib.Data.List.Forall2

/-!
# Declarations up to the calls in them

When callables move, the calls in all declarations follow. Here it is said, form by form, what that
may change: a call of a moved callable names the new place and goes without a receiver that is an
object, and nothing else differs.
-/

namespace KotlinBackend

section Bodies

variable (moves : Moves)

mutual

inductive Call.Repointed : Call → Call → Prop
  | stays {callee : CallableId} {dispatch dispatch' extension extension' : Option Expression}
      {arguments arguments' : List (Option Expression)} {typeArguments : List SourceType}
      {type : SourceType} (hCallee : moves.target? callee = none)
      (hDispatch : Option.Rel Expression.Repointed dispatch dispatch')
      (hExtension : Option.Rel Expression.Repointed extension extension')
      (hArguments : List.Forall₂ (Option.Rel Expression.Repointed) arguments arguments') :
      Call.Repointed ⟨callee, dispatch, extension, arguments, typeArguments, type⟩
        ⟨callee, dispatch', extension', arguments', typeArguments, type⟩
  | follows {callee target : CallableId}
      {dispatch dispatch' extension extension' : Option Expression}
      {arguments arguments' : List (Option Expression)} {typeArguments : List SourceType}
      {type : SourceType} (hCallee : moves.target? callee = some target)
      (hDispatch : Option.Rel Expression.Repointed (dropObject dispatch) dispatch')
      (hExtension : Option.Rel Expression.Repointed extension extension')
      (hArguments : List.Forall₂ (Option.Rel Expression.Repointed) arguments arguments') :
      Call.Repointed ⟨callee, dispatch, extension, arguments, typeArguments, type⟩
        ⟨target, dispatch', extension', arguments', typeArguments, type⟩

inductive Branch.Repointed : Branch → Branch → Prop
  | intro {condition condition' result result' : Expression}
      (hCondition : Expression.Repointed condition condition')
      (hResult : Expression.Repointed result result') :
      Branch.Repointed ⟨condition, result⟩ ⟨condition', result'⟩

inductive Expression.Repointed : Expression → Expression → Prop
  | constant (value : Constant) : Expression.Repointed (.constant value) (.constant value)
  | readValue (name : String) (type : SourceType) :
      Expression.Repointed (.readValue name type) (.readValue name type)
  | self (type : SourceType) : Expression.Repointed (.self type) (.self type)
  | readField {receiver receiver' : Option Expression} (field : String) (type : SourceType)
      (hReceiver : Option.Rel Expression.Repointed receiver receiver') :
      Expression.Repointed (.readField receiver field type) (.readField receiver' field type)
  | object (id : ClassId) : Expression.Repointed (.object id) (.object id)
  | call {c c' : Call} (h : Call.Repointed c c') : Expression.Repointed (.call c) (.call c')
  | construct (id : ClassId) (typeArguments : List SourceType)
      {arguments arguments' : List (Option Expression)}
      (hArguments : List.Forall₂ (Option.Rel Expression.Repointed) arguments arguments') :
      Expression.Repointed (.construct id typeArguments arguments)
        (.construct id typeArguments arguments')
  | concatenation {parts parts' : List Expression}
      (hParts : List.Forall₂ Expression.Repointed parts parts') :
      Expression.Repointed (.concatenation parts) (.concatenation parts')
  | typeOperation (operator : TypeOperator) {operand operand' : Expression} (type : SourceType)
      (hOperand : Expression.Repointed operand operand') :
      Expression.Repointed (.typeOperation operator operand type)
        (.typeOperation operator operand' type)
  | «when» {branches branches' : List Branch} (type : SourceType)
      (hBranches : List.Forall₂ Branch.Repointed branches branches') :
      Expression.Repointed (.when branches type) (.when branches' type)
  | block {statements statements' : List Statement} (type : SourceType)
      (hStatements : List.Forall₂ Statement.Repointed statements statements') :
      Expression.Repointed (.block statements type) (.block statements' type)
  | unsupported (kind : String) : Expression.Repointed (.unsupported kind) (.unsupported kind)

inductive Statement.Repointed : Statement → Statement → Prop
  | evaluate {e e' : Expression} (h : Expression.Repointed e e') :
      Statement.Repointed (.evaluate e) (.evaluate e')
  | declare (name : String) (type : SourceType) {value value' : Option Expression}
      (isVariable : Bool) (hValue : Option.Rel Expression.Repointed value value') :
      Statement.Repointed (.declare name type value isVariable)
        (.declare name type value' isVariable)
  | assign (name : String) {value value' : Expression} (h : Expression.Repointed value value') :
      Statement.Repointed (.assign name value) (.assign name value')
  | assignField {receiver receiver' : Option Expression} (field : String)
      {value value' : Expression} (hReceiver : Option.Rel Expression.Repointed receiver receiver')
      (hValue : Expression.Repointed value value') :
      Statement.Repointed (.assignField receiver field value) (.assignField receiver' field value')
  | returns {value value' : Option Expression}
      (hValue : Option.Rel Expression.Repointed value value') :
      Statement.Repointed (.returns value) (.returns value')
  | conditional {condition condition' : Expression} {yes yes' no no' : List Statement}
      (hCondition : Expression.Repointed condition condition')
      (hThen : List.Forall₂ Statement.Repointed yes yes')
      (hElse : List.Forall₂ Statement.Repointed no no') :
      Statement.Repointed (.conditional condition yes no) (.conditional condition' yes' no')
  | loop {condition condition' : Expression} {body body' : List Statement}
      (hCondition : Expression.Repointed condition condition')
      (hBody : List.Forall₂ Statement.Repointed body body') :
      Statement.Repointed (.loop condition body) (.loop condition' body')
  | throws {value value' : Expression} (h : Expression.Repointed value value') :
      Statement.Repointed (.throws value) (.throws value')

end

end Bodies

section Revision

variable {moves : Moves}

-- The receiver of a call is looked at after the calls in it have followed; it is an object then if
-- it was one before.
theorem repointed_dropObject {receiver receiver' : Option Expression}
    (h : Option.Rel (Expression.Repointed moves) receiver receiver') :
    Option.Rel (Expression.Repointed moves) (dropObject receiver) (dropObject receiver') := by
  cases h with
  | none => exact .none
  | some h =>
    cases h with
    | object id => exact .none
    | constant value => exact .some (.constant value)
    | readValue name type => exact .some (.readValue name type)
    | self type => exact .some (.self type)
    | readField field type hReceiver => exact .some (.readField field type hReceiver)
    | call h => exact .some (.call h)
    | construct id typeArguments hArguments =>
      exact .some (.construct id typeArguments hArguments)
    | concatenation hParts => exact .some (.concatenation hParts)
    | typeOperation operator type hOperand => exact .some (.typeOperation operator type hOperand)
    | «when» type hBranches => exact .some (.when type hBranches)
    | block type hStatements => exact .some (.block type hStatements)
    | unsupported kind => exact .some (.unsupported kind)

mutual

theorem Expression.repointed_revise (e : Expression) :
    Expression.Repointed moves e (e.revise moves.step).value := by
  cases e with
  | constant value => exact .constant value
  | readValue name type => exact .readValue name type
  | self type => exact .self type
  | readField receiver field type =>
    exact .readField field type (Expression.repointed_reviseOption receiver)
  | object id => exact .object id
  | call c => exact Call.repointed_revise c
  | construct id typeArguments arguments =>
    exact .construct id typeArguments (Expression.repointed_reviseArguments arguments)
  | concatenation parts => exact .concatenation (Expression.repointed_reviseList parts)
  | typeOperation operator operand type =>
    exact .typeOperation operator type (Expression.repointed_revise operand)
  | «when» branches type => exact .when type (Branch.repointed_reviseList branches)
  | block statements type => exact .block type (Statement.repointed_reviseList statements)
  | unsupported kind => exact .unsupported kind

theorem Call.repointed_revise (c : Call) :
    Expression.Repointed moves (.call c) ((Expression.call c).revise moves.step).value := by
  obtain ⟨callee, dispatchReceiver, extensionReceiver, arguments, typeArguments, type⟩ := c
  have hDispatch := Expression.repointed_reviseOption dispatchReceiver
  have hExtension := Expression.repointed_reviseOption extensionReceiver
  have hArguments := Expression.repointed_reviseArguments arguments
  rw [Expression.revise, Call.revise]
  simp only [Tally.value_bind, Tally.value_pure, Expression.replace, Moves.step]
  cases hCallee : moves.target? callee with
  | none => exact .call (.stays hCallee hDispatch hExtension hArguments)
  | some target =>
    exact .call (.follows hCallee (repointed_dropObject hDispatch) hExtension hArguments)

theorem Branch.repointed_revise (b : Branch) :
    Branch.Repointed moves b (b.revise moves.step).value := by
  obtain ⟨condition, result⟩ := b
  exact .intro (Expression.repointed_revise condition) (Expression.repointed_revise result)

theorem Statement.repointed_revise (s : Statement) :
    Statement.Repointed moves s (s.revise moves.step).value := by
  cases s with
  | evaluate e => exact .evaluate (Expression.repointed_revise e)
  | declare name type value isVariable =>
    exact .declare name type isVariable (Expression.repointed_reviseOption value)
  | assign name value => exact .assign name (Expression.repointed_revise value)
  | assignField receiver field value =>
    exact .assignField field (Expression.repointed_reviseOption receiver)
      (Expression.repointed_revise value)
  | returns value => exact .returns (Expression.repointed_reviseOption value)
  | conditional condition yes no =>
    exact .conditional (Expression.repointed_revise condition)
      (Statement.repointed_reviseList yes) (Statement.repointed_reviseList no)
  | loop condition body =>
    exact .loop (Expression.repointed_revise condition) (Statement.repointed_reviseList body)
  | throws value => exact .throws (Expression.repointed_revise value)

theorem Expression.repointed_reviseOption (e : Option Expression) :
    Option.Rel (Expression.Repointed moves) e (Expression.reviseOption moves.step e).value := by
  cases e with
  | none => exact .none
  | some e => exact .some (Expression.repointed_revise e)

theorem Expression.repointed_reviseList (es : List Expression) :
    List.Forall₂ (Expression.Repointed moves) es (Expression.reviseList moves.step es).value := by
  cases es with
  | nil => exact .nil
  | cons e rest =>
    exact .cons (Expression.repointed_revise e) (Expression.repointed_reviseList rest)

theorem Expression.repointed_reviseArguments (es : List (Option Expression)) :
    List.Forall₂ (Option.Rel (Expression.Repointed moves)) es
      (Expression.reviseArguments moves.step es).value := by
  cases es with
  | nil => exact .nil
  | cons e rest =>
    exact .cons (Expression.repointed_reviseOption e) (Expression.repointed_reviseArguments rest)

theorem Branch.repointed_reviseList (bs : List Branch) :
    List.Forall₂ (Branch.Repointed moves) bs (Branch.reviseList moves.step bs).value := by
  cases bs with
  | nil => exact .nil
  | cons b rest => exact .cons (Branch.repointed_revise b) (Branch.repointed_reviseList rest)

theorem Statement.repointed_reviseList (ss : List Statement) :
    List.Forall₂ (Statement.Repointed moves) ss (Statement.reviseList moves.step ss).value := by
  cases ss with
  | nil => exact .nil
  | cons s rest => exact .cons (Statement.repointed_revise s) (Statement.repointed_reviseList rest)

end

end Revision

section Declarations

variable (moves : Moves)

def bodyRepointed : Option (List Statement) → Option (List Statement) → Prop :=
  Option.Rel (List.Forall₂ (Statement.Repointed moves))

structure ValueParameter.Repointed (p p' : ValueParameter) : Prop where
  defaultValue : Option.Rel (Expression.Repointed moves) p.defaultValue p'.defaultValue
  unchanged : p' = { p with defaultValue := p'.defaultValue }

structure FunctionDecl.Repointed (d d' : FunctionDecl) : Prop where
  extensionReceiver :
    Option.Rel (ValueParameter.Repointed moves) d.extensionReceiver d'.extensionReceiver
  valueParameters :
    List.Forall₂ (ValueParameter.Repointed moves) d.valueParameters d'.valueParameters
  body : bodyRepointed moves d.body d'.body
  unchanged : d' =
    { d with
      extensionReceiver := d'.extensionReceiver
      valueParameters := d'.valueParameters
      body := d'.body }

structure Delegation.Repointed (d d' : Delegation) : Prop where
  arguments : List.Forall₂ (Option.Rel (Expression.Repointed moves)) d.arguments d'.arguments
  unchanged : d' = { d with arguments := d'.arguments }

structure ConstructorDecl.Repointed (d d' : ConstructorDecl) : Prop where
  valueParameters :
    List.Forall₂ (ValueParameter.Repointed moves) d.valueParameters d'.valueParameters
  delegation : Option.Rel (Delegation.Repointed moves) d.delegation d'.delegation
  body : bodyRepointed moves d.body d'.body
  unchanged : d' =
    { d with
      valueParameters := d'.valueParameters
      delegation := d'.delegation
      body := d'.body }

structure PropertyDecl.Repointed (d d' : PropertyDecl) : Prop where
  getter : bodyRepointed moves d.getter d'.getter
  setter : bodyRepointed moves d.setter d'.setter
  initializer : Option.Rel (Expression.Repointed moves) d.initializer d'.initializer
  unchanged : d' =
    { d with getter := d'.getter, setter := d'.setter, initializer := d'.initializer }

structure FieldDecl.Repointed (d d' : FieldDecl) : Prop where
  initializer : Option.Rel (Expression.Repointed moves) d.initializer d'.initializer
  unchanged : d' = { d with initializer := d'.initializer }

mutual

inductive ClassDecl.Repointed : ClassDecl → ClassDecl → Prop
  | intro {c : ClassDecl} {declarations : List Declaration}
      (h : List.Forall₂ Declaration.Repointed c.declarations declarations) :
      ClassDecl.Repointed c { c with declarations }

/-- Two declarations that are the same but for the calls that follow what moved. -/
inductive Declaration.Repointed : Declaration → Declaration → Prop
  | ofClass {c c' : ClassDecl} (h : ClassDecl.Repointed c c') :
      Declaration.Repointed (.ofClass c) (.ofClass c')
  | function {d d' : FunctionDecl} (h : d.Repointed moves d') :
      Declaration.Repointed (.function d) (.function d')
  | constructor {d d' : ConstructorDecl} (h : d.Repointed moves d') :
      Declaration.Repointed (.constructor d) (.constructor d')
  | property {d d' : PropertyDecl} (h : d.Repointed moves d') :
      Declaration.Repointed (.property d) (.property d')
  | field {d d' : FieldDecl} (h : d.Repointed moves d') :
      Declaration.Repointed (.field d) (.field d')

end

/-- A callable and what became of it as a static member of a class. -/
inductive Declaration.MovedInto (holder : ClassId) : Declaration → Declaration → Prop
  | function {d d' : FunctionDecl}
      (h : FunctionDecl.Repointed moves
        { d with id := holder.member d.id.name, isStatic := true } d') :
      Declaration.MovedInto holder (.function d) (.function d')
  | property {d d' : PropertyDecl}
      (h : PropertyDecl.Repointed moves
        { d with id := holder.member d.id.name, isStatic := true } d') :
      Declaration.MovedInto holder (.property d) (.property d')

end Declarations

section DeclarationRevision

variable {moves : Moves}

theorem bodyRepointed_reviseBody (body : Option (List Statement)) :
    bodyRepointed moves body (reviseBody moves.step body).value := by
  cases body with
  | none => exact .none
  | some statements => exact .some (Statement.repointed_reviseList statements)

theorem forall₂_each {α : Type} {R : α → α → Prop} {f : α → Tally α}
    (h : ∀ a, R a (f a).value) (items : List α) :
    List.Forall₂ R items (Tally.each f items).value := by
  rw [Tally.value_each, List.forall₂_map_right_iff]
  exact List.forall₂_same.mpr fun a _ => h a

theorem rel_each_head? {α : Type} {R : α → α → Prop} {f : α → Tally α}
    (h : ∀ a, R a (f a).value) (item : Option α) :
    Option.Rel R item (Tally.each f item.toList).value.head? := by
  cases item with
  | none => exact .none
  | some a => exact .some (h a)

theorem ValueParameter.repointed_revise (p : ValueParameter) :
    p.Repointed moves (p.revise moves.step).value :=
  ⟨Expression.repointed_reviseOption p.defaultValue, rfl⟩

theorem FunctionDecl.repointed_revise (d : FunctionDecl) :
    d.Repointed moves (d.revise moves.step).value where
  extensionReceiver := rel_each_head? ValueParameter.repointed_revise d.extensionReceiver
  valueParameters := forall₂_each ValueParameter.repointed_revise d.valueParameters
  body := bodyRepointed_reviseBody d.body
  unchanged := rfl

theorem Delegation.repointed_revise (d : Delegation) :
    d.Repointed moves (d.revise moves.step).value :=
  ⟨Expression.repointed_reviseArguments d.arguments, rfl⟩

theorem ConstructorDecl.repointed_revise (d : ConstructorDecl) :
    d.Repointed moves (d.revise moves.step).value where
  valueParameters := forall₂_each ValueParameter.repointed_revise d.valueParameters
  delegation := rel_each_head? Delegation.repointed_revise d.delegation
  body := bodyRepointed_reviseBody d.body
  unchanged := rfl

theorem PropertyDecl.repointed_revise (d : PropertyDecl) :
    d.Repointed moves (d.revise moves.step).value where
  getter := bodyRepointed_reviseBody d.getter
  setter := bodyRepointed_reviseBody d.setter
  initializer := Expression.repointed_reviseOption d.initializer
  unchanged := rfl

theorem FieldDecl.repointed_revise (d : FieldDecl) :
    d.Repointed moves (d.revise moves.step).value :=
  ⟨Expression.repointed_reviseOption d.initializer, rfl⟩

mutual

theorem ClassDecl.repointed_revise (c : ClassDecl) :
    c.Repointed moves (c.revise moves.step).value := by
  obtain ⟨id, kind, modality, visibility, isLocal, isValue, isExpect, isExternal, isCompanion,
    typeParameters, supertypes, annotations, enumEntries, declarations, origin⟩ := c
  exact .intro (Declaration.repointed_reviseList declarations)

theorem Declaration.repointed_revise (d : Declaration) :
    d.Repointed moves (d.revise moves.step).value := by
  cases d with
  | ofClass decl => exact .ofClass (ClassDecl.repointed_revise decl)
  | function decl => exact .function decl.repointed_revise
  | constructor decl => exact .constructor decl.repointed_revise
  | property decl => exact .property decl.repointed_revise
  | field decl => exact .field decl.repointed_revise

theorem Declaration.repointed_reviseList (ds : List Declaration) :
    List.Forall₂ (Declaration.Repointed moves) ds (Declaration.reviseList moves.step ds).value := by
  cases ds with
  | nil => exact .nil
  | cons d rest =>
    exact .cons (Declaration.repointed_revise d) (Declaration.repointed_reviseList rest)

end

theorem Declaration.movedInto_revise {d : Declaration} (holder : ClassId)
    (h : d.callable?.isSome) :
    d.MovedInto moves holder ((d.moveInto holder).revise moves.step).value := by
  rcases Declaration.isSome_callable?_iff.mp h with ⟨decl, rfl⟩ | ⟨decl, rfl⟩
  · exact .function (FunctionDecl.repointed_revise _)
  · exact .property (PropertyDecl.repointed_revise _)

end DeclarationRevision

end KotlinBackend
