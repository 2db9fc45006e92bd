import KotlinBackend.Program.Renaming
import KotlinBackend.Proofs.Mention.Basic

/-!
# What it is to rename the classes of a program

`x.Renamed R y ids` says by rules that `y` is `x` with the class at every place that names one
replaced by a class that `R` relates to it, everything else being the same; `ids` are the classes at
these places of `x`, in order. The rules know neither the function that renames nor the list of
nodes. They have one solution when `R` is a function, and `mapClassIds` and `nodes` find it.
-/

namespace KotlinBackend

section Rules

/-- Some parts are renamed one by one. -/
inductive RenamedEach {α : Type} (r : α → α → List ClassId → Prop) :
    List α → List α → List ClassId → Prop
  | nil : RenamedEach r [] [] []
  | cons {a a' : α} {as as' : List α} {ids ids' : List ClassId} : r a a' ids →
    RenamedEach r as as' ids' → RenamedEach r (a :: as) (a' :: as') (ids ++ ids')

/-- A part that may be absent is renamed. -/
inductive RenamedOption {α : Type} (r : α → α → List ClassId → Prop) :
    Option α → Option α → List ClassId → Prop
  | none : RenamedOption r none none []
  | some {a a' : α} {ids : List ClassId} : r a a' ids → RenamedOption r (some a) (some a') ids

variable (R : ClassId → ClassId → Prop)

mutual

inductive SourceType.Renamed : SourceType → SourceType → List ClassId → Prop
  | applied {id id' arguments arguments' ids} (nullable : Bool) : R id id' →
    RenamedEach TypeArgument.Renamed arguments arguments' ids →
    SourceType.Renamed (.applied id arguments nullable) (.applied id' arguments' nullable)
      (id :: ids)
  | parameter (name : String) (nullable : Bool) :
    SourceType.Renamed (.parameter name nullable) (.parameter name nullable) []

inductive TypeArgument.Renamed : TypeArgument → TypeArgument → List ClassId → Prop
  | star : TypeArgument.Renamed .star .star []
  | projected {type type' ids} (variance : Variance) : SourceType.Renamed type type' ids →
    TypeArgument.Renamed (.projected variance type) (.projected variance type') ids

end

/-- The package of a member is the package of its class, so it follows. -/
inductive CallableId.Renamed : CallableId → CallableId → List ClassId → Prop
  | topLevel (package : QualifiedName) (name : String) :
    Renamed ⟨.inPackage package, name⟩ ⟨.inPackage package, name⟩ []
  | member {id id' : ClassId} (name : String) : R id id' →
    Renamed (id.member name) (id'.member name) [id]

mutual

inductive Expression.Renamed : Expression → Expression → List ClassId → Prop
  | constant (value : Constant) : Expression.Renamed (.constant value) (.constant value) []
  | readValue {type type' ids} (name : String) : type.Renamed R type' ids →
    Expression.Renamed (.readValue name type) (.readValue name type') ids
  | self {type type' ids} : type.Renamed R type' ids →
    Expression.Renamed (.self type) (.self type') ids
  | readField {receiver receiver' type type' ids₁ ids₂} (field : String) :
    RenamedOption Expression.Renamed receiver receiver' ids₁ → type.Renamed R type' ids₂ →
    Expression.Renamed (.readField receiver field type) (.readField receiver' field type')
      (ids₁ ++ ids₂)
  | object {id id'} : R id id' → Expression.Renamed (.object id) (.object id') [id]
  | call {c c' ids} : Call.Renamed c c' ids → Expression.Renamed (.call c) (.call c') ids
  | construct {id id' typeArguments typeArguments' arguments arguments' ids₁ ids₂} : R id id' →
    RenamedEach (SourceType.Renamed R) typeArguments typeArguments' ids₁ →
    RenamedEach (RenamedOption Expression.Renamed) arguments arguments' ids₂ →
    Expression.Renamed (.construct id typeArguments arguments)
      (.construct id' typeArguments' arguments') (id :: (ids₁ ++ ids₂))
  | concatenation {parts parts' ids} : RenamedEach Expression.Renamed parts parts' ids →
    Expression.Renamed (.concatenation parts) (.concatenation parts') ids
  | typeOperation {operand operand' type type' ids₁ ids₂} (operator : TypeOperator) :
    Expression.Renamed operand operand' ids₁ → type.Renamed R type' ids₂ →
    Expression.Renamed (.typeOperation operator operand type)
      (.typeOperation operator operand' type') (ids₁ ++ ids₂)
  | when {branches branches' type type' ids₁ ids₂} :
    RenamedEach Branch.Renamed branches branches' ids₁ → type.Renamed R type' ids₂ →
    Expression.Renamed (.when branches type) (.when branches' type') (ids₁ ++ ids₂)
  | block {statements statements' type type' ids₁ ids₂} :
    RenamedEach Statement.Renamed statements statements' ids₁ → type.Renamed R type' ids₂ →
    Expression.Renamed (.block statements type) (.block statements' type') (ids₁ ++ ids₂)
  | unsupported (kind : String) : Expression.Renamed (.unsupported kind) (.unsupported kind) []

inductive Call.Renamed : Call → Call → List ClassId → Prop
  | mk {callee callee' dispatchReceiver dispatchReceiver' extensionReceiver extensionReceiver'
      arguments arguments' typeArguments typeArguments' type type' ids₁ ids₂ ids₃ ids₄ ids₅ ids₆} :
    callee.Renamed R callee' ids₁ →
    RenamedOption Expression.Renamed dispatchReceiver dispatchReceiver' ids₂ →
    RenamedOption Expression.Renamed extensionReceiver extensionReceiver' ids₃ →
    RenamedEach (RenamedOption Expression.Renamed) arguments arguments' ids₄ →
    RenamedEach (SourceType.Renamed R) typeArguments typeArguments' ids₅ →
    type.Renamed R type' ids₆ →
    Call.Renamed
      ⟨callee, dispatchReceiver, extensionReceiver, arguments, typeArguments, type⟩
      ⟨callee', dispatchReceiver', extensionReceiver', arguments', typeArguments', type'⟩
      (ids₁ ++ ids₂ ++ ids₃ ++ ids₄ ++ ids₅ ++ ids₆)

inductive Branch.Renamed : Branch → Branch → List ClassId → Prop
  | mk {condition condition' result result' ids₁ ids₂} :
    Expression.Renamed condition condition' ids₁ → Expression.Renamed result result' ids₂ →
    Branch.Renamed ⟨condition, result⟩ ⟨condition', result'⟩ (ids₁ ++ ids₂)

inductive Statement.Renamed : Statement → Statement → List ClassId → Prop
  | evaluate {e e' ids} : Expression.Renamed e e' ids →
    Statement.Renamed (.evaluate e) (.evaluate e') ids
  | declare {type type' initializer initializer' ids₁ ids₂} (name : String) (isVariable : Bool) :
    type.Renamed R type' ids₁ →
    RenamedOption Expression.Renamed initializer initializer' ids₂ →
    Statement.Renamed (.declare name type initializer isVariable)
      (.declare name type' initializer' isVariable) (ids₁ ++ ids₂)
  | assign {value value' ids} (name : String) : Expression.Renamed value value' ids →
    Statement.Renamed (.assign name value) (.assign name value') ids
  | assignField {receiver receiver' value value' ids₁ ids₂} (field : String) :
    RenamedOption Expression.Renamed receiver receiver' ids₁ →
    Expression.Renamed value value' ids₂ →
    Statement.Renamed (.assignField receiver field value) (.assignField receiver' field value')
      (ids₁ ++ ids₂)
  | returns {value value' ids} : RenamedOption Expression.Renamed value value' ids →
    Statement.Renamed (.returns value) (.returns value') ids
  | conditional {condition condition' thenBranch thenBranch' elseBranch elseBranch'
      ids₁ ids₂ ids₃} : Expression.Renamed condition condition' ids₁ →
    RenamedEach Statement.Renamed thenBranch thenBranch' ids₂ →
    RenamedEach Statement.Renamed elseBranch elseBranch' ids₃ →
    Statement.Renamed (.conditional condition thenBranch elseBranch)
      (.conditional condition' thenBranch' elseBranch') (ids₁ ++ ids₂ ++ ids₃)
  | loop {condition condition' body body' ids₁ ids₂} :
    Expression.Renamed condition condition' ids₁ →
    RenamedEach Statement.Renamed body body' ids₂ →
    Statement.Renamed (.loop condition body) (.loop condition' body') (ids₁ ++ ids₂)
  | throws {value value' ids} : Expression.Renamed value value' ids →
    Statement.Renamed (.throws value) (.throws value') ids

end

inductive AnnotationUse.Renamed (a : AnnotationUse) : AnnotationUse → List ClassId → Prop
  | mk {id'} : R a.id id' → Renamed a { a with id := id' } [a.id]

inductive TypeParameter.Renamed (p : TypeParameter) : TypeParameter → List ClassId → Prop
  | mk {bounds' ids} : RenamedEach (SourceType.Renamed R) p.bounds bounds' ids →
    Renamed p { p with bounds := bounds' } ids

inductive ValueParameter.Renamed (p : ValueParameter) : ValueParameter → List ClassId → Prop
  | mk {type' defaultValue' ids₁ ids₂} : p.type.Renamed R type' ids₁ →
    RenamedOption (Expression.Renamed R) p.defaultValue defaultValue' ids₂ →
    Renamed p { p with type := type', defaultValue := defaultValue' } (ids₁ ++ ids₂)

inductive FunctionDecl.Renamed (d : FunctionDecl) : FunctionDecl → List ClassId → Prop
  | mk {id' typeParameters' extensionReceiver' valueParameters' returnType' annotations' body'
      ids₁ ids₂ ids₃ ids₄ ids₅ ids₆ ids₇} : d.id.Renamed R id' ids₁ →
    RenamedEach (TypeParameter.Renamed R) d.typeParameters typeParameters' ids₂ →
    RenamedOption (ValueParameter.Renamed R) d.extensionReceiver extensionReceiver' ids₃ →
    RenamedEach (ValueParameter.Renamed R) d.valueParameters valueParameters' ids₄ →
    d.returnType.Renamed R returnType' ids₅ →
    RenamedEach (AnnotationUse.Renamed R) d.annotations annotations' ids₆ →
    RenamedOption (RenamedEach (Statement.Renamed R)) d.body body' ids₇ →
    Renamed d
      { d with
        id := id', typeParameters := typeParameters', extensionReceiver := extensionReceiver'
        valueParameters := valueParameters', returnType := returnType'
        annotations := annotations', body := body' }
      (ids₁ ++ ids₂ ++ ids₃ ++ ids₄ ++ ids₅ ++ ids₆ ++ ids₇)

inductive Delegation.Renamed (d : Delegation) : Delegation → List ClassId → Prop
  | mk {arguments' ids} :
    RenamedEach (RenamedOption (Expression.Renamed R)) d.arguments arguments' ids →
    Renamed d { d with arguments := arguments' } ids

inductive ConstructorDecl.Renamed (d : ConstructorDecl) : ConstructorDecl → List ClassId → Prop
  | mk {id' valueParameters' delegation' body' ids₁ ids₂ ids₃} : R d.id id' →
    RenamedEach (ValueParameter.Renamed R) d.valueParameters valueParameters' ids₁ →
    RenamedOption (Delegation.Renamed R) d.delegation delegation' ids₂ →
    RenamedOption (RenamedEach (Statement.Renamed R)) d.body body' ids₃ →
    Renamed d
      { d with
        id := id', valueParameters := valueParameters', delegation := delegation', body := body' }
      (d.id :: (ids₁ ++ ids₂ ++ ids₃))

inductive PropertyDecl.Renamed (d : PropertyDecl) : PropertyDecl → List ClassId → Prop
  | mk {id' type' getter' setter' initializer' ids₁ ids₂ ids₃ ids₄ ids₅} :
    d.id.Renamed R id' ids₁ → d.type.Renamed R type' ids₂ →
    RenamedOption (RenamedEach (Statement.Renamed R)) d.getter getter' ids₃ →
    RenamedOption (RenamedEach (Statement.Renamed R)) d.setter setter' ids₄ →
    RenamedOption (Expression.Renamed R) d.initializer initializer' ids₅ →
    Renamed d
      { d with
        id := id', type := type', getter := getter', setter := setter'
        initializer := initializer' }
      (ids₁ ++ ids₂ ++ ids₃ ++ ids₄ ++ ids₅)

inductive FieldDecl.Renamed (d : FieldDecl) : FieldDecl → List ClassId → Prop
  | mk {type' initializer' ids₁ ids₂} : d.type.Renamed R type' ids₁ →
    RenamedOption (Expression.Renamed R) d.initializer initializer' ids₂ →
    Renamed d { d with type := type', initializer := initializer' } (ids₁ ++ ids₂)

mutual

inductive ClassDecl.Renamed : ClassDecl → ClassDecl → List ClassId → Prop
  | mk {c id' typeParameters' supertypes' annotations' declarations' ids₁ ids₂ ids₃ ids₄} :
    R (ClassDecl.id c) id' →
    RenamedEach (TypeParameter.Renamed R) c.typeParameters typeParameters' ids₁ →
    RenamedEach (SourceType.Renamed R) c.supertypes supertypes' ids₂ →
    RenamedEach (AnnotationUse.Renamed R) c.annotations annotations' ids₃ →
    RenamedEach Declaration.Renamed c.declarations declarations' ids₄ →
    ClassDecl.Renamed c
      { c with
        id := id', typeParameters := typeParameters', supertypes := supertypes'
        annotations := annotations', declarations := declarations' }
      (c.id :: (ids₁ ++ ids₂ ++ ids₃ ++ ids₄))

inductive Declaration.Renamed : Declaration → Declaration → List ClassId → Prop
  | ofClass {decl decl' ids} : ClassDecl.Renamed decl decl' ids →
    Declaration.Renamed (.ofClass decl) (.ofClass decl') ids
  | function {decl decl' ids} : FunctionDecl.Renamed R decl decl' ids →
    Declaration.Renamed (.function decl) (.function decl') ids
  | constructor {decl decl' ids} : ConstructorDecl.Renamed R decl decl' ids →
    Declaration.Renamed (.constructor decl) (.constructor decl') ids
  | property {decl decl' ids} : PropertyDecl.Renamed R decl decl' ids →
    Declaration.Renamed (.property decl) (.property decl') ids
  | field {decl decl' ids} : FieldDecl.Renamed R decl decl' ids →
    Declaration.Renamed (.field decl) (.field decl') ids

end

inductive SourceFile.Renamed (f : SourceFile) : SourceFile → List ClassId → Prop
  | mk {declarations' ids} : RenamedEach (Declaration.Renamed R) f.declarations declarations' ids →
    Renamed f { f with declarations := declarations' } ids

inductive SourceModule.Renamed (m : SourceModule) : SourceModule → List ClassId → Prop
  | mk {files' ids} : RenamedEach (SourceFile.Renamed R) m.files files' ids →
    Renamed m { m with files := files' } ids

end Rules

/-- The rules leave one way to rename `a`: it becomes `b`, and names `ids` before. -/
structure OnlyRenaming {α : Type} (r : α → α → List ClassId → Prop) (a b : α)
    (ids : List ClassId) : Prop where
  holds : r a b ids
  unique : ∀ {a' ids'}, r a a' ids' → a' = b ∧ ids' = ids

/-- The classes that are named among some nodes. -/
def namedIn (nodes : List Node) : List ClassId := nodes.filterMap Node.class?

@[simp] theorem namedIn_nil : namedIn [] = [] := rfl

theorem namedIn_expression (e : Expression) (nodes : List Node) :
    namedIn (.expression e :: nodes) = namedIn nodes := rfl

theorem namedIn_statement (nodes : List Node) : namedIn (.statement :: nodes) = namedIn nodes := rfl

theorem namedIn_classRef (id : ClassId) (nodes : List Node) :
    namedIn (.classRef id :: nodes) = id :: namedIn nodes := rfl

@[simp] theorem namedIn_append (nodes nodes' : List Node) :
    namedIn (nodes ++ nodes') = namedIn nodes ++ namedIn nodes' := List.filterMap_append

@[simp] theorem namedIn_flatMap {α : Type} (items : List α) (f : α → List Node) :
    namedIn (items.flatMap f) = items.flatMap fun a => namedIn (f a) := by
  induction items with
  | nil => rfl
  | cons a rest ih => simp [ih]

@[simp] theorem namedIn_classRefs (ids : List ClassId) : namedIn (ids.map .classRef) = ids := by
  induction ids with
  | nil => rfl
  | cons id rest ih => rw [List.map_cons, namedIn_classRef, ih]

namespace OnlyRenaming

variable {α : Type} {r : α → α → List ClassId → Prop}

theorem nil : OnlyRenaming (RenamedEach r) [] [] [] := by
  refine ⟨.nil, ?_⟩
  intro as' ids' h
  cases h
  exact ⟨rfl, rfl⟩

theorem cons {a b : α} {as bs : List α} {ids ids' : List ClassId} (h : OnlyRenaming r a b ids)
    (h' : OnlyRenaming (RenamedEach r) as bs ids') :
    OnlyRenaming (RenamedEach r) (a :: as) (b :: bs) (ids ++ ids') := by
  refine ⟨.cons h.holds h'.holds, ?_⟩
  intro as' ids' hEach
  cases hEach with
  | cons hFirst hRest =>
    obtain ⟨rfl, rfl⟩ := h.unique hFirst
    obtain ⟨rfl, rfl⟩ := h'.unique hRest
    exact ⟨rfl, rfl⟩

theorem none : OnlyRenaming (RenamedOption r) none none [] := by
  refine ⟨.none, ?_⟩
  intro a' ids' h
  cases h
  exact ⟨rfl, rfl⟩

theorem some {a b : α} {ids : List ClassId} (h : OnlyRenaming r a b ids) :
    OnlyRenaming (RenamedOption r) (some a) (some b) ids := by
  refine ⟨.some h.holds, ?_⟩
  intro a' ids' hSome
  cases hSome with
  | some hPart =>
    obtain ⟨rfl, rfl⟩ := h.unique hPart
    exact ⟨rfl, rfl⟩

theorem each {g : α → α} {names : α → List ClassId}
    (h : ∀ a, OnlyRenaming r a (g a) (names a)) (as : List α) :
    OnlyRenaming (RenamedEach r) as (as.map g) (as.flatMap names) := by
  induction as with
  | nil => exact nil
  | cons a rest ih => exact (h a).cons ih

theorem option {g : α → α} {names : α → List ClassId}
    (h : ∀ a, OnlyRenaming r a (g a) (names a)) (a : Option α) :
    OnlyRenaming (RenamedOption r) a (a.map g) (a.toList.flatMap names) := by
  cases a with
  | none => exact none
  | some a =>
    rw [Option.toList_some, List.flatMap_singleton]
    exact (h a).some

end OnlyRenaming

/-- A class is replaced by its image under a function. -/
def IsImage (f : ClassId → ClassId) (id id' : ClassId) : Prop := id' = f id

section Solution

variable {f : ClassId → ClassId}

mutual

theorem SourceType.onlyRenaming_classIds (t : SourceType) :
    OnlyRenaming (SourceType.Renamed (IsImage f)) t (t.mapClassIds f) t.classIds := by
  cases t with
  | applied id arguments nullable =>
    have hArguments := TypeArgument.onlyRenaming_list arguments
    refine ⟨.applied nullable rfl hArguments.holds, ?_⟩
    intro t' ids h
    cases h with
    | applied _ hId hEach =>
      obtain rfl := hId
      obtain ⟨rfl, rfl⟩ := hArguments.unique hEach
      exact ⟨rfl, rfl⟩
  | parameter name nullable =>
    refine ⟨.parameter name nullable, ?_⟩
    intro t' ids h
    cases h
    exact ⟨rfl, rfl⟩

theorem TypeArgument.onlyRenaming (a : TypeArgument) :
    OnlyRenaming (TypeArgument.Renamed (IsImage f)) a (a.mapClassIds f) a.classIds := by
  cases a with
  | star =>
    refine ⟨.star, ?_⟩
    intro a' ids h
    cases h
    exact ⟨rfl, rfl⟩
  | projected variance type =>
    have hType := SourceType.onlyRenaming_classIds type
    refine ⟨.projected variance hType.holds, ?_⟩
    intro a' ids h
    cases h with
    | projected _ h =>
      obtain ⟨rfl, rfl⟩ := hType.unique h
      exact ⟨rfl, rfl⟩

theorem TypeArgument.onlyRenaming_list (arguments : List TypeArgument) :
    OnlyRenaming (RenamedEach (TypeArgument.Renamed (IsImage f))) arguments
      (TypeArgument.listMapClassIds f arguments) (TypeArgument.listClassIds arguments) := by
  cases arguments with
  | nil => exact .nil
  | cons a rest =>
    exact (TypeArgument.onlyRenaming a).cons (TypeArgument.onlyRenaming_list rest)

end

theorem SourceType.onlyRenaming (t : SourceType) :
    OnlyRenaming (SourceType.Renamed (IsImage f)) t (t.mapClassIds f) (namedIn t.nodes) := by
  have hNamed : namedIn t.nodes = t.classIds := namedIn_classRefs t.classIds
  rw [hNamed]
  exact t.onlyRenaming_classIds

theorem SourceType.onlyRenaming_list (types : List SourceType) :
    OnlyRenaming (RenamedEach (SourceType.Renamed (IsImage f))) types
      (types.map (·.mapClassIds f)) (namedIn (SourceType.listNodes types)) := by
  rw [SourceType.listNodes, namedIn_flatMap]
  exact .each SourceType.onlyRenaming types

theorem CallableId.onlyRenaming (id : CallableId) :
    OnlyRenaming (CallableId.Renamed (IsImage f)) id (id.mapClassId f) (namedIn id.nodes) := by
  obtain ⟨owner, name⟩ := id
  cases owner with
  | inPackage package =>
    refine ⟨.topLevel package name, ?_⟩
    intro id' ids h
    cases h
    exact ⟨rfl, rfl⟩
  | inClass holder =>
    refine ⟨.member name rfl, ?_⟩
    intro id' ids h
    cases h with
    | member _ hHolder =>
      obtain rfl := hHolder
      exact ⟨rfl, rfl⟩

mutual

theorem Expression.onlyRenaming (e : Expression) :
    OnlyRenaming (Expression.Renamed (IsImage f)) e (e.mapClassIds f) (namedIn e.nodes) := by
  cases e with
  | constant value =>
    refine ⟨.constant value, ?_⟩
    intro e' ids h
    cases h
    exact ⟨rfl, rfl⟩
  | readValue name type =>
    have hType := SourceType.onlyRenaming (f := f) type
    refine ⟨.readValue name hType.holds, ?_⟩
    intro e' ids h
    cases h with
    | readValue _ h =>
      obtain ⟨rfl, rfl⟩ := hType.unique h
      exact ⟨rfl, rfl⟩
  | self type =>
    have hType := SourceType.onlyRenaming (f := f) type
    refine ⟨.self hType.holds, ?_⟩
    intro e' ids h
    cases h with
    | self h =>
      obtain ⟨rfl, rfl⟩ := hType.unique h
      exact ⟨rfl, rfl⟩
  | readField receiver field type =>
    have hReceiver := Expression.onlyRenaming_option receiver
    have hType := SourceType.onlyRenaming (f := f) type
    simp only [Expression.nodes, namedIn_expression, namedIn_append]
    refine ⟨.readField field hReceiver.holds hType.holds, ?_⟩
    intro e' ids h
    cases h with
    | readField _ h₁ h₂ =>
      obtain ⟨rfl, rfl⟩ := hReceiver.unique h₁
      obtain ⟨rfl, rfl⟩ := hType.unique h₂
      exact ⟨rfl, rfl⟩
  | object id =>
    refine ⟨.object rfl, ?_⟩
    intro e' ids h
    cases h with
    | object h =>
      obtain rfl := h
      exact ⟨rfl, rfl⟩
  | call c =>
    have hCall := Call.onlyRenaming c
    refine ⟨.call hCall.holds, ?_⟩
    intro e' ids h
    cases h with
    | call h =>
      obtain ⟨rfl, rfl⟩ := hCall.unique h
      exact ⟨rfl, rfl⟩
  | construct id typeArguments arguments =>
    have hTypes := SourceType.onlyRenaming_list (f := f) typeArguments
    have hArguments := Expression.onlyRenaming_arguments arguments
    simp only [Expression.nodes, namedIn_expression, namedIn_classRef, namedIn_append]
    refine ⟨.construct rfl hTypes.holds hArguments.holds, ?_⟩
    intro e' ids h
    cases h with
    | construct h h₁ h₂ =>
      obtain rfl := h
      obtain ⟨rfl, rfl⟩ := hTypes.unique h₁
      obtain ⟨rfl, rfl⟩ := hArguments.unique h₂
      exact ⟨rfl, rfl⟩
  | concatenation parts =>
    have hParts := Expression.onlyRenaming_list parts
    refine ⟨.concatenation hParts.holds, ?_⟩
    intro e' ids h
    cases h with
    | concatenation h =>
      obtain ⟨rfl, rfl⟩ := hParts.unique h
      exact ⟨rfl, rfl⟩
  | typeOperation operator operand type =>
    have hOperand := Expression.onlyRenaming operand
    have hType := SourceType.onlyRenaming (f := f) type
    simp only [Expression.nodes, namedIn_expression, namedIn_append]
    refine ⟨.typeOperation operator hOperand.holds hType.holds, ?_⟩
    intro e' ids h
    cases h with
    | typeOperation _ h₁ h₂ =>
      obtain ⟨rfl, rfl⟩ := hOperand.unique h₁
      obtain ⟨rfl, rfl⟩ := hType.unique h₂
      exact ⟨rfl, rfl⟩
  | «when» branches type =>
    have hBranches := Branch.onlyRenaming_list branches
    have hType := SourceType.onlyRenaming (f := f) type
    simp only [Expression.nodes, namedIn_expression, namedIn_append]
    refine ⟨.when hBranches.holds hType.holds, ?_⟩
    intro e' ids h
    cases h with
    | «when» h₁ h₂ =>
      obtain ⟨rfl, rfl⟩ := hBranches.unique h₁
      obtain ⟨rfl, rfl⟩ := hType.unique h₂
      exact ⟨rfl, rfl⟩
  | block statements type =>
    have hStatements := Statement.onlyRenaming_list statements
    have hType := SourceType.onlyRenaming (f := f) type
    simp only [Expression.nodes, namedIn_expression, namedIn_append]
    refine ⟨.block hStatements.holds hType.holds, ?_⟩
    intro e' ids h
    cases h with
    | block h₁ h₂ =>
      obtain ⟨rfl, rfl⟩ := hStatements.unique h₁
      obtain ⟨rfl, rfl⟩ := hType.unique h₂
      exact ⟨rfl, rfl⟩
  | unsupported kind =>
    refine ⟨.unsupported kind, ?_⟩
    intro e' ids h
    cases h
    exact ⟨rfl, rfl⟩

theorem Call.onlyRenaming (c : Call) :
    OnlyRenaming (Call.Renamed (IsImage f)) c (c.mapClassIds f) (namedIn c.nodes) := by
  obtain ⟨callee, dispatchReceiver, extensionReceiver, arguments, typeArguments, type⟩ := c
  have hCallee := CallableId.onlyRenaming (f := f) callee
  have hDispatch := Expression.onlyRenaming_option dispatchReceiver
  have hExtension := Expression.onlyRenaming_option extensionReceiver
  have hArguments := Expression.onlyRenaming_arguments arguments
  have hTypes := SourceType.onlyRenaming_list (f := f) typeArguments
  have hType := SourceType.onlyRenaming (f := f) type
  simp only [Call.nodes, namedIn_append]
  refine ⟨.mk hCallee.holds hDispatch.holds hExtension.holds hArguments.holds hTypes.holds
    hType.holds, ?_⟩
  intro c' ids h
  cases h with
  | mk h₁ h₂ h₃ h₄ h₅ h₆ =>
    obtain ⟨rfl, rfl⟩ := hCallee.unique h₁
    obtain ⟨rfl, rfl⟩ := hDispatch.unique h₂
    obtain ⟨rfl, rfl⟩ := hExtension.unique h₃
    obtain ⟨rfl, rfl⟩ := hArguments.unique h₄
    obtain ⟨rfl, rfl⟩ := hTypes.unique h₅
    obtain ⟨rfl, rfl⟩ := hType.unique h₆
    exact ⟨rfl, rfl⟩

theorem Branch.onlyRenaming (b : Branch) :
    OnlyRenaming (Branch.Renamed (IsImage f)) b (b.mapClassIds f) (namedIn b.nodes) := by
  obtain ⟨condition, result⟩ := b
  have hCondition := Expression.onlyRenaming condition
  have hResult := Expression.onlyRenaming result
  simp only [Branch.nodes, namedIn_append]
  refine ⟨.mk hCondition.holds hResult.holds, ?_⟩
  intro b' ids h
  cases h with
  | mk h₁ h₂ =>
    obtain ⟨rfl, rfl⟩ := hCondition.unique h₁
    obtain ⟨rfl, rfl⟩ := hResult.unique h₂
    exact ⟨rfl, rfl⟩

theorem Statement.onlyRenaming (s : Statement) :
    OnlyRenaming (Statement.Renamed (IsImage f)) s (s.mapClassIds f) (namedIn s.nodes) := by
  cases s with
  | evaluate e =>
    have hValue := Expression.onlyRenaming e
    refine ⟨.evaluate hValue.holds, ?_⟩
    intro s' ids h
    cases h with
    | evaluate h =>
      obtain ⟨rfl, rfl⟩ := hValue.unique h
      exact ⟨rfl, rfl⟩
  | declare name type initializer isVariable =>
    have hType := SourceType.onlyRenaming (f := f) type
    have hInitializer := Expression.onlyRenaming_option initializer
    simp only [Statement.nodes, namedIn_statement, namedIn_append]
    refine ⟨.declare name isVariable hType.holds hInitializer.holds, ?_⟩
    intro s' ids h
    cases h with
    | declare _ _ h₁ h₂ =>
      obtain ⟨rfl, rfl⟩ := hType.unique h₁
      obtain ⟨rfl, rfl⟩ := hInitializer.unique h₂
      exact ⟨rfl, rfl⟩
  | assign name value =>
    have hValue := Expression.onlyRenaming value
    refine ⟨.assign name hValue.holds, ?_⟩
    intro s' ids h
    cases h with
    | assign _ h =>
      obtain ⟨rfl, rfl⟩ := hValue.unique h
      exact ⟨rfl, rfl⟩
  | assignField receiver field value =>
    have hReceiver := Expression.onlyRenaming_option receiver
    have hValue := Expression.onlyRenaming value
    simp only [Statement.nodes, namedIn_statement, namedIn_append]
    refine ⟨.assignField field hReceiver.holds hValue.holds, ?_⟩
    intro s' ids h
    cases h with
    | assignField _ h₁ h₂ =>
      obtain ⟨rfl, rfl⟩ := hReceiver.unique h₁
      obtain ⟨rfl, rfl⟩ := hValue.unique h₂
      exact ⟨rfl, rfl⟩
  | returns value =>
    have hValue := Expression.onlyRenaming_option value
    refine ⟨.returns hValue.holds, ?_⟩
    intro s' ids h
    cases h with
    | returns h =>
      obtain ⟨rfl, rfl⟩ := hValue.unique h
      exact ⟨rfl, rfl⟩
  | conditional condition thenBranch elseBranch =>
    have hCondition := Expression.onlyRenaming condition
    have hThen := Statement.onlyRenaming_list thenBranch
    have hElse := Statement.onlyRenaming_list elseBranch
    simp only [Statement.nodes, namedIn_statement, namedIn_append]
    refine ⟨.conditional hCondition.holds hThen.holds hElse.holds, ?_⟩
    intro s' ids h
    cases h with
    | conditional h₁ h₂ h₃ =>
      obtain ⟨rfl, rfl⟩ := hCondition.unique h₁
      obtain ⟨rfl, rfl⟩ := hThen.unique h₂
      obtain ⟨rfl, rfl⟩ := hElse.unique h₃
      exact ⟨rfl, rfl⟩
  | loop condition body =>
    have hCondition := Expression.onlyRenaming condition
    have hBody := Statement.onlyRenaming_list body
    simp only [Statement.nodes, namedIn_statement, namedIn_append]
    refine ⟨.loop hCondition.holds hBody.holds, ?_⟩
    intro s' ids h
    cases h with
    | loop h₁ h₂ =>
      obtain ⟨rfl, rfl⟩ := hCondition.unique h₁
      obtain ⟨rfl, rfl⟩ := hBody.unique h₂
      exact ⟨rfl, rfl⟩
  | throws value =>
    have hValue := Expression.onlyRenaming value
    refine ⟨.throws hValue.holds, ?_⟩
    intro s' ids h
    cases h with
    | throws h =>
      obtain ⟨rfl, rfl⟩ := hValue.unique h
      exact ⟨rfl, rfl⟩

theorem Expression.onlyRenaming_option (e : Option Expression) :
    OnlyRenaming (RenamedOption (Expression.Renamed (IsImage f))) e
      (Expression.mapClassIdsOption f e) (namedIn (Expression.optionNodes e)) := by
  cases e with
  | none => exact .none
  | some e => exact (Expression.onlyRenaming e).some

theorem Expression.onlyRenaming_list (es : List Expression) :
    OnlyRenaming (RenamedEach (Expression.Renamed (IsImage f))) es
      (Expression.mapClassIdsList f es) (namedIn (Expression.listNodes es)) := by
  cases es with
  | nil => exact .nil
  | cons e rest =>
    rw [Expression.listNodes, namedIn_append]
    exact (Expression.onlyRenaming e).cons (Expression.onlyRenaming_list rest)

theorem Expression.onlyRenaming_arguments (es : List (Option Expression)) :
    OnlyRenaming (RenamedEach (RenamedOption (Expression.Renamed (IsImage f)))) es
      (Expression.mapClassIdsArguments f es) (namedIn (Expression.argumentNodes es)) := by
  cases es with
  | nil => exact .nil
  | cons e rest =>
    rw [Expression.argumentNodes, namedIn_append]
    exact (Expression.onlyRenaming_option e).cons (Expression.onlyRenaming_arguments rest)

theorem Branch.onlyRenaming_list (bs : List Branch) :
    OnlyRenaming (RenamedEach (Branch.Renamed (IsImage f))) bs
      (Branch.mapClassIdsList f bs) (namedIn (Branch.listNodes bs)) := by
  cases bs with
  | nil => exact .nil
  | cons b rest =>
    rw [Branch.listNodes, namedIn_append]
    exact (Branch.onlyRenaming b).cons (Branch.onlyRenaming_list rest)

theorem Statement.onlyRenaming_list (ss : List Statement) :
    OnlyRenaming (RenamedEach (Statement.Renamed (IsImage f))) ss
      (Statement.mapClassIdsList f ss) (namedIn (Statement.listNodes ss)) := by
  cases ss with
  | nil => exact .nil
  | cons s rest =>
    rw [Statement.listNodes, namedIn_append]
    exact (Statement.onlyRenaming s).cons (Statement.onlyRenaming_list rest)

end

theorem Expression.onlyRenaming_mapOption (e : Option Expression) :
    OnlyRenaming (RenamedOption (Expression.Renamed (IsImage f))) e
      (e.map (·.mapClassIds f)) (namedIn (Expression.optionNodes e)) := by
  cases e with
  | none => exact .none
  | some e => exact (Expression.onlyRenaming e).some

theorem onlyRenaming_body (body : Option (List Statement)) :
    OnlyRenaming (RenamedOption (RenamedEach (Statement.Renamed (IsImage f)))) body
      (body.map (Statement.mapClassIdsList f)) (namedIn (bodyNodes body)) := by
  cases body with
  | none => exact .none
  | some statements => exact (Statement.onlyRenaming_list statements).some

theorem AnnotationUse.onlyRenaming (a : AnnotationUse) :
    OnlyRenaming (AnnotationUse.Renamed (IsImage f)) a (a.mapClassIds f) (namedIn a.nodes) := by
  refine ⟨.mk rfl, ?_⟩
  intro a' ids h
  cases h with
  | mk h =>
    obtain rfl := h
    exact ⟨rfl, rfl⟩

theorem TypeParameter.onlyRenaming (p : TypeParameter) :
    OnlyRenaming (TypeParameter.Renamed (IsImage f)) p (p.mapClassIds f) (namedIn p.nodes) := by
  have hBounds := SourceType.onlyRenaming_list (f := f) p.bounds
  refine ⟨.mk hBounds.holds, ?_⟩
  intro p' ids h
  cases h with
  | mk h =>
    obtain ⟨rfl, rfl⟩ := hBounds.unique h
    exact ⟨rfl, rfl⟩

theorem ValueParameter.onlyRenaming (p : ValueParameter) :
    OnlyRenaming (ValueParameter.Renamed (IsImage f)) p (p.mapClassIds f) (namedIn p.nodes) := by
  have hType := SourceType.onlyRenaming (f := f) p.type
  have hDefault := Expression.onlyRenaming_mapOption (f := f) p.defaultValue
  have hNamed : namedIn p.nodes =
      namedIn p.type.nodes ++ namedIn (Expression.optionNodes p.defaultValue) :=
    namedIn_append _ _
  rw [hNamed]
  refine ⟨.mk hType.holds hDefault.holds, ?_⟩
  intro p' ids h
  cases h with
  | mk h₁ h₂ =>
    obtain ⟨rfl, rfl⟩ := hType.unique h₁
    obtain ⟨rfl, rfl⟩ := hDefault.unique h₂
    exact ⟨rfl, rfl⟩

theorem FunctionDecl.onlyRenaming (d : FunctionDecl) :
    OnlyRenaming (FunctionDecl.Renamed (IsImage f)) d (d.mapClassIds f) (namedIn d.nodes) := by
  have hId := CallableId.onlyRenaming (f := f) d.id
  have hTypes := OnlyRenaming.each (TypeParameter.onlyRenaming (f := f)) d.typeParameters
  have hReceiver := OnlyRenaming.option (ValueParameter.onlyRenaming (f := f)) d.extensionReceiver
  have hParameters := OnlyRenaming.each (ValueParameter.onlyRenaming (f := f)) d.valueParameters
  have hReturn := SourceType.onlyRenaming (f := f) d.returnType
  have hAnnotations := OnlyRenaming.each (AnnotationUse.onlyRenaming (f := f)) d.annotations
  have hBody := onlyRenaming_body (f := f) d.body
  simp only [FunctionDecl.nodes, namedIn_append, namedIn_flatMap]
  refine ⟨.mk hId.holds hTypes.holds hReceiver.holds hParameters.holds hReturn.holds
    hAnnotations.holds hBody.holds, ?_⟩
  intro d' ids h
  cases h with
  | mk h₁ h₂ h₃ h₄ h₅ h₆ h₇ =>
    obtain ⟨rfl, rfl⟩ := hId.unique h₁
    obtain ⟨rfl, rfl⟩ := hTypes.unique h₂
    obtain ⟨rfl, rfl⟩ := hReceiver.unique h₃
    obtain ⟨rfl, rfl⟩ := hParameters.unique h₄
    obtain ⟨rfl, rfl⟩ := hReturn.unique h₅
    obtain ⟨rfl, rfl⟩ := hAnnotations.unique h₆
    obtain ⟨rfl, rfl⟩ := hBody.unique h₇
    exact ⟨rfl, rfl⟩

theorem Delegation.onlyRenaming (d : Delegation) :
    OnlyRenaming (Delegation.Renamed (IsImage f)) d (d.mapClassIds f)
      (namedIn (Expression.argumentNodes d.arguments)) := by
  have hArguments := Expression.onlyRenaming_arguments (f := f) d.arguments
  refine ⟨.mk hArguments.holds, ?_⟩
  intro d' ids h
  cases h with
  | mk h =>
    obtain ⟨rfl, rfl⟩ := hArguments.unique h
    exact ⟨rfl, rfl⟩

theorem ConstructorDecl.onlyRenaming (d : ConstructorDecl) :
    OnlyRenaming (ConstructorDecl.Renamed (IsImage f)) d (d.mapClassIds f)
      (namedIn d.nodes) := by
  have hParameters := OnlyRenaming.each (ValueParameter.onlyRenaming (f := f)) d.valueParameters
  have hDelegation := OnlyRenaming.option (Delegation.onlyRenaming (f := f)) d.delegation
  have hBody := onlyRenaming_body (f := f) d.body
  simp only [ConstructorDecl.nodes, namedIn_classRef, namedIn_append, namedIn_flatMap]
  refine ⟨.mk rfl hParameters.holds hDelegation.holds hBody.holds, ?_⟩
  intro d' ids h
  cases h with
  | mk h h₁ h₂ h₃ =>
    obtain rfl := h
    obtain ⟨rfl, rfl⟩ := hParameters.unique h₁
    obtain ⟨rfl, rfl⟩ := hDelegation.unique h₂
    obtain ⟨rfl, rfl⟩ := hBody.unique h₃
    exact ⟨rfl, rfl⟩

theorem PropertyDecl.onlyRenaming (d : PropertyDecl) :
    OnlyRenaming (PropertyDecl.Renamed (IsImage f)) d (d.mapClassIds f) (namedIn d.nodes) := by
  have hId := CallableId.onlyRenaming (f := f) d.id
  have hType := SourceType.onlyRenaming (f := f) d.type
  have hGetter := onlyRenaming_body (f := f) d.getter
  have hSetter := onlyRenaming_body (f := f) d.setter
  have hInitializer := Expression.onlyRenaming_mapOption (f := f) d.initializer
  simp only [PropertyDecl.nodes, namedIn_append]
  refine ⟨.mk hId.holds hType.holds hGetter.holds hSetter.holds hInitializer.holds, ?_⟩
  intro d' ids h
  cases h with
  | mk h₁ h₂ h₃ h₄ h₅ =>
    obtain ⟨rfl, rfl⟩ := hId.unique h₁
    obtain ⟨rfl, rfl⟩ := hType.unique h₂
    obtain ⟨rfl, rfl⟩ := hGetter.unique h₃
    obtain ⟨rfl, rfl⟩ := hSetter.unique h₄
    obtain ⟨rfl, rfl⟩ := hInitializer.unique h₅
    exact ⟨rfl, rfl⟩

theorem FieldDecl.onlyRenaming (d : FieldDecl) :
    OnlyRenaming (FieldDecl.Renamed (IsImage f)) d (d.mapClassIds f) (namedIn d.nodes) := by
  have hType := SourceType.onlyRenaming (f := f) d.type
  have hInitializer := Expression.onlyRenaming_mapOption (f := f) d.initializer
  simp only [FieldDecl.nodes, namedIn_append]
  refine ⟨.mk hType.holds hInitializer.holds, ?_⟩
  intro d' ids h
  cases h with
  | mk h₁ h₂ =>
    obtain ⟨rfl, rfl⟩ := hType.unique h₁
    obtain ⟨rfl, rfl⟩ := hInitializer.unique h₂
    exact ⟨rfl, rfl⟩

mutual

theorem ClassDecl.onlyRenaming (c : ClassDecl) :
    OnlyRenaming (ClassDecl.Renamed (IsImage f)) c (c.mapClassIds f) (namedIn c.nodes) := by
  obtain ⟨id, kind, modality, visibility, isLocal, isValue, isExpect, isExternal, isCompanion,
    typeParameters, supertypes, annotations, enumEntries, declarations, origin⟩ := c
  have hTypes := OnlyRenaming.each (TypeParameter.onlyRenaming (f := f)) typeParameters
  have hSupertypes := SourceType.onlyRenaming_list (f := f) supertypes
  have hAnnotations := OnlyRenaming.each (AnnotationUse.onlyRenaming (f := f)) annotations
  have hDeclarations := Declaration.onlyRenaming_list declarations
  simp only [ClassDecl.nodes, namedIn_classRef, namedIn_append, namedIn_flatMap]
  refine ⟨.mk rfl hTypes.holds hSupertypes.holds hAnnotations.holds hDeclarations.holds, ?_⟩
  intro c' ids h
  cases h with
  | mk h h₁ h₂ h₃ h₄ =>
    obtain rfl := h
    obtain ⟨rfl, rfl⟩ := hTypes.unique h₁
    obtain ⟨rfl, rfl⟩ := hSupertypes.unique h₂
    obtain ⟨rfl, rfl⟩ := hAnnotations.unique h₃
    obtain ⟨rfl, rfl⟩ := hDeclarations.unique h₄
    exact ⟨rfl, rfl⟩

theorem Declaration.onlyRenaming (d : Declaration) :
    OnlyRenaming (Declaration.Renamed (IsImage f)) d (d.mapClassIds f) (namedIn d.nodes) := by
  cases d with
  | ofClass decl =>
    have hDecl := ClassDecl.onlyRenaming decl
    refine ⟨.ofClass hDecl.holds, ?_⟩
    intro d' ids h
    cases h with
    | ofClass h =>
      obtain ⟨rfl, rfl⟩ := hDecl.unique h
      exact ⟨rfl, rfl⟩
  | function decl =>
    have hDecl := FunctionDecl.onlyRenaming (f := f) decl
    refine ⟨.function hDecl.holds, ?_⟩
    intro d' ids h
    cases h with
    | function h =>
      obtain ⟨rfl, rfl⟩ := hDecl.unique h
      exact ⟨rfl, rfl⟩
  | constructor decl =>
    have hDecl := ConstructorDecl.onlyRenaming (f := f) decl
    refine ⟨.constructor hDecl.holds, ?_⟩
    intro d' ids h
    cases h with
    | constructor h =>
      obtain ⟨rfl, rfl⟩ := hDecl.unique h
      exact ⟨rfl, rfl⟩
  | property decl =>
    have hDecl := PropertyDecl.onlyRenaming (f := f) decl
    refine ⟨.property hDecl.holds, ?_⟩
    intro d' ids h
    cases h with
    | property h =>
      obtain ⟨rfl, rfl⟩ := hDecl.unique h
      exact ⟨rfl, rfl⟩
  | field decl =>
    have hDecl := FieldDecl.onlyRenaming (f := f) decl
    refine ⟨.field hDecl.holds, ?_⟩
    intro d' ids h
    cases h with
    | field h =>
      obtain ⟨rfl, rfl⟩ := hDecl.unique h
      exact ⟨rfl, rfl⟩

theorem Declaration.onlyRenaming_list (ds : List Declaration) :
    OnlyRenaming (RenamedEach (Declaration.Renamed (IsImage f))) ds
      (Declaration.mapClassIdsList f ds) (namedIn (Declaration.listNodes ds)) := by
  cases ds with
  | nil => exact .nil
  | cons d rest =>
    rw [Declaration.listNodes, namedIn_append]
    exact (Declaration.onlyRenaming d).cons (Declaration.onlyRenaming_list rest)

end

theorem SourceFile.onlyRenaming (file : SourceFile) :
    OnlyRenaming (SourceFile.Renamed (IsImage f)) file (file.mapClassIds f)
      (namedIn file.nodes) := by
  have hDeclarations := Declaration.onlyRenaming_list (f := f) file.declarations
  refine ⟨.mk hDeclarations.holds, ?_⟩
  intro file' ids h
  cases h with
  | mk h =>
    obtain ⟨rfl, rfl⟩ := hDeclarations.unique h
    exact ⟨rfl, rfl⟩

/-- A function renames the classes of a module in one way: `mapClassIds` gives the module and the
nodes have the classes at the renamed places. -/
theorem SourceModule.onlyRenaming (m : SourceModule) :
    OnlyRenaming (SourceModule.Renamed (IsImage f)) m (m.mapClassIds f) (namedIn m.nodes) := by
  have hFiles := OnlyRenaming.each (SourceFile.onlyRenaming (f := f)) m.files
  rw [SourceModule.nodes, namedIn_flatMap]
  refine ⟨.mk hFiles.holds, ?_⟩
  intro m' ids h
  cases h with
  | mk h =>
    obtain ⟨rfl, rfl⟩ := hFiles.unique h
    exact ⟨rfl, rfl⟩

end Solution

end KotlinBackend
