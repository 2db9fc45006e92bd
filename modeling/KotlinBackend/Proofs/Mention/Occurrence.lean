import KotlinBackend.Program.Node

/-!
# What occurs in a program

`x.Contains node` says by rules, one for each place, that a node is somewhere in `x`. The rules do
not know in which order nodes are listed or how often a place is visited. The main statements say
that `nodes` lists exactly what the rules allow, so that whatever is read off this list misses no
place of the syntax and makes none up.
-/

namespace KotlinBackend

/-- A class is the head of a type or is named in one of its arguments. -/
inductive SourceType.Names : SourceType → ClassId → Prop
  | head (id : ClassId) (arguments : List TypeArgument) (nullable : Bool) :
    Names (.applied id arguments nullable) id
  | argument {id : ClassId} {arguments : List TypeArgument} {nullable : Bool} {variance : Variance}
    {type : SourceType} {named : ClassId} : .projected variance type ∈ arguments →
    Names type named → Names (.applied id arguments nullable) named

inductive SourceType.Contains : SourceType → Node → Prop
  | itself (t : SourceType) : Contains t (.type t)
  | named {t : SourceType} {id : ClassId} : t.Names id → Contains t (.classRef id)

inductive CallableId.Contains : CallableId → Node → Prop
  | itself (id : CallableId) : Contains id (.callable id)
  | owner (holder : ClassId) (name : String) : Contains (holder.member name) (.classRef holder)

mutual

inductive Expression.Contains : Expression → Node → Prop
  | itself (e : Expression) : Expression.Contains e (.expression e)
  | valueType {name type node} : SourceType.Contains type node →
    Expression.Contains (.readValue name type) node
  | selfType {type node} : SourceType.Contains type node → Expression.Contains (.self type) node
  | fieldReceiver {receiver field type node} : Expression.Contains receiver node →
    Expression.Contains (.readField (some receiver) field type) node
  | fieldType {receiver field type node} : SourceType.Contains type node →
    Expression.Contains (.readField receiver field type) node
  | object (id : ClassId) : Expression.Contains (.object id) (.classRef id)
  | call {c node} : Call.Contains c node → Expression.Contains (.call c) node
  | constructed (id : ClassId) (typeArguments : List SourceType)
    (arguments : List (Option Expression)) :
    Expression.Contains (.construct id typeArguments arguments) (.classRef id)
  | constructorType {id typeArguments arguments type node} : type ∈ typeArguments →
    SourceType.Contains type node →
    Expression.Contains (.construct id typeArguments arguments) node
  | constructorArgument {id typeArguments arguments argument node} : some argument ∈ arguments →
    Expression.Contains argument node →
    Expression.Contains (.construct id typeArguments arguments) node
  | part {parts part node} : part ∈ parts → Expression.Contains part node →
    Expression.Contains (.concatenation parts) node
  | operand {operator operand type node} : Expression.Contains operand node →
    Expression.Contains (.typeOperation operator operand type) node
  | operationType {operator operand type node} : SourceType.Contains type node →
    Expression.Contains (.typeOperation operator operand type) node
  | branch {branches branch type node} : branch ∈ branches → Branch.Contains branch node →
    Expression.Contains (.when branches type) node
  | whenType {branches type node} : SourceType.Contains type node →
    Expression.Contains (.when branches type) node
  | statement {statements statement type node} : statement ∈ statements →
    Statement.Contains statement node → Expression.Contains (.block statements type) node
  | blockType {statements type node} : SourceType.Contains type node →
    Expression.Contains (.block statements type) node

inductive Call.Contains : Call → Node → Prop
  | callee {c node} : CallableId.Contains (Call.callee c) node → Call.Contains c node
  | dispatchReceiver {c receiver node} : Call.dispatchReceiver c = some receiver →
    Expression.Contains receiver node → Call.Contains c node
  | extensionReceiver {c receiver node} : Call.extensionReceiver c = some receiver →
    Expression.Contains receiver node → Call.Contains c node
  | argument {c argument node} : some argument ∈ Call.arguments c →
    Expression.Contains argument node → Call.Contains c node
  | typeArgument {c type node} : type ∈ Call.typeArguments c → SourceType.Contains type node →
    Call.Contains c node
  | type {c node} : SourceType.Contains (Call.type c) node → Call.Contains c node

inductive Branch.Contains : Branch → Node → Prop
  | condition {b node} : Expression.Contains (Branch.condition b) node → Branch.Contains b node
  | result {b node} : Expression.Contains (Branch.result b) node → Branch.Contains b node

inductive Statement.Contains : Statement → Node → Prop
  | itself (s : Statement) : Statement.Contains s .statement
  | evaluate {e node} : Expression.Contains e node → Statement.Contains (.evaluate e) node
  | declaredType {name type initializer isVariable node} : SourceType.Contains type node →
    Statement.Contains (.declare name type initializer isVariable) node
  | initializer {name type initializer isVariable node} : Expression.Contains initializer node →
    Statement.Contains (.declare name type (some initializer) isVariable) node
  | assigned {name value node} : Expression.Contains value node →
    Statement.Contains (.assign name value) node
  | fieldReceiver {receiver field value node} : Expression.Contains receiver node →
    Statement.Contains (.assignField (some receiver) field value) node
  | fieldValue {receiver field value node} : Expression.Contains value node →
    Statement.Contains (.assignField receiver field value) node
  | returned {value node} : Expression.Contains value node →
    Statement.Contains (.returns (some value)) node
  | condition {condition thenBranch elseBranch node} : Expression.Contains condition node →
    Statement.Contains (.conditional condition thenBranch elseBranch) node
  | inThen {condition thenBranch elseBranch statement node} : statement ∈ thenBranch →
    Statement.Contains statement node →
    Statement.Contains (.conditional condition thenBranch elseBranch) node
  | inElse {condition thenBranch elseBranch statement node} : statement ∈ elseBranch →
    Statement.Contains statement node →
    Statement.Contains (.conditional condition thenBranch elseBranch) node
  | loopCondition {condition body node} : Expression.Contains condition node →
    Statement.Contains (.loop condition body) node
  | inLoop {condition body statement node} : statement ∈ body →
    Statement.Contains statement node → Statement.Contains (.loop condition body) node
  | thrown {value node} : Expression.Contains value node →
    Statement.Contains (.throws value) node

end

inductive AnnotationUse.Contains : AnnotationUse → Node → Prop
  | id (a : AnnotationUse) : Contains a (.classRef a.id)

inductive TypeParameter.Contains (p : TypeParameter) : Node → Prop
  | bound {type : SourceType} {node : Node} : type ∈ p.bounds → type.Contains node →
    Contains p node

inductive ValueParameter.Contains (p : ValueParameter) : Node → Prop
  | itself : Contains p (.parameter p.name)
  | type {node : Node} : p.type.Contains node → Contains p node
  | defaultValue {value : Expression} {node : Node} : p.defaultValue = some value →
    value.Contains node → Contains p node

/-- A node occurs in the statements of a body. -/
inductive BodyContains (statements : List Statement) : Node → Prop
  | itself : BodyContains statements (.body statements.length)
  | statement {statement : Statement} {node : Node} : statement ∈ statements →
    statement.Contains node → BodyContains statements node

inductive FunctionDecl.Contains (d : FunctionDecl) : Node → Prop
  | id {node : Node} : d.id.Contains node → Contains d node
  | typeParameter {p : TypeParameter} {node : Node} : p ∈ d.typeParameters → p.Contains node →
    Contains d node
  | extensionReceiver {p : ValueParameter} {node : Node} : d.extensionReceiver = some p →
    p.Contains node → Contains d node
  | valueParameter {p : ValueParameter} {node : Node} : p ∈ d.valueParameters → p.Contains node →
    Contains d node
  | returnType {node : Node} : d.returnType.Contains node → Contains d node
  | annotationUse {a : AnnotationUse} {node : Node} : a ∈ d.annotations → a.Contains node →
    Contains d node
  | body {statements : List Statement} {node : Node} : d.body = some statements →
    BodyContains statements node → Contains d node

inductive ConstructorDecl.Contains (d : ConstructorDecl) : Node → Prop
  | id : Contains d (.classRef d.id)
  | valueParameter {p : ValueParameter} {node : Node} : p ∈ d.valueParameters → p.Contains node →
    Contains d node
  | delegation {delegation : Delegation} {argument : Expression} {node : Node} :
    d.delegation = some delegation → some argument ∈ delegation.arguments →
    argument.Contains node → Contains d node
  | body {statements : List Statement} {node : Node} : d.body = some statements →
    BodyContains statements node → Contains d node

inductive PropertyDecl.Contains (d : PropertyDecl) : Node → Prop
  | id {node : Node} : d.id.Contains node → Contains d node
  | type {node : Node} : d.type.Contains node → Contains d node
  | getter {statements : List Statement} {node : Node} : d.getter = some statements →
    BodyContains statements node → Contains d node
  | setter {statements : List Statement} {node : Node} : d.setter = some statements →
    BodyContains statements node → Contains d node
  | initializer {value : Expression} {node : Node} : d.initializer = some value →
    value.Contains node → Contains d node

inductive FieldDecl.Contains (d : FieldDecl) : Node → Prop
  | type {node : Node} : d.type.Contains node → Contains d node
  | initializer {value : Expression} {node : Node} : d.initializer = some value →
    value.Contains node → Contains d node

mutual

inductive ClassDecl.Contains : ClassDecl → Node → Prop
  | id (c : ClassDecl) : ClassDecl.Contains c (.classRef c.id)
  | typeParameter {c p node} : p ∈ ClassDecl.typeParameters c → TypeParameter.Contains p node →
    ClassDecl.Contains c node
  | supertype {c type node} : type ∈ ClassDecl.supertypes c → SourceType.Contains type node →
    ClassDecl.Contains c node
  | annotationUse {c a node} : a ∈ ClassDecl.annotations c → AnnotationUse.Contains a node →
    ClassDecl.Contains c node
  | declaration {c d node} : d ∈ ClassDecl.declarations c → Declaration.Contains d node →
    ClassDecl.Contains c node

inductive Declaration.Contains : Declaration → Node → Prop
  | itself (d : Declaration) : Declaration.Contains d (.declaration d.name)
  | ofClass {c node} : ClassDecl.Contains c node → Declaration.Contains (.ofClass c) node
  | function {d node} : FunctionDecl.Contains d node → Declaration.Contains (.function d) node
  | constructor {d node} : ConstructorDecl.Contains d node →
    Declaration.Contains (.constructor d) node
  | property {d node} : PropertyDecl.Contains d node → Declaration.Contains (.property d) node
  | field {d node} : FieldDecl.Contains d node → Declaration.Contains (.field d) node

end

inductive SourceFile.Contains (f : SourceFile) : Node → Prop
  | itself : Contains f (.file f.name)
  | declaration {d : Declaration} {node : Node} : d ∈ f.declarations → d.Contains node →
    Contains f node

section Listed

variable {node : Node}

mutual

theorem SourceType.mem_classIds {id : ClassId} (t : SourceType) :
    id ∈ t.classIds ↔ t.Names id := by
  cases t with
  | applied head arguments nullable =>
    rw [SourceType.classIds, List.mem_cons, TypeArgument.mem_listClassIds arguments]
    constructor
    · rintro (rfl | ⟨variance, type, hMem, hNames⟩)
      · exact .head id arguments nullable
      · exact .argument hMem hNames
    · intro h
      cases h with
      | head => exact .inl rfl
      | argument hMem hNames => exact .inr ⟨_, _, hMem, hNames⟩
  | parameter name nullable =>
    constructor
    · exact fun h => absurd h List.not_mem_nil
    · exact fun h => nomatch h

theorem TypeArgument.mem_listClassIds {id : ClassId} (arguments : List TypeArgument) :
    id ∈ TypeArgument.listClassIds arguments ↔
      ∃ variance type, .projected variance type ∈ arguments ∧ SourceType.Names type id := by
  cases arguments with
  | nil => simp [TypeArgument.listClassIds]
  | cons a rest =>
    rw [TypeArgument.listClassIds, List.mem_append, TypeArgument.mem_listClassIds rest]
    cases a with
    | star => simp [TypeArgument.classIds]
    | projected variance type =>
      rw [TypeArgument.classIds, SourceType.mem_classIds type]
      simp only [List.mem_cons, TypeArgument.projected.injEq]
      constructor
      · rintro (hNames | ⟨variance', type', hMem, hNames⟩)
        · exact ⟨variance, type, .inl ⟨rfl, rfl⟩, hNames⟩
        · exact ⟨variance', type', .inr hMem, hNames⟩
      · rintro ⟨variance', type', ⟨rfl, rfl⟩ | hMem, hNames⟩
        · exact .inl hNames
        · exact .inr ⟨variance', type', hMem, hNames⟩

end

theorem SourceType.mem_nodes {t : SourceType} : node ∈ t.nodes ↔ t.Contains node := by
  rw [SourceType.nodes, List.mem_cons, List.mem_map]
  constructor
  · rintro (rfl | ⟨id, hid, rfl⟩)
    · exact .itself t
    · exact .named (t.mem_classIds.mp hid)
  · intro h
    cases h with
    | itself => exact .inl rfl
    | named hNames => exact .inr ⟨_, t.mem_classIds.mpr hNames, rfl⟩

theorem SourceType.mem_listNodes {types : List SourceType} :
    node ∈ SourceType.listNodes types ↔ ∃ type ∈ types, type.Contains node := by
  simp only [SourceType.listNodes, List.mem_flatMap, SourceType.mem_nodes]

theorem CallableId.mem_nodes {id : CallableId} : node ∈ id.nodes ↔ id.Contains node := by
  obtain ⟨owner, name⟩ := id
  constructor
  · intro h
    rcases List.mem_cons.mp h with rfl | h
    · exact .itself _
    · cases owner with
      | inPackage package => exact absurd h List.not_mem_nil
      | inClass holder =>
        obtain rfl := List.mem_singleton.mp h
        exact .owner holder name
  · intro h
    cases h with
    | itself => exact List.mem_cons_self
    | owner holder name => exact List.mem_cons_of_mem _ List.mem_cons_self

mutual

theorem Expression.mem_nodes (e : Expression) : node ∈ e.nodes ↔ e.Contains node := by
  cases e with
  | constant value =>
    rw [Expression.nodes, List.mem_singleton]
    constructor
    · rintro rfl
      exact .itself _
    · intro h
      cases h with
      | itself => rfl
  | readValue name type =>
    rw [Expression.nodes, List.mem_cons, SourceType.mem_nodes]
    constructor
    · rintro (rfl | h)
      · exact .itself _
      · exact .valueType h
    · intro h
      cases h with
      | itself => exact .inl rfl
      | valueType h => exact .inr h
  | self type =>
    rw [Expression.nodes, List.mem_cons, SourceType.mem_nodes]
    constructor
    · rintro (rfl | h)
      · exact .itself _
      · exact .selfType h
    · intro h
      cases h with
      | itself => exact .inl rfl
      | selfType h => exact .inr h
  | readField receiver field type =>
    rw [Expression.nodes, List.mem_cons, List.mem_append, Expression.mem_optionNodes receiver,
      SourceType.mem_nodes]
    constructor
    · rintro (rfl | ⟨e, rfl, h⟩ | h)
      · exact .itself _
      · exact .fieldReceiver h
      · exact .fieldType h
    · intro h
      cases h with
      | itself => exact .inl rfl
      | fieldReceiver h => exact .inr (.inl ⟨_, rfl, h⟩)
      | fieldType h => exact .inr (.inr h)
  | object id =>
    rw [Expression.nodes, List.mem_cons, List.mem_singleton]
    constructor
    · rintro (rfl | rfl)
      · exact .itself _
      · exact .object id
    · intro h
      cases h with
      | itself => exact .inl rfl
      | object => exact .inr rfl
  | call c =>
    rw [Expression.nodes, List.mem_cons, Call.mem_nodes c]
    constructor
    · rintro (rfl | h)
      · exact .itself _
      · exact .call h
    · intro h
      cases h with
      | itself => exact .inl rfl
      | call h => exact .inr h
  | construct id typeArguments arguments =>
    rw [Expression.nodes, List.mem_cons, List.mem_cons, List.mem_append, SourceType.mem_listNodes,
      Expression.mem_givenNodes arguments]
    constructor
    · rintro (rfl | rfl | ⟨type, hMem, h⟩ | ⟨argument, hMem, h⟩)
      · exact .itself _
      · exact .constructed id typeArguments arguments
      · exact .constructorType hMem h
      · exact .constructorArgument hMem h
    · intro h
      cases h with
      | itself => exact .inl rfl
      | constructed => exact .inr (.inl rfl)
      | constructorType hMem h => exact .inr (.inr (.inl ⟨_, hMem, h⟩))
      | constructorArgument hMem h => exact .inr (.inr (.inr ⟨_, hMem, h⟩))
  | concatenation parts =>
    rw [Expression.nodes, List.mem_cons, Expression.mem_listNodes parts]
    constructor
    · rintro (rfl | ⟨part, hMem, h⟩)
      · exact .itself _
      · exact .part hMem h
    · intro h
      cases h with
      | itself => exact .inl rfl
      | part hMem h => exact .inr ⟨_, hMem, h⟩
  | typeOperation operator operand type =>
    rw [Expression.nodes, List.mem_cons, List.mem_append, Expression.mem_nodes operand,
      SourceType.mem_nodes]
    constructor
    · rintro (rfl | h | h)
      · exact .itself _
      · exact .operand h
      · exact .operationType h
    · intro h
      cases h with
      | itself => exact .inl rfl
      | operand h => exact .inr (.inl h)
      | operationType h => exact .inr (.inr h)
  | «when» branches type =>
    rw [Expression.nodes, List.mem_cons, List.mem_append, Branch.mem_listNodes branches,
      SourceType.mem_nodes]
    constructor
    · rintro (rfl | ⟨branch, hMem, h⟩ | h)
      · exact .itself _
      · exact .branch hMem h
      · exact .whenType h
    · intro h
      cases h with
      | itself => exact .inl rfl
      | branch hMem h => exact .inr (.inl ⟨_, hMem, h⟩)
      | whenType h => exact .inr (.inr h)
  | block statements type =>
    rw [Expression.nodes, List.mem_cons, List.mem_append, Statement.mem_listNodes statements,
      SourceType.mem_nodes]
    constructor
    · rintro (rfl | ⟨statement, hMem, h⟩ | h)
      · exact .itself _
      · exact .statement hMem h
      · exact .blockType h
    · intro h
      cases h with
      | itself => exact .inl rfl
      | statement hMem h => exact .inr (.inl ⟨_, hMem, h⟩)
      | blockType h => exact .inr (.inr h)
  | unsupported kind =>
    rw [Expression.nodes, List.mem_singleton]
    constructor
    · rintro rfl
      exact .itself _
    · intro h
      cases h with
      | itself => rfl

theorem Call.mem_nodes (c : Call) : node ∈ c.nodes ↔ c.Contains node := by
  obtain ⟨callee, dispatchReceiver, extensionReceiver, arguments, typeArguments, type⟩ := c
  simp only [Call.nodes, List.mem_append, CallableId.mem_nodes,
    Expression.mem_optionNodes dispatchReceiver, Expression.mem_optionNodes extensionReceiver,
    Expression.mem_givenNodes arguments, SourceType.mem_listNodes, SourceType.mem_nodes]
  constructor
  · rintro (((((h | ⟨receiver, hReceiver, h⟩) | ⟨receiver, hReceiver, h⟩) | ⟨argument, hMem, h⟩) |
      ⟨type, hMem, h⟩) | h)
    · exact .callee h
    · exact .dispatchReceiver hReceiver h
    · exact .extensionReceiver hReceiver h
    · exact .argument hMem h
    · exact .typeArgument hMem h
    · exact .type h
  · intro h
    cases h with
    | callee h => exact .inl (.inl (.inl (.inl (.inl h))))
    | dispatchReceiver hReceiver h => exact .inl (.inl (.inl (.inl (.inr ⟨_, hReceiver, h⟩))))
    | extensionReceiver hReceiver h => exact .inl (.inl (.inl (.inr ⟨_, hReceiver, h⟩)))
    | argument hMem h => exact .inl (.inl (.inr ⟨_, hMem, h⟩))
    | typeArgument hMem h => exact .inl (.inr ⟨_, hMem, h⟩)
    | type h => exact .inr h

theorem Branch.mem_nodes (b : Branch) : node ∈ b.nodes ↔ b.Contains node := by
  obtain ⟨condition, result⟩ := b
  rw [Branch.nodes, List.mem_append, Expression.mem_nodes condition, Expression.mem_nodes result]
  constructor
  · rintro (h | h)
    · exact .condition h
    · exact .result h
  · intro h
    cases h with
    | condition h => exact .inl h
    | result h => exact .inr h

theorem Statement.mem_nodes (s : Statement) : node ∈ s.nodes ↔ s.Contains node := by
  cases s with
  | evaluate e =>
    rw [Statement.nodes, List.mem_cons, Expression.mem_nodes e]
    constructor
    · rintro (rfl | h)
      · exact .itself _
      · exact .evaluate h
    · intro h
      cases h with
      | itself => exact .inl rfl
      | evaluate h => exact .inr h
  | declare name type initializer isVariable =>
    rw [Statement.nodes, List.mem_cons, List.mem_append, SourceType.mem_nodes,
      Expression.mem_optionNodes initializer]
    constructor
    · rintro (rfl | h | ⟨value, rfl, h⟩)
      · exact .itself _
      · exact .declaredType h
      · exact .initializer h
    · intro h
      cases h with
      | itself => exact .inl rfl
      | declaredType h => exact .inr (.inl h)
      | initializer h => exact .inr (.inr ⟨_, rfl, h⟩)
  | assign name value =>
    rw [Statement.nodes, List.mem_cons, Expression.mem_nodes value]
    constructor
    · rintro (rfl | h)
      · exact .itself _
      · exact .assigned h
    · intro h
      cases h with
      | itself => exact .inl rfl
      | assigned h => exact .inr h
  | assignField receiver field value =>
    rw [Statement.nodes, List.mem_cons, List.mem_append, Expression.mem_optionNodes receiver,
      Expression.mem_nodes value]
    constructor
    · rintro (rfl | ⟨e, rfl, h⟩ | h)
      · exact .itself _
      · exact .fieldReceiver h
      · exact .fieldValue h
    · intro h
      cases h with
      | itself => exact .inl rfl
      | fieldReceiver h => exact .inr (.inl ⟨_, rfl, h⟩)
      | fieldValue h => exact .inr (.inr h)
  | returns value =>
    rw [Statement.nodes, List.mem_cons, Expression.mem_optionNodes value]
    constructor
    · rintro (rfl | ⟨e, rfl, h⟩)
      · exact .itself _
      · exact .returned h
    · intro h
      cases h with
      | itself => exact .inl rfl
      | returned h => exact .inr ⟨_, rfl, h⟩
  | conditional condition thenBranch elseBranch =>
    rw [Statement.nodes, List.mem_cons, List.mem_append, List.mem_append,
      Expression.mem_nodes condition, Statement.mem_listNodes thenBranch,
      Statement.mem_listNodes elseBranch]
    constructor
    · rintro (rfl | (h | ⟨statement, hMem, h⟩) | ⟨statement, hMem, h⟩)
      · exact .itself _
      · exact .condition h
      · exact .inThen hMem h
      · exact .inElse hMem h
    · intro h
      cases h with
      | itself => exact .inl rfl
      | condition h => exact .inr (.inl (.inl h))
      | inThen hMem h => exact .inr (.inl (.inr ⟨_, hMem, h⟩))
      | inElse hMem h => exact .inr (.inr ⟨_, hMem, h⟩)
  | loop condition body =>
    rw [Statement.nodes, List.mem_cons, List.mem_append, Expression.mem_nodes condition,
      Statement.mem_listNodes body]
    constructor
    · rintro (rfl | h | ⟨statement, hMem, h⟩)
      · exact .itself _
      · exact .loopCondition h
      · exact .inLoop hMem h
    · intro h
      cases h with
      | itself => exact .inl rfl
      | loopCondition h => exact .inr (.inl h)
      | inLoop hMem h => exact .inr (.inr ⟨_, hMem, h⟩)
  | throws value =>
    rw [Statement.nodes, List.mem_cons, Expression.mem_nodes value]
    constructor
    · rintro (rfl | h)
      · exact .itself _
      · exact .thrown h
    · intro h
      cases h with
      | itself => exact .inl rfl
      | thrown h => exact .inr h

theorem Expression.mem_optionNodes (e : Option Expression) :
    node ∈ Expression.optionNodes e ↔ ∃ value, e = some value ∧ value.Contains node := by
  cases e with
  | none => simp [Expression.optionNodes]
  | some e => simp [Expression.optionNodes, Expression.mem_nodes e]

theorem Expression.mem_listNodes (es : List Expression) :
    node ∈ Expression.listNodes es ↔ ∃ e ∈ es, e.Contains node := by
  cases es with
  | nil => simp [Expression.listNodes]
  | cons e rest =>
    simp [Expression.listNodes, Expression.mem_nodes e, Expression.mem_listNodes rest]

theorem Expression.mem_givenNodes (es : List (Option Expression)) :
    node ∈ Expression.argumentNodes es ↔ ∃ e, some e ∈ es ∧ e.Contains node := by
  cases es with
  | nil => simp [Expression.argumentNodes]
  | cons e rest =>
    simp [Expression.argumentNodes, Expression.mem_optionNodes e, Expression.mem_givenNodes rest,
      or_and_right, exists_or, eq_comm]

theorem Branch.mem_listNodes (bs : List Branch) :
    node ∈ Branch.listNodes bs ↔ ∃ b ∈ bs, b.Contains node := by
  cases bs with
  | nil => simp [Branch.listNodes]
  | cons b rest => simp [Branch.listNodes, Branch.mem_nodes b, Branch.mem_listNodes rest]

theorem Statement.mem_listNodes (ss : List Statement) :
    node ∈ Statement.listNodes ss ↔ ∃ s ∈ ss, s.Contains node := by
  cases ss with
  | nil => simp [Statement.listNodes]
  | cons s rest =>
    simp [Statement.listNodes, Statement.mem_nodes s, Statement.mem_listNodes rest]

end

theorem AnnotationUse.mem_nodes {a : AnnotationUse} : node ∈ a.nodes ↔ a.Contains node := by
  rw [AnnotationUse.nodes, List.mem_singleton]
  constructor
  · rintro rfl
    exact .id a
  · rintro ⟨⟩
    rfl

theorem TypeParameter.mem_nodes {p : TypeParameter} : node ∈ p.nodes ↔ p.Contains node := by
  rw [TypeParameter.nodes, SourceType.mem_listNodes]
  constructor
  · rintro ⟨type, hMem, h⟩
    exact .bound hMem h
  · rintro ⟨hMem, h⟩
    exact ⟨_, hMem, h⟩

theorem ValueParameter.mem_nodes {p : ValueParameter} : node ∈ p.nodes ↔ p.Contains node := by
  rw [ValueParameter.nodes, List.mem_cons, List.mem_append, SourceType.mem_nodes,
    Expression.mem_optionNodes]
  constructor
  · rintro (rfl | h | ⟨value, hValue, h⟩)
    · exact .itself
    · exact .type h
    · exact .defaultValue hValue h
  · intro h
    cases h with
    | itself => exact .inl rfl
    | type h => exact .inr (.inl h)
    | defaultValue hValue h => exact .inr (.inr ⟨_, hValue, h⟩)

theorem mem_bodyNodes {body : Option (List Statement)} :
    node ∈ bodyNodes body ↔
      ∃ statements, body = some statements ∧ BodyContains statements node := by
  cases body with
  | none => simp [bodyNodes]
  | some statements =>
    rw [bodyNodes, List.mem_cons, Statement.mem_listNodes]
    constructor
    · rintro (rfl | ⟨statement, hMem, h⟩)
      · exact ⟨statements, rfl, .itself⟩
      · exact ⟨statements, rfl, .statement hMem h⟩
    · rintro ⟨_, ⟨⟩, h⟩
      cases h with
      | itself => exact .inl rfl
      | statement hMem h => exact .inr ⟨_, hMem, h⟩

theorem FunctionDecl.mem_nodes {d : FunctionDecl} : node ∈ d.nodes ↔ d.Contains node := by
  simp only [FunctionDecl.nodes, List.mem_append, List.mem_flatMap, Option.mem_toList,
    CallableId.mem_nodes, TypeParameter.mem_nodes, ValueParameter.mem_nodes, SourceType.mem_nodes,
    AnnotationUse.mem_nodes, mem_bodyNodes]
  constructor
  · rintro ((((((h | ⟨p, hp, h⟩) | ⟨p, hp, h⟩) | ⟨p, hp, h⟩) | h) | ⟨a, ha, h⟩) |
      ⟨statements, hBody, h⟩)
    · exact .id h
    · exact .typeParameter hp h
    · exact .extensionReceiver hp h
    · exact .valueParameter hp h
    · exact .returnType h
    · exact .annotationUse ha h
    · exact .body hBody h
  · intro h
    cases h with
    | id h => exact .inl (.inl (.inl (.inl (.inl (.inl h)))))
    | typeParameter hp h => exact .inl (.inl (.inl (.inl (.inl (.inr ⟨_, hp, h⟩)))))
    | extensionReceiver hp h => exact .inl (.inl (.inl (.inl (.inr ⟨_, hp, h⟩))))
    | valueParameter hp h => exact .inl (.inl (.inl (.inr ⟨_, hp, h⟩)))
    | returnType h => exact .inl (.inl (.inr h))
    | annotationUse ha h => exact .inl (.inr ⟨_, ha, h⟩)
    | body hBody h => exact .inr ⟨_, hBody, h⟩

theorem ConstructorDecl.mem_nodes {d : ConstructorDecl} : node ∈ d.nodes ↔ d.Contains node := by
  simp only [ConstructorDecl.nodes, List.mem_cons, List.mem_append, List.mem_flatMap,
    Option.mem_toList, ValueParameter.mem_nodes, Expression.mem_givenNodes, mem_bodyNodes]
  constructor
  · rintro (rfl | (⟨p, hp, h⟩ | ⟨delegation, hDelegation, argument, hMem, h⟩) |
      ⟨statements, hBody, h⟩)
    · exact .id
    · exact .valueParameter hp h
    · exact .delegation hDelegation hMem h
    · exact .body hBody h
  · intro h
    cases h with
    | id => exact .inl rfl
    | valueParameter hp h => exact .inr (.inl (.inl ⟨_, hp, h⟩))
    | delegation hDelegation hMem h => exact .inr (.inl (.inr ⟨_, hDelegation, _, hMem, h⟩))
    | body hBody h => exact .inr (.inr ⟨_, hBody, h⟩)

theorem PropertyDecl.mem_nodes {d : PropertyDecl} : node ∈ d.nodes ↔ d.Contains node := by
  simp only [PropertyDecl.nodes, List.mem_append, CallableId.mem_nodes, SourceType.mem_nodes,
    mem_bodyNodes, Expression.mem_optionNodes]
  constructor
  · rintro ((((h | h) | ⟨statements, hBody, h⟩) | ⟨statements, hBody, h⟩) | ⟨value, hValue, h⟩)
    · exact .id h
    · exact .type h
    · exact .getter hBody h
    · exact .setter hBody h
    · exact .initializer hValue h
  · intro h
    cases h with
    | id h => exact .inl (.inl (.inl (.inl h)))
    | type h => exact .inl (.inl (.inl (.inr h)))
    | getter hBody h => exact .inl (.inl (.inr ⟨_, hBody, h⟩))
    | setter hBody h => exact .inl (.inr ⟨_, hBody, h⟩)
    | initializer hValue h => exact .inr ⟨_, hValue, h⟩

theorem FieldDecl.mem_nodes {d : FieldDecl} : node ∈ d.nodes ↔ d.Contains node := by
  rw [FieldDecl.nodes, List.mem_append, SourceType.mem_nodes, Expression.mem_optionNodes]
  constructor
  · rintro (h | ⟨value, hValue, h⟩)
    · exact .type h
    · exact .initializer hValue h
  · intro h
    cases h with
    | type h => exact .inl h
    | initializer hValue h => exact .inr ⟨_, hValue, h⟩

mutual

theorem ClassDecl.mem_nodes (c : ClassDecl) : node ∈ c.nodes ↔ c.Contains node := by
  obtain ⟨id, kind, modality, visibility, isLocal, isValue, isExpect, isExternal, isCompanion,
    typeParameters, supertypes, annotations, enumEntries, declarations, origin⟩ := c
  simp only [ClassDecl.nodes, List.mem_cons, List.mem_append, List.mem_flatMap,
    TypeParameter.mem_nodes, SourceType.mem_listNodes, AnnotationUse.mem_nodes,
    Declaration.mem_listNodes declarations]
  constructor
  · rintro (rfl | ((⟨p, hp, h⟩ | ⟨type, hMem, h⟩) | ⟨a, ha, h⟩) | ⟨d, hd, h⟩)
    · exact .id _
    · exact .typeParameter hp h
    · exact .supertype hMem h
    · exact .annotationUse ha h
    · exact .declaration hd h
  · intro h
    cases h with
    | id => exact .inl rfl
    | typeParameter hp h => exact .inr (.inl (.inl (.inl ⟨_, hp, h⟩)))
    | supertype hMem h => exact .inr (.inl (.inl (.inr ⟨_, hMem, h⟩)))
    | annotationUse ha h => exact .inr (.inl (.inr ⟨_, ha, h⟩))
    | declaration hd h => exact .inr (.inr ⟨_, hd, h⟩)

theorem Declaration.mem_nodes (d : Declaration) : node ∈ d.nodes ↔ d.Contains node := by
  cases d with
  | ofClass decl =>
    rw [Declaration.nodes, List.mem_cons, ClassDecl.mem_nodes decl]
    constructor
    · rintro (rfl | h)
      · exact .itself (.ofClass decl)
      · exact .ofClass h
    · intro h
      cases h with
      | itself => exact .inl rfl
      | ofClass h => exact .inr h
  | function decl =>
    rw [Declaration.nodes, List.mem_cons, FunctionDecl.mem_nodes]
    constructor
    · rintro (rfl | h)
      · exact .itself (.function decl)
      · exact .function h
    · intro h
      cases h with
      | itself => exact .inl rfl
      | function h => exact .inr h
  | constructor decl =>
    rw [Declaration.nodes, List.mem_cons, ConstructorDecl.mem_nodes]
    constructor
    · rintro (rfl | h)
      · exact .itself (.constructor decl)
      · exact .constructor h
    · intro h
      cases h with
      | itself => exact .inl rfl
      | constructor h => exact .inr h
  | property decl =>
    rw [Declaration.nodes, List.mem_cons, PropertyDecl.mem_nodes]
    constructor
    · rintro (rfl | h)
      · exact .itself (.property decl)
      · exact .property h
    · intro h
      cases h with
      | itself => exact .inl rfl
      | property h => exact .inr h
  | field decl =>
    rw [Declaration.nodes, List.mem_cons, FieldDecl.mem_nodes]
    constructor
    · rintro (rfl | h)
      · exact .itself (.field decl)
      · exact .field h
    · intro h
      cases h with
      | itself => exact .inl rfl
      | field h => exact .inr h

theorem Declaration.mem_listNodes (ds : List Declaration) :
    node ∈ Declaration.listNodes ds ↔ ∃ d ∈ ds, d.Contains node := by
  cases ds with
  | nil => simp [Declaration.listNodes]
  | cons d rest =>
    simp [Declaration.listNodes, Declaration.mem_nodes d, Declaration.mem_listNodes rest]

end

theorem SourceFile.mem_nodes {f : SourceFile} : node ∈ f.nodes ↔ f.Contains node := by
  rw [SourceFile.nodes, List.mem_cons, Declaration.mem_listNodes]
  constructor
  · rintro (rfl | ⟨d, hd, h⟩)
    · exact .itself
    · exact .declaration hd h
  · intro h
    cases h with
    | itself => exact .inl rfl
    | declaration hd h => exact .inr ⟨_, hd, h⟩

end Listed

end KotlinBackend
