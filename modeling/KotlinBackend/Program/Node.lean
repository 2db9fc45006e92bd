import KotlinBackend.Program.Module

/-!
# The nodes of a program

`nodes` lists what a program consists of, every part before the parts inside it, in the order of
the source text. What a program mentions is read off this list.
-/

namespace KotlinBackend

inductive Node where
  | file (name : String)
  | declaration (name : String)
  | parameter (name : String)
  | body (size : Nat)
  | statement
  | expression (e : Expression)
  | type (t : SourceType)
  | classRef (id : ClassId)
  | callable (id : CallableId)

def Node.text : Node → String
  | file name => "file " ++ name
  | declaration name => "decl " ++ name
  | parameter name => "param " ++ name
  | body size => "body " ++ toString size
  | statement => "stmt"
  | expression e => "expr " ++ e.kindName
  | type t => "type " ++ t.text
  | classRef id => "class " ++ id.text
  | callable id => "callable " ++ id.text

def Node.class? : Node → Option ClassId
  | classRef id => some id
  | _ => none

def Node.valueRead? : Node → Option String
  | expression (.readValue name _) => some name
  | _ => none

def SourceType.nodes (t : SourceType) : List Node := .type t :: t.classIds.map .classRef

def SourceType.listNodes (types : List SourceType) : List Node := types.flatMap (·.nodes)

def CallableId.nodes (id : CallableId) : List Node :=
  .callable id :: id.class?.toList.map .classRef

mutual

def Expression.nodes : Expression → List Node
  | .constant value => [.expression (.constant value)]
  | .readValue name type => .expression (.readValue name type) :: type.nodes
  | .self type => .expression (.self type) :: type.nodes
  | e@(.readField receiver _ type) =>
    .expression e :: (Expression.optionNodes receiver ++ type.nodes)
  | .object id => [.expression (.object id), .classRef id]
  | .call c => .expression (.call c) :: c.nodes
  | e@(.construct id typeArguments arguments) =>
    .expression e :: .classRef id ::
      (SourceType.listNodes typeArguments ++ Expression.argumentNodes arguments)
  | e@(.concatenation parts) => .expression e :: Expression.listNodes parts
  | e@(.typeOperation _ operand type) => .expression e :: (operand.nodes ++ type.nodes)
  | e@(.when branches type) => .expression e :: (Branch.listNodes branches ++ type.nodes)
  | e@(.block statements type) => .expression e :: (Statement.listNodes statements ++ type.nodes)
  | .unsupported kind => [.expression (.unsupported kind)]

def Call.nodes : Call → List Node
  | { callee, dispatchReceiver, extensionReceiver, arguments, typeArguments, type } =>
    callee.nodes ++ Expression.optionNodes dispatchReceiver ++
      Expression.optionNodes extensionReceiver ++ Expression.argumentNodes arguments ++
      SourceType.listNodes typeArguments ++ type.nodes

def Branch.nodes : Branch → List Node
  | { condition, result } => condition.nodes ++ result.nodes

def Statement.nodes : Statement → List Node
  | .evaluate expression => .statement :: expression.nodes
  | .declare _ type initializer _ =>
    .statement :: (type.nodes ++ Expression.optionNodes initializer)
  | .assign _ value => .statement :: value.nodes
  | .assignField receiver _ value =>
    .statement :: (Expression.optionNodes receiver ++ value.nodes)
  | .returns value => .statement :: Expression.optionNodes value
  | .conditional condition thenBranch elseBranch =>
    .statement :: (condition.nodes ++ Statement.listNodes thenBranch ++
      Statement.listNodes elseBranch)
  | .loop condition body => .statement :: (condition.nodes ++ Statement.listNodes body)
  | .throws value => .statement :: value.nodes

def Expression.optionNodes : Option Expression → List Node
  | none => []
  | some expression => expression.nodes

def Expression.listNodes : List Expression → List Node
  | [] => []
  | expression :: rest => expression.nodes ++ Expression.listNodes rest

def Expression.argumentNodes : List (Option Expression) → List Node
  | [] => []
  | argument :: rest => Expression.optionNodes argument ++ Expression.argumentNodes rest

def Branch.listNodes : List Branch → List Node
  | [] => []
  | branch :: rest => branch.nodes ++ Branch.listNodes rest

def Statement.listNodes : List Statement → List Node
  | [] => []
  | statement :: rest => statement.nodes ++ Statement.listNodes rest

end

def AnnotationUse.nodes (a : AnnotationUse) : List Node := [.classRef a.id]

def TypeParameter.nodes (p : TypeParameter) : List Node := SourceType.listNodes p.bounds

def ValueParameter.nodes (p : ValueParameter) : List Node :=
  .parameter p.name :: (p.type.nodes ++ Expression.optionNodes p.defaultValue)

def bodyNodes : Option (List Statement) → List Node
  | none => []
  | some statements => .body statements.length :: Statement.listNodes statements

def FunctionDecl.nodes (d : FunctionDecl) : List Node :=
  d.id.nodes ++ d.typeParameters.flatMap TypeParameter.nodes ++
    d.extensionReceiver.toList.flatMap ValueParameter.nodes ++
    d.valueParameters.flatMap ValueParameter.nodes ++ d.returnType.nodes ++
    d.annotations.flatMap AnnotationUse.nodes ++ bodyNodes d.body

def ConstructorDecl.nodes (d : ConstructorDecl) : List Node :=
  .classRef d.id :: (d.valueParameters.flatMap ValueParameter.nodes ++
    d.delegation.toList.flatMap (Expression.argumentNodes ·.arguments) ++ bodyNodes d.body)

def PropertyDecl.nodes (d : PropertyDecl) : List Node :=
  d.id.nodes ++ d.type.nodes ++ bodyNodes d.getter ++ bodyNodes d.setter ++
    Expression.optionNodes d.initializer

def FieldDecl.nodes (d : FieldDecl) : List Node :=
  d.type.nodes ++ Expression.optionNodes d.initializer

mutual

def ClassDecl.nodes : ClassDecl → List Node
  | { id, typeParameters, supertypes, annotations, declarations, .. } =>
    .classRef id :: (typeParameters.flatMap TypeParameter.nodes ++
      SourceType.listNodes supertypes ++ annotations.flatMap AnnotationUse.nodes ++
      Declaration.listNodes declarations)

def Declaration.nodes : Declaration → List Node
  | .ofClass decl => .declaration decl.id.shortName :: decl.nodes
  | .function decl => .declaration decl.id.name :: decl.nodes
  | .constructor decl => .declaration Declaration.constructorName :: decl.nodes
  | .property decl => .declaration decl.id.name :: decl.nodes
  | .field decl => .declaration decl.name :: decl.nodes

def Declaration.listNodes : List Declaration → List Node
  | [] => []
  | declaration :: rest => declaration.nodes ++ Declaration.listNodes rest

end

def SourceFile.nodes (f : SourceFile) : List Node :=
  .file f.name :: Declaration.listNodes f.declarations

def SourceModule.nodes (m : SourceModule) : List Node := m.files.flatMap SourceFile.nodes

/-- The classes that a file mentions, in order, each as often as it occurs. -/
def SourceFile.classRefs (f : SourceFile) : List ClassId := f.nodes.filterMap Node.class?

def Expression.valuesRead (e : Expression) : List String := e.nodes.filterMap Node.valueRead?

end KotlinBackend
