import KotlinBackend.Program.Module

/-!
# Renaming classes

`mapClassIds f` applies `f` at every place of a program that names a class: declared classes, the
owners of constructors and callables, bounds, supertypes, annotations, classes inside types, object
references and constructor calls. Nothing else changes.
-/

namespace KotlinBackend

mutual

def Expression.mapClassIds (f : ClassId → ClassId) : Expression → Expression
  | .constant value => .constant value
  | .readValue name type => .readValue name (type.mapClassIds f)
  | .self type => .self (type.mapClassIds f)
  | .readField receiver field type =>
    .readField (Expression.mapClassIdsOption f receiver) field (type.mapClassIds f)
  | .object id => .object (f id)
  | .call c => .call (c.mapClassIds f)
  | .construct id typeArguments arguments =>
    .construct (f id) (typeArguments.map (·.mapClassIds f))
      (Expression.mapClassIdsArguments f arguments)
  | .concatenation parts => .concatenation (Expression.mapClassIdsList f parts)
  | .typeOperation operator operand type =>
    .typeOperation operator (operand.mapClassIds f) (type.mapClassIds f)
  | .when branches type => .when (Branch.mapClassIdsList f branches) (type.mapClassIds f)
  | .block statements type =>
    .block (Statement.mapClassIdsList f statements) (type.mapClassIds f)
  | .unsupported kind => .unsupported kind

def Call.mapClassIds (f : ClassId → ClassId) : Call → Call
  | { callee, dispatchReceiver, extensionReceiver, arguments, typeArguments, type } =>
    { callee := callee.mapClassId f
      dispatchReceiver := Expression.mapClassIdsOption f dispatchReceiver
      extensionReceiver := Expression.mapClassIdsOption f extensionReceiver
      arguments := Expression.mapClassIdsArguments f arguments
      typeArguments := typeArguments.map (·.mapClassIds f)
      type := type.mapClassIds f }

def Branch.mapClassIds (f : ClassId → ClassId) : Branch → Branch
  | { condition, result } =>
    { condition := condition.mapClassIds f, result := result.mapClassIds f }

def Statement.mapClassIds (f : ClassId → ClassId) : Statement → Statement
  | .evaluate expression => .evaluate (expression.mapClassIds f)
  | .declare name type initializer isVariable =>
    .declare name (type.mapClassIds f) (Expression.mapClassIdsOption f initializer) isVariable
  | .assign name value => .assign name (value.mapClassIds f)
  | .assignField receiver field value =>
    .assignField (Expression.mapClassIdsOption f receiver) field (value.mapClassIds f)
  | .returns value => .returns (Expression.mapClassIdsOption f value)
  | .conditional condition thenBranch elseBranch =>
    .conditional (condition.mapClassIds f) (Statement.mapClassIdsList f thenBranch)
      (Statement.mapClassIdsList f elseBranch)
  | .loop condition body => .loop (condition.mapClassIds f) (Statement.mapClassIdsList f body)
  | .throws value => .throws (value.mapClassIds f)

def Expression.mapClassIdsOption (f : ClassId → ClassId) : Option Expression → Option Expression
  | none => none
  | some expression => some (expression.mapClassIds f)

def Expression.mapClassIdsList (f : ClassId → ClassId) : List Expression → List Expression
  | [] => []
  | expression :: rest => expression.mapClassIds f :: Expression.mapClassIdsList f rest

def Expression.mapClassIdsArguments (f : ClassId → ClassId) :
    List (Option Expression) → List (Option Expression)
  | [] => []
  | argument :: rest =>
    Expression.mapClassIdsOption f argument :: Expression.mapClassIdsArguments f rest

def Branch.mapClassIdsList (f : ClassId → ClassId) : List Branch → List Branch
  | [] => []
  | branch :: rest => branch.mapClassIds f :: Branch.mapClassIdsList f rest

def Statement.mapClassIdsList (f : ClassId → ClassId) : List Statement → List Statement
  | [] => []
  | statement :: rest => statement.mapClassIds f :: Statement.mapClassIdsList f rest

end

variable (f : ClassId → ClassId)

def AnnotationUse.mapClassIds (a : AnnotationUse) : AnnotationUse := { a with id := f a.id }

def TypeParameter.mapClassIds (p : TypeParameter) : TypeParameter :=
  { p with bounds := p.bounds.map (·.mapClassIds f) }

def ValueParameter.mapClassIds (p : ValueParameter) : ValueParameter :=
  { p with
    type := p.type.mapClassIds f
    defaultValue := p.defaultValue.map (·.mapClassIds f) }

def FunctionDecl.mapClassIds (d : FunctionDecl) : FunctionDecl :=
  { d with
    id := d.id.mapClassId f
    typeParameters := d.typeParameters.map (·.mapClassIds f)
    extensionReceiver := d.extensionReceiver.map (·.mapClassIds f)
    valueParameters := d.valueParameters.map (·.mapClassIds f)
    returnType := d.returnType.mapClassIds f
    annotations := d.annotations.map (·.mapClassIds f)
    body := d.body.map (Statement.mapClassIdsList f) }

def Delegation.mapClassIds (d : Delegation) : Delegation :=
  { d with arguments := Expression.mapClassIdsArguments f d.arguments }

def ConstructorDecl.mapClassIds (d : ConstructorDecl) : ConstructorDecl :=
  { d with
    id := f d.id
    valueParameters := d.valueParameters.map (·.mapClassIds f)
    delegation := d.delegation.map (·.mapClassIds f)
    body := d.body.map (Statement.mapClassIdsList f) }

def PropertyDecl.mapClassIds (d : PropertyDecl) : PropertyDecl :=
  { d with
    id := d.id.mapClassId f
    type := d.type.mapClassIds f
    getter := d.getter.map (Statement.mapClassIdsList f)
    setter := d.setter.map (Statement.mapClassIdsList f)
    initializer := d.initializer.map (·.mapClassIds f) }

def FieldDecl.mapClassIds (d : FieldDecl) : FieldDecl :=
  { d with
    type := d.type.mapClassIds f
    initializer := d.initializer.map (·.mapClassIds f) }

mutual

def ClassDecl.mapClassIds (f : ClassId → ClassId) : ClassDecl → ClassDecl
  | decl@{ declarations, .. } =>
    { decl with
      id := f decl.id
      typeParameters := decl.typeParameters.map (·.mapClassIds f)
      supertypes := decl.supertypes.map (·.mapClassIds f)
      annotations := decl.annotations.map (·.mapClassIds f)
      declarations := Declaration.mapClassIdsList f declarations }

def Declaration.mapClassIds (f : ClassId → ClassId) : Declaration → Declaration
  | .ofClass decl => .ofClass (decl.mapClassIds f)
  | .function decl => .function (decl.mapClassIds f)
  | .constructor decl => .constructor (decl.mapClassIds f)
  | .property decl => .property (decl.mapClassIds f)
  | .field decl => .field (decl.mapClassIds f)

def Declaration.mapClassIdsList (f : ClassId → ClassId) : List Declaration → List Declaration
  | [] => []
  | declaration :: rest => declaration.mapClassIds f :: Declaration.mapClassIdsList f rest

end

def SourceFile.mapClassIds (file : SourceFile) : SourceFile :=
  { file with declarations := Declaration.mapClassIdsList f file.declarations }

def SourceModule.mapClassIds (m : SourceModule) : SourceModule :=
  { m with files := m.files.map (·.mapClassIds f) }

end KotlinBackend
