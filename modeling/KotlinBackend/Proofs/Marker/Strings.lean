import KotlinBackend.Program.Module

/-!
# The strings of a program

Every name, every part of an identifier and every string constant in a program. What a program
consists of besides them cannot be spelled by who writes it.
-/

namespace KotlinBackend

def ClassId.strings (id : ClassId) : List String := id.package.text :: id.names

def Owner.strings : Owner → List String
  | inPackage name => [name.text]
  | inClass id => id.strings

def CallableId.strings (id : CallableId) : List String := id.name :: id.owner.strings

def Constant.strings : Constant → List String
  | .string s => [s]
  | _ => []

mutual

def SourceType.strings : SourceType → List String
  | .applied id arguments _ => id.strings ++ TypeArgument.listStrings arguments
  | .parameter name _ => [name]

def TypeArgument.strings : TypeArgument → List String
  | .star => []
  | .projected _ type => type.strings

def TypeArgument.listStrings : List TypeArgument → List String
  | [] => []
  | argument :: rest => argument.strings ++ TypeArgument.listStrings rest

end

mutual

def Expression.strings : Expression → List String
  | .constant value => value.strings
  | .readValue name type => name :: type.strings
  | .self type => type.strings
  | .readField receiver field type =>
    field :: (Expression.optionStrings receiver ++ type.strings)
  | .object id => id.strings
  | .call c => c.strings
  | .construct id typeArguments arguments =>
    id.strings ++ typeArguments.flatMap SourceType.strings ++ Expression.argumentStrings arguments
  | .concatenation parts => Expression.listStrings parts
  | .typeOperation _ operand type => operand.strings ++ type.strings
  | .when branches type => Branch.listStrings branches ++ type.strings
  | .block statements type => Statement.listStrings statements ++ type.strings
  | .unsupported _ => []

def Call.strings : Call → List String
  | { callee, dispatchReceiver, extensionReceiver, arguments, typeArguments, type } =>
    callee.strings ++ Expression.optionStrings dispatchReceiver ++
      Expression.optionStrings extensionReceiver ++ Expression.argumentStrings arguments ++
      typeArguments.flatMap SourceType.strings ++ type.strings

def Branch.strings : Branch → List String
  | { condition, result } => condition.strings ++ result.strings

def Statement.strings : Statement → List String
  | .evaluate expression => expression.strings
  | .declare name type initializer _ =>
    name :: (type.strings ++ Expression.optionStrings initializer)
  | .assign name value => name :: value.strings
  | .assignField receiver field value =>
    field :: (Expression.optionStrings receiver ++ value.strings)
  | .returns value => Expression.optionStrings value
  | .conditional condition thenBranch elseBranch =>
    condition.strings ++ Statement.listStrings thenBranch ++ Statement.listStrings elseBranch
  | .loop condition body => condition.strings ++ Statement.listStrings body
  | .throws value => value.strings

def Expression.optionStrings : Option Expression → List String
  | none => []
  | some expression => expression.strings

def Expression.listStrings : List Expression → List String
  | [] => []
  | expression :: rest => expression.strings ++ Expression.listStrings rest

def Expression.argumentStrings : List (Option Expression) → List String
  | [] => []
  | argument :: rest => Expression.optionStrings argument ++ Expression.argumentStrings rest

def Branch.listStrings : List Branch → List String
  | [] => []
  | branch :: rest => branch.strings ++ Branch.listStrings rest

def Statement.listStrings : List Statement → List String
  | [] => []
  | statement :: rest => statement.strings ++ Statement.listStrings rest

end

def AnnotationUse.strings (a : AnnotationUse) : List String :=
  a.id.strings ++ a.arguments.flatMap Constant.strings

def TypeParameter.strings (p : TypeParameter) : List String :=
  p.name :: p.bounds.flatMap SourceType.strings

def ValueParameter.strings (p : ValueParameter) : List String :=
  p.name :: (p.type.strings ++ Expression.optionStrings p.defaultValue)

/-- The strings of a body. -/
def bodyStrings (body : Option (List Statement)) : List String :=
  Statement.listStrings (body.getD [])

def FunctionDecl.strings (d : FunctionDecl) : List String :=
  d.id.strings ++ d.typeParameters.flatMap TypeParameter.strings ++
    d.extensionReceiver.toList.flatMap ValueParameter.strings ++
    d.valueParameters.flatMap ValueParameter.strings ++ d.returnType.strings ++
    d.annotations.flatMap AnnotationUse.strings ++ bodyStrings d.body

def ConstructorDecl.strings (d : ConstructorDecl) : List String :=
  d.id.strings ++ d.valueParameters.flatMap ValueParameter.strings ++
    d.delegation.toList.flatMap (Expression.argumentStrings ·.arguments) ++ bodyStrings d.body

def PropertyDecl.strings (d : PropertyDecl) : List String :=
  d.id.strings ++ d.type.strings ++ bodyStrings d.getter ++ bodyStrings d.setter ++
    Expression.optionStrings d.initializer

def FieldDecl.strings (d : FieldDecl) : List String :=
  d.name :: (d.type.strings ++ Expression.optionStrings d.initializer)

mutual

def ClassDecl.strings : ClassDecl → List String
  | { id, typeParameters, supertypes, annotations, enumEntries, declarations, .. } =>
    id.strings ++ typeParameters.flatMap TypeParameter.strings ++
      supertypes.flatMap SourceType.strings ++ annotations.flatMap AnnotationUse.strings ++
      enumEntries ++ Declaration.listStrings declarations

def Declaration.strings : Declaration → List String
  | .ofClass decl => decl.strings
  | .function decl => decl.strings
  | .constructor decl => decl.strings
  | .property decl => decl.strings
  | .field decl => decl.strings

def Declaration.listStrings : List Declaration → List String
  | [] => []
  | declaration :: rest => declaration.strings ++ Declaration.listStrings rest

end

theorem Declaration.listStrings_eq_flatMap (ds : List Declaration) :
    Declaration.listStrings ds = ds.flatMap Declaration.strings := by
  induction ds with
  | nil => rw [Declaration.listStrings, List.flatMap_nil]
  | cons d rest ih => rw [Declaration.listStrings, List.flatMap_cons, ih]

def SourceModule.strings (m : SourceModule) : List String :=
  m.files.flatMap fun f => Declaration.listStrings f.declarations

end KotlinBackend
