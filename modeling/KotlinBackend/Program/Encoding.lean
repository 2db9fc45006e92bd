import KotlinBackend.Json.Value
import KotlinBackend.Program.Module

/-!
# Programs as JSON

Every member of a structure is written, also one that holds its default. A choice without data is
its name; a choice with data is an object with the name as its only member.
-/

namespace KotlinBackend

open Json (ofList ofOption ofStrings ofInt ofNat variant)

def ClassId.toJson (id : ClassId) : Json := .string id.text

def CallableId.toJson (id : CallableId) : Json := .string id.text

def Variance.toJson (v : Variance) : Json := .string v.word

def ClassKind.toJson (k : ClassKind) : Json := .string k.word

def Modality.toJson (m : Modality) : Json := .string m.word

def Visibility.toJson (v : Visibility) : Json := .string v.word

def Origin.toJson (o : Origin) : Json := .string o.word

mutual

def SourceType.toJson : SourceType → Json
  | .applied id arguments nullable =>
    variant "Class" (.object [("id", id.toJson),
      ("arguments", .array (TypeArgument.toJsonList arguments)), ("nullable", .bool nullable)])
  | .parameter name nullable =>
    variant "TypeParameter" (.object [("name", .string name), ("nullable", .bool nullable)])

def TypeArgument.toJson : TypeArgument → Json
  | .star => .string "Star"
  | .projected variance type => variant variance.word type.toJson

def TypeArgument.toJsonList : List TypeArgument → List Json
  | [] => []
  | argument :: rest => argument.toJson :: TypeArgument.toJsonList rest

end

def Constant.toJson : Constant → Json
  | .null => .string "Null"
  | .boolean b => variant "Boolean" (.bool b)
  | .char c => variant "Char" (.string c.toString)
  | .byte n => variant "Byte" (ofInt n.toInt)
  | .short n => variant "Short" (ofInt n.toInt)
  | .int n => variant "Int" (ofInt n.toInt)
  | .long n => variant "Long" (ofInt n.toInt)
  | .float x => variant "Float" (Json.ofNumeral (.ofFloat32 x))
  | .double x => variant "Double" (Json.ofNumeral (.ofFloat x))
  | .uint n => variant "UInt" (ofNat n.toNat)
  | .ulong n => variant "ULong" (ofNat n.toNat)
  | .string s => variant "String" (.string s)

mutual

def Expression.toJson : Expression → Json
  | .constant value => variant "Const" value.toJson
  | .readValue name type =>
    variant "GetValue" (.object [("name", .string name), ("type", type.toJson)])
  | .self type => variant "This" (.object [("type", type.toJson)])
  | .readField receiver field type =>
    variant "GetField" (.object [("receiver", Expression.toJsonOption receiver),
      ("field", .string field), ("type", type.toJson)])
  | .object id => variant "GetObject" (.object [("class", id.toJson)])
  | .call c => variant "Call" c.toJson
  | .construct id typeArguments arguments =>
    variant "ConstructorCall" (.object [("class", id.toJson),
      ("type_arguments", ofList SourceType.toJson typeArguments),
      ("arguments", .array (Expression.toJsonArguments arguments))])
  | .concatenation parts => variant "StringConcatenation" (.array (Expression.toJsonList parts))
  | .typeOperation operator operand type =>
    variant "TypeOperator" (.object [("operator", .string operator.word),
      ("operand", operand.toJson), ("type", type.toJson)])
  | .when branches type =>
    variant "When" (.object [("branches", .array (Branch.toJsonList branches)),
      ("type", type.toJson)])
  | .block statements type =>
    variant "Block" (.object [("statements", .array (Statement.toJsonList statements)),
      ("type", type.toJson)])
  | .unsupported kind => variant "Unsupported" (.object [("kind", .string kind)])

def Call.toJson : Call → Json
  | { callee, dispatchReceiver, extensionReceiver, arguments, typeArguments, type } =>
    .object [("callee", callee.toJson),
      ("dispatch_receiver", Expression.toJsonOption dispatchReceiver),
      ("extension_receiver", Expression.toJsonOption extensionReceiver),
      ("arguments", .array (Expression.toJsonArguments arguments)),
      ("type_arguments", ofList SourceType.toJson typeArguments), ("type", type.toJson)]

def Branch.toJson : Branch → Json
  | { condition, result } =>
    .object [("condition", condition.toJson), ("result", result.toJson)]

def Statement.toJson : Statement → Json
  | .evaluate expression => variant "Expression" expression.toJson
  | .declare name type initializer isVariable =>
    variant "Variable" (.object [("name", .string name), ("type", type.toJson),
      ("initializer", Expression.toJsonOption initializer), ("is_var", .bool isVariable)])
  | .assign name value =>
    variant "SetValue" (.object [("name", .string name), ("value", value.toJson)])
  | .assignField receiver field value =>
    variant "SetField" (.object [("receiver", Expression.toJsonOption receiver),
      ("field", .string field), ("value", value.toJson)])
  | .returns value => variant "Return" (Expression.toJsonOption value)
  | .conditional condition thenBranch elseBranch =>
    variant "If" (.object [("condition", condition.toJson),
      ("then_branch", .array (Statement.toJsonList thenBranch)),
      ("else_branch", .array (Statement.toJsonList elseBranch))])
  | .loop condition body =>
    variant "While" (.object [("condition", condition.toJson),
      ("body", .array (Statement.toJsonList body))])
  | .throws value => variant "Throw" value.toJson

def Expression.toJsonOption : Option Expression → Json
  | none => .null
  | some expression => expression.toJson

def Expression.toJsonList : List Expression → List Json
  | [] => []
  | expression :: rest => expression.toJson :: Expression.toJsonList rest

def Expression.toJsonArguments : List (Option Expression) → List Json
  | [] => []
  | argument :: rest => Expression.toJsonOption argument :: Expression.toJsonArguments rest

def Branch.toJsonList : List Branch → List Json
  | [] => []
  | branch :: rest => branch.toJson :: Branch.toJsonList rest

def Statement.toJsonList : List Statement → List Json
  | [] => []
  | statement :: rest => statement.toJson :: Statement.toJsonList rest

end

def bodyToJson (statements : List Statement) : Json :=
  .object [("statements", .array (Statement.toJsonList statements))]

def AnnotationUse.toJson (a : AnnotationUse) : Json :=
  .object [("class", a.id.toJson), ("arguments", ofList Constant.toJson a.arguments)]

def TypeParameter.toJson (p : TypeParameter) : Json :=
  .object [("name", .string p.name), ("variance", p.variance.toJson),
    ("bounds", ofList SourceType.toJson p.bounds)]

def ValueParameter.toJson (p : ValueParameter) : Json :=
  .object [("name", .string p.name), ("type", p.type.toJson),
    ("default_value", Expression.toJsonOption p.defaultValue), ("is_vararg", .bool p.isVararg)]

def FunctionDecl.toJson (d : FunctionDecl) : Json :=
  .object [("id", d.id.toJson), ("type_parameters", ofList TypeParameter.toJson d.typeParameters),
    ("extension_receiver", ofOption ValueParameter.toJson d.extensionReceiver),
    ("value_parameters", ofList ValueParameter.toJson d.valueParameters),
    ("return_type", d.returnType.toJson), ("body", ofOption bodyToJson d.body),
    ("is_static", .bool d.isStatic), ("visibility", d.visibility.toJson),
    ("modality", d.modality.toJson), ("is_expect", .bool d.isExpect),
    ("is_external", .bool d.isExternal), ("is_operator", .bool d.isOperator),
    ("annotations", ofList AnnotationUse.toJson d.annotations), ("origin", d.origin.toJson)]

def Delegation.toJson (d : Delegation) : Json :=
  .object [("kind", .string d.target.word),
    ("arguments", .array (Expression.toJsonArguments d.arguments))]

def ConstructorDecl.toJson (d : ConstructorDecl) : Json :=
  .object [("class", d.id.toJson),
    ("value_parameters", ofList ValueParameter.toJson d.valueParameters),
    ("delegation", ofOption Delegation.toJson d.delegation), ("body", ofOption bodyToJson d.body),
    ("is_primary", .bool d.isPrimary), ("visibility", d.visibility.toJson),
    ("origin", d.origin.toJson)]

def PropertyDecl.toJson (d : PropertyDecl) : Json :=
  .object [("id", d.id.toJson), ("type", d.type.toJson), ("is_var", .bool d.isVariable),
    ("is_const", .bool d.isConst), ("is_static", .bool d.isStatic),
    ("getter", ofOption bodyToJson d.getter), ("setter", ofOption bodyToJson d.setter),
    ("initializer", Expression.toJsonOption d.initializer), ("visibility", d.visibility.toJson),
    ("modality", d.modality.toJson), ("is_expect", .bool d.isExpect),
    ("origin", d.origin.toJson)]

def FieldDecl.toJson (d : FieldDecl) : Json :=
  .object [("name", .string d.name), ("type", d.type.toJson), ("is_static", .bool d.isStatic),
    ("is_final", .bool d.isFinal), ("initializer", Expression.toJsonOption d.initializer),
    ("visibility", d.visibility.toJson), ("origin", d.origin.toJson)]

mutual

def ClassDecl.toJson : ClassDecl → Json
  | { id, kind, modality, visibility, isLocal, isValue, isExpect, isExternal, isCompanion,
      typeParameters, supertypes, annotations, enumEntries, declarations, origin } =>
    .object [("id", id.toJson), ("kind", kind.toJson), ("modality", modality.toJson),
      ("visibility", visibility.toJson), ("is_local", .bool isLocal), ("is_value", .bool isValue),
      ("is_expect", .bool isExpect), ("is_external", .bool isExternal),
      ("is_companion", .bool isCompanion),
      ("type_parameters", ofList TypeParameter.toJson typeParameters),
      ("supertypes", ofList SourceType.toJson supertypes),
      ("annotations", ofList AnnotationUse.toJson annotations),
      ("enum_entries", ofStrings enumEntries),
      ("declarations", .array (Declaration.toJsonList declarations)), ("origin", origin.toJson)]

def Declaration.toJson : Declaration → Json
  | .ofClass decl => variant "Class" decl.toJson
  | .function decl => variant "Function" decl.toJson
  | .constructor decl => variant "Constructor" decl.toJson
  | .property decl => variant "Property" decl.toJson
  | .field decl => variant "Field" decl.toJson

def Declaration.toJsonList : List Declaration → List Json
  | [] => []
  | declaration :: rest => declaration.toJson :: Declaration.toJsonList rest

end

def SourceFile.toJson (f : SourceFile) : Json :=
  .object [("name", .string f.name), ("package", .string f.package.text),
    ("declarations", .array (Declaration.toJsonList f.declarations))]

def SourceModule.toJson (m : SourceModule) : Json :=
  .object [("name", .string m.name), ("files", ofList SourceFile.toJson m.files)]

end KotlinBackend
