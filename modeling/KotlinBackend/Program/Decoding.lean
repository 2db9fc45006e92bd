import KotlinBackend.Json.Decoder
import KotlinBackend.Program.Module

/-!
# Programs from JSON

The inverse of writing a program: members that are absent take their defaults. The recursive
decoders follow the value downwards and are bounded by its depth.
-/

namespace KotlinBackend

open Json (Decoder Mismatch tooDeep decodeString decodeBool decodeInt decodeNumber decodeOption
  decodeList decodeMembers decodeChoice decodeNamed required defaulted optional listed flag)

def ClassId.decode : Decoder ClassId := fun value => do
  let text ← decodeString value
  match ClassId.parse text with
  | .ok id => .ok id
  | .error e => .error (.malformed e.message)

def CallableId.decode : Decoder CallableId := fun value => do
  let text ← decodeString value
  match CallableId.parse text with
  | .ok id => .ok id
  | .error e => .error (.malformed e.message)

def QualifiedName.decode : Decoder QualifiedName := fun value => do
  let text ← decodeString value
  .ok ⟨text⟩

def Variance.decode : Decoder Variance := decodeNamed Variance.words

def ClassKind.decode : Decoder ClassKind := decodeNamed ClassKind.words

def Modality.decode : Decoder Modality := decodeNamed Modality.words

def Visibility.decode : Decoder Visibility := decodeNamed Visibility.words

def Origin.decode : Decoder Origin := decodeNamed Origin.words

def DelegationTarget.decode : Decoder DelegationTarget := decodeNamed DelegationTarget.words

def TypeOperator.decode : Decoder TypeOperator := decodeNamed TypeOperator.words

mutual

def SourceType.decodeWithin : Nat → Decoder SourceType
  | 0 => fun _ => tooDeep
  | fuel + 1 => fun value => do
    let c ← decodeChoice value
    match c.name with
    | "Class" => c.data fun payload => do
      let members ← decodeMembers "a class type" payload
      let id ← required members "id" ClassId.decode
      let arguments ← listed members "arguments" (TypeArgument.decodeWithin fuel)
      let nullable ← flag members "nullable"
      .ok (.applied id arguments nullable)
    | "TypeParameter" => c.data fun payload => do
      let members ← decodeMembers "a type parameter" payload
      let name ← required members "name" decodeString
      let nullable ← flag members "nullable"
      .ok (.parameter name nullable)
    | _ => c.unknown

def TypeArgument.decodeWithin : Nat → Decoder TypeArgument
  | 0 => fun _ => tooDeep
  | fuel + 1 => fun value => do
    let c ← decodeChoice value
    match c.name with
    | "Star" => c.plain .star
    | name =>
      match Variance.words.lookup name with
      | some variance => c.data fun payload => do
        let type ← SourceType.decodeWithin fuel payload
        .ok (.projected variance type)
      | none => c.unknown

end

def SourceType.decode : Decoder SourceType := fun value =>
  SourceType.decodeWithin (value.depth + 1) value

/-- A text of exactly one character. -/
def decodeCharacter : Decoder Char := fun value => do
  let text ← decodeString value
  match text.toList with
  | [c] => .ok c
  | _ => .error (.malformed "expected a character")

/-- An integer that fits into a number of bits, one of them for the sign. -/
def decodeSigned (bits : Nat) : Decoder Int :=
  let limit : Int := Nat.pow 2 (bits - 1)
  decodeInt (-limit) (limit - 1) "a signed integer of its width"

/-- A natural number that fits into a number of bits. -/
def decodeUnsigned (bits : Nat) : Decoder Int :=
  decodeInt 0 (Nat.pow 2 bits - 1) "an unsigned integer of its width"

def Constant.decode : Decoder Constant := fun value => do
  let c ← decodeChoice value
  match c.name with
  | "Null" => c.plain .null
  | "Boolean" => Constant.boolean <$> c.data decodeBool
  | "Char" => Constant.char <$> c.data decodeCharacter
  | "Byte" => (Constant.byte ∘ Int8.ofInt) <$> c.data (decodeSigned 8)
  | "Short" => (Constant.short ∘ Int16.ofInt) <$> c.data (decodeSigned 16)
  | "Int" => (Constant.int ∘ Int32.ofInt) <$> c.data (decodeSigned 32)
  | "Long" => (Constant.long ∘ Int64.ofInt) <$> c.data (decodeSigned 64)
  | "Float" => (Constant.float ∘ Json.Number.toFloat32) <$> c.data (decodeNumber "a number")
  | "Double" => (Constant.double ∘ Json.Number.toFloat) <$> c.data (decodeNumber "a number")
  | "UInt" => (Constant.uint ∘ UInt32.ofNat ∘ Int.toNat) <$> c.data (decodeUnsigned 32)
  | "ULong" => (Constant.ulong ∘ UInt64.ofNat ∘ Int.toNat) <$> c.data (decodeUnsigned 64)
  | "String" => Constant.string <$> c.data decodeString
  | _ => c.unknown

mutual

def Expression.decodeWithin : Nat → Decoder Expression
  | 0 => fun _ => tooDeep
  | fuel + 1 => fun value => do
    let c ← decodeChoice value
    match c.name with
    | "Const" => Expression.constant <$> c.data Constant.decode
    | "GetValue" => c.data fun payload => do
      let members ← decodeMembers "a value access" payload
      let name ← required members "name" decodeString
      let type ← required members "type" SourceType.decode
      .ok (.readValue name type)
    | "This" => c.data fun payload => do
      let members ← decodeMembers "a reference to the object itself" payload
      let type ← required members "type" SourceType.decode
      .ok (.self type)
    | "GetField" => c.data fun payload => do
      let members ← decodeMembers "a field access" payload
      let receiver ← optional members "receiver" (Expression.decodeWithin fuel)
      let field ← required members "field" decodeString
      let type ← required members "type" SourceType.decode
      .ok (.readField receiver field type)
    | "GetObject" => c.data fun payload => do
      let members ← decodeMembers "an object reference" payload
      let id ← required members "class" ClassId.decode
      .ok (.object id)
    | "Call" => Expression.call <$> c.data (Call.decodeWithin fuel)
    | "ConstructorCall" => c.data fun payload => do
      let members ← decodeMembers "a constructor call" payload
      let id ← required members "class" ClassId.decode
      let typeArguments ← listed members "type_arguments" SourceType.decode
      let arguments ← listed members "arguments" (decodeOption (Expression.decodeWithin fuel))
      .ok (.construct id typeArguments arguments)
    | "StringConcatenation" =>
      Expression.concatenation <$> c.data (decodeList (Expression.decodeWithin fuel))
    | "TypeOperator" => c.data fun payload => do
      let members ← decodeMembers "a type operation" payload
      let operator ← required members "operator" TypeOperator.decode
      let operand ← required members "operand" (Expression.decodeWithin fuel)
      let type ← required members "type" SourceType.decode
      .ok (.typeOperation operator operand type)
    | "When" => c.data fun payload => do
      let members ← decodeMembers "a case distinction" payload
      let branches ← required members "branches" (decodeList (Branch.decodeWithin fuel))
      let type ← required members "type" SourceType.decode
      .ok (.when branches type)
    | "Block" => c.data fun payload => do
      let members ← decodeMembers "a block" payload
      let statements ← required members "statements" (decodeList (Statement.decodeWithin fuel))
      let type ← required members "type" SourceType.decode
      .ok (.block statements type)
    | "Unsupported" => c.data fun payload => do
      let members ← decodeMembers "an unsupported shape" payload
      let kind ← required members "kind" decodeString
      .ok (.unsupported kind)
    | _ => c.unknown

def Call.decodeWithin : Nat → Decoder Call
  | 0 => fun _ => tooDeep
  | fuel + 1 => fun value => do
    let members ← decodeMembers "a call" value
    let callee ← required members "callee" CallableId.decode
    let dispatchReceiver ← optional members "dispatch_receiver" (Expression.decodeWithin fuel)
    let extensionReceiver ← optional members "extension_receiver" (Expression.decodeWithin fuel)
    let arguments ← listed members "arguments" (decodeOption (Expression.decodeWithin fuel))
    let typeArguments ← listed members "type_arguments" SourceType.decode
    let type ← required members "type" SourceType.decode
    .ok { callee, dispatchReceiver, extensionReceiver, arguments, typeArguments, type }

def Branch.decodeWithin : Nat → Decoder Branch
  | 0 => fun _ => tooDeep
  | fuel + 1 => fun value => do
    let members ← decodeMembers "a branch" value
    let condition ← required members "condition" (Expression.decodeWithin fuel)
    let result ← required members "result" (Expression.decodeWithin fuel)
    .ok { condition, result }

def Statement.decodeWithin : Nat → Decoder Statement
  | 0 => fun _ => tooDeep
  | fuel + 1 => fun value => do
    let c ← decodeChoice value
    match c.name with
    | "Expression" => Statement.evaluate <$> c.data (Expression.decodeWithin fuel)
    | "Variable" => c.data fun payload => do
      let members ← decodeMembers "a variable" payload
      let name ← required members "name" decodeString
      let type ← required members "type" SourceType.decode
      let initializer ← optional members "initializer" (Expression.decodeWithin fuel)
      let isVariable ← flag members "is_var"
      .ok (.declare name type initializer isVariable)
    | "SetValue" => c.data fun payload => do
      let members ← decodeMembers "an assignment" payload
      let name ← required members "name" decodeString
      let assigned ← required members "value" (Expression.decodeWithin fuel)
      .ok (.assign name assigned)
    | "SetField" => c.data fun payload => do
      let members ← decodeMembers "a field assignment" payload
      let receiver ← optional members "receiver" (Expression.decodeWithin fuel)
      let field ← required members "field" decodeString
      let assigned ← required members "value" (Expression.decodeWithin fuel)
      .ok (.assignField receiver field assigned)
    | "Return" => Statement.returns <$> c.data (decodeOption (Expression.decodeWithin fuel))
    | "If" => c.data fun payload => do
      let members ← decodeMembers "a conditional" payload
      let condition ← required members "condition" (Expression.decodeWithin fuel)
      let thenBranch ← listed members "then_branch" (Statement.decodeWithin fuel)
      let elseBranch ← listed members "else_branch" (Statement.decodeWithin fuel)
      .ok (.conditional condition thenBranch elseBranch)
    | "While" => c.data fun payload => do
      let members ← decodeMembers "a loop" payload
      let condition ← required members "condition" (Expression.decodeWithin fuel)
      let body ← listed members "body" (Statement.decodeWithin fuel)
      .ok (.loop condition body)
    | "Throw" => Statement.throws <$> c.data (Expression.decodeWithin fuel)
    | _ => c.unknown

end

def Expression.decode : Decoder Expression := fun value =>
  Expression.decodeWithin (value.depth + 1) value

def Statement.decode : Decoder Statement := fun value =>
  Statement.decodeWithin (value.depth + 1) value

def decodeBody : Decoder (List Statement) := fun value => do
  let members ← decodeMembers "a body" value
  listed members "statements" Statement.decode

def AnnotationUse.decode : Decoder AnnotationUse := fun value => do
  let members ← decodeMembers "an annotation" value
  let id ← required members "class" ClassId.decode
  let arguments ← listed members "arguments" Constant.decode
  .ok { id, arguments }

def TypeParameter.decode : Decoder TypeParameter := fun value => do
  let members ← decodeMembers "a type parameter" value
  let name ← required members "name" decodeString
  let variance ← defaulted members "variance" .invariant Variance.decode
  let bounds ← listed members "bounds" SourceType.decode
  .ok { name, variance, bounds }

def ValueParameter.decode : Decoder ValueParameter := fun value => do
  let members ← decodeMembers "a parameter" value
  let name ← required members "name" decodeString
  let type ← required members "type" SourceType.decode
  let defaultValue ← optional members "default_value" Expression.decode
  let isVararg ← flag members "is_vararg"
  .ok { name, type, defaultValue, isVararg }

def FunctionDecl.decode : Decoder FunctionDecl := fun value => do
  let members ← decodeMembers "a function" value
  let id ← required members "id" CallableId.decode
  let typeParameters ← listed members "type_parameters" TypeParameter.decode
  let extensionReceiver ← optional members "extension_receiver" ValueParameter.decode
  let valueParameters ← listed members "value_parameters" ValueParameter.decode
  let returnType ← required members "return_type" SourceType.decode
  let body ← optional members "body" decodeBody
  let isStatic ← flag members "is_static"
  let visibility ← defaulted members "visibility" .publicAccess Visibility.decode
  let modality ← defaulted members "modality" .final Modality.decode
  let isExpect ← flag members "is_expect"
  let isExternal ← flag members "is_external"
  let isOperator ← flag members "is_operator"
  let annotations ← listed members "annotations" AnnotationUse.decode
  let origin ← defaulted members "origin" .written Origin.decode
  .ok { id, typeParameters, extensionReceiver, valueParameters, returnType, body, isStatic,
        visibility, modality, isExpect, isExternal, isOperator, annotations, origin }

def Delegation.decode : Decoder Delegation := fun value => do
  let members ← decodeMembers "a delegation" value
  let target ← required members "kind" DelegationTarget.decode
  let arguments ← listed members "arguments" (decodeOption Expression.decode)
  .ok { target, arguments }

def ConstructorDecl.decode : Decoder ConstructorDecl := fun value => do
  let members ← decodeMembers "a constructor" value
  let id ← required members "class" ClassId.decode
  let valueParameters ← listed members "value_parameters" ValueParameter.decode
  let delegation ← optional members "delegation" Delegation.decode
  let body ← optional members "body" decodeBody
  let isPrimary ← flag members "is_primary"
  let visibility ← defaulted members "visibility" .publicAccess Visibility.decode
  let origin ← defaulted members "origin" .written Origin.decode
  .ok { id, valueParameters, delegation, body, isPrimary, visibility, origin }

def PropertyDecl.decode : Decoder PropertyDecl := fun value => do
  let members ← decodeMembers "a property" value
  let id ← required members "id" CallableId.decode
  let type ← required members "type" SourceType.decode
  let isVariable ← flag members "is_var"
  let isConst ← flag members "is_const"
  let isStatic ← flag members "is_static"
  let getter ← optional members "getter" decodeBody
  let setter ← optional members "setter" decodeBody
  let initializer ← optional members "initializer" Expression.decode
  let visibility ← defaulted members "visibility" .publicAccess Visibility.decode
  let modality ← defaulted members "modality" .final Modality.decode
  let isExpect ← flag members "is_expect"
  let origin ← defaulted members "origin" .written Origin.decode
  .ok { id, type, isVariable, isConst, isStatic, getter, setter, initializer, visibility,
        modality, isExpect, origin }

def FieldDecl.decode : Decoder FieldDecl := fun value => do
  let members ← decodeMembers "a field" value
  let name ← required members "name" decodeString
  let type ← required members "type" SourceType.decode
  let isStatic ← flag members "is_static"
  let isFinal ← flag members "is_final"
  let initializer ← optional members "initializer" Expression.decode
  let visibility ← defaulted members "visibility" .publicAccess Visibility.decode
  let origin ← defaulted members "origin" .written Origin.decode
  .ok { name, type, isStatic, isFinal, initializer, visibility, origin }

mutual

def ClassDecl.decodeWithin : Nat → Decoder ClassDecl
  | 0 => fun _ => tooDeep
  | fuel + 1 => fun value => do
    let members ← decodeMembers "a class" value
    let id ← required members "id" ClassId.decode
    let kind ← defaulted members "kind" .plain ClassKind.decode
    let modality ← defaulted members "modality" .final Modality.decode
    let visibility ← defaulted members "visibility" .publicAccess Visibility.decode
    let isLocal ← flag members "is_local"
    let isValue ← flag members "is_value"
    let isExpect ← flag members "is_expect"
    let isExternal ← flag members "is_external"
    let isCompanion ← flag members "is_companion"
    let typeParameters ← listed members "type_parameters" TypeParameter.decode
    let supertypes ← listed members "supertypes" SourceType.decode
    let annotations ← listed members "annotations" AnnotationUse.decode
    let enumEntries ← listed members "enum_entries" decodeString
    let declarations ← listed members "declarations" (Declaration.decodeWithin fuel)
    let origin ← defaulted members "origin" .written Origin.decode
    .ok { id, kind, modality, visibility, isLocal, isValue, isExpect, isExternal, isCompanion,
          typeParameters, supertypes, annotations, enumEntries, declarations, origin }

def Declaration.decodeWithin : Nat → Decoder Declaration
  | 0 => fun _ => tooDeep
  | fuel + 1 => fun value => do
    let c ← decodeChoice value
    match c.name with
    | "Class" => Declaration.ofClass <$> c.data (ClassDecl.decodeWithin fuel)
    | "Function" => Declaration.function <$> c.data FunctionDecl.decode
    | "Constructor" => Declaration.constructor <$> c.data ConstructorDecl.decode
    | "Property" => Declaration.property <$> c.data PropertyDecl.decode
    | "Field" => Declaration.field <$> c.data FieldDecl.decode
    | _ => c.unknown

end

def ClassDecl.decode : Decoder ClassDecl := fun value =>
  ClassDecl.decodeWithin (value.depth + 1) value

def Declaration.decode : Decoder Declaration := fun value =>
  Declaration.decodeWithin (value.depth + 1) value

def SourceFile.decode : Decoder SourceFile := fun value => do
  let members ← decodeMembers "a file" value
  let name ← required members "name" decodeString
  let package ← defaulted members "package" .root QualifiedName.decode
  let declarations ← listed members "declarations" Declaration.decode
  .ok { name, package, declarations }

def SourceModule.decode : Decoder SourceModule := fun value => do
  let members ← decodeMembers "a module" value
  let name ← required members "name" decodeString
  let files ← listed members "files" SourceFile.decode
  .ok { name, files }

end KotlinBackend
