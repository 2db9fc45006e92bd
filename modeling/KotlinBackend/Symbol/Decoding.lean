import KotlinBackend.Program.Decoding
import KotlinBackend.Symbol.Graph

/-!
# Symbols from JSON

Members that are absent or `null` take their defaults. What follows from other members, such as the
name of a class, is not read.
-/

namespace KotlinBackend

open Json (Decoder Mismatch decodeString decodeBool decodeList decodeMembers required optional)

/-- A member that takes a default when it is absent or `null`. -/
def symbolMember (members : List (String × Json)) (name : String) (absent : α)
    (decode : Decoder α) : Except Mismatch α := do
  let value ← optional members name decode
  .ok (value.getD absent)

def ParameterSymbol.decode : Decoder ParameterSymbol := fun value => do
  let members ← decodeMembers "a parameter" value
  let name ← required members "name" decodeString
  let type ← required members "type" SourceType.decode
  let hasDefault ← symbolMember members "has_default" false decodeBool
  let isVararg ← symbolMember members "is_vararg" false decodeBool
  .ok { name, type, hasDefault, isVararg }

def ClassSymbol.decode : Decoder ClassSymbol := fun value => do
  let members ← decodeMembers "a class" value
  let id ← required members "id" ClassId.decode
  let kind ← symbolMember members "kind" .plain ClassKind.decode
  let modality ← symbolMember members "modality" .final Modality.decode
  let visibility ← symbolMember members "visibility" .publicAccess Visibility.decode
  let typeParameters ← symbolMember members "type_parameters" [] (decodeList TypeParameter.decode)
  let supertypes ← symbolMember members "supertypes" [] (decodeList SourceType.decode)
  let enumEntries ← symbolMember members "enum_entries" [] (decodeList decodeString)
  let isCompanion ← symbolMember members "is_companion" false decodeBool
  let isStaticHolder ← symbolMember members "is_static_holder" false decodeBool
  let companion ← optional members "companion" ClassId.decode
  let assembly ← optional members "assembly" decodeString
  let origin := match assembly with
    | some name => .assembly name
    | none => .builtin
  .ok { id, kind, modality, visibility, typeParameters, supertypes, enumEntries, isCompanion,
        isStaticHolder, companion, origin }

def FunctionSymbol.decode : Decoder FunctionSymbol := fun value => do
  let members ← decodeMembers "a function" value
  let id ← required members "id" CallableId.decode
  let typeParameters ← symbolMember members "type_parameters" [] (decodeList TypeParameter.decode)
  let extensionReceiver ← optional members "extension_receiver" SourceType.decode
  let parameters ← symbolMember members "parameters" [] (decodeList ParameterSymbol.decode)
  let returnType ← required members "return_type" SourceType.decode
  let isStatic ← symbolMember members "is_static" false decodeBool
  let isOperator ← symbolMember members "is_operator" false decodeBool
  let staticHolder ← optional members "static_holder" ClassId.decode
  .ok { id, typeParameters, extensionReceiver, parameters, returnType, isStatic, isOperator,
        staticHolder }

def ConstructorSymbol.decode : Decoder ConstructorSymbol := fun value => do
  let members ← decodeMembers "a constructor" value
  let id ← required members "class" ClassId.decode
  let parameters ← symbolMember members "parameters" [] (decodeList ParameterSymbol.decode)
  let visibility ← symbolMember members "visibility" .publicAccess Visibility.decode
  .ok { id, parameters, visibility }

def PropertySymbol.decode : Decoder PropertySymbol := fun value => do
  let members ← decodeMembers "a property" value
  let id ← required members "id" CallableId.decode
  let type ← required members "type" SourceType.decode
  let isVariable ← symbolMember members "is_var" false decodeBool
  let isConst ← symbolMember members "is_const" false decodeBool
  let isStatic ← symbolMember members "is_static" false decodeBool
  let staticHolder ← optional members "static_holder" ClassId.decode
  .ok { id, type, isVariable, isConst, isStatic, staticHolder }

end KotlinBackend
