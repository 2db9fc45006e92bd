import KotlinBackend.Json.Decoder
import KotlinBackend.Metadata.Assembly

/-!
# Assemblies from JSON

Members that are absent take their defaults; unknown members are ignored.
-/

namespace KotlinBackend.Metadata

open Json (Decoder tooDeep decodeString decodeMembers decodeNamed required defaulted optional
  listed flag)

def TypeFlags.decode : Decoder TypeFlags := fun value => do
  let members ← decodeMembers "flags" value
  let isAbstract ← flag members "isAbstract"
  let isSealed ← flag members "isSealed"
  let isInterface ← flag members "isInterface"
  let isEnum ← flag members "isEnum"
  let isValueType ← flag members "isValueType"
  let isGenericType ← flag members "isGenericType"
  let isNested ← flag members "isNested"
  let isPublic ← flag members "isPublic"
  let isNestedPublic ← flag members "isNestedPublic"
  let isNestedPrivate ← flag members "isNestedPrivate"
  let isNestedFamily ← flag members "isNestedFamily"
  let isNestedAssembly ← flag members "isNestedAssembly"
  .ok { isAbstract, isSealed, isInterface, isEnum, isValueType, isGenericType, isNested, isPublic,
        isNestedPublic, isNestedPrivate, isNestedFamily, isNestedAssembly }

def MemberAccess.decode : Decoder MemberAccess := decodeNamed MemberAccess.words

def RefKind.decode : Decoder RefKind := decodeNamed RefKind.words

def GenericParameter.decode : Decoder GenericParameter := fun value => do
  let members ← decodeMembers "a type parameter" value
  let name ← required members "name" decodeString
  let isCovariant ← flag members "isCovariant"
  let isContravariant ← flag members "isContravariant"
  let ownedByType ← flag members "ownedByType"
  let ownedByMethod ← flag members "ownedByMethod"
  .ok { name, isCovariant, isContravariant, ownedByType, ownedByMethod }

def TypeRef.decodeWithin : Nat → Decoder TypeRef
  | 0 => fun _ => tooDeep
  | fuel + 1 => fun value => do
    let members ← decodeMembers "a type reference" value
    let nameSpace ← optional members "namespace" decodeString
    let name ← required members "name" decodeString
    let kind ← defaulted members "kind" .plainClass RefKind.decode
    let parameter ← optional members "typeParameter" GenericParameter.decode
    let arguments ← listed members "typeParameters" (TypeRef.decodeWithin fuel)
    .ok { nameSpace, name, kind, parameter, arguments }

def TypeRef.decode : Decoder TypeRef := fun value => TypeRef.decodeWithin (value.depth + 1) value

def Attribute.decode : Decoder Attribute := fun value => do
  let members ← decodeMembers "an attribute" value
  let typeName ← required members "typeName" decodeString
  let arguments ← listed members "arguments" decodeString
  .ok { typeName, arguments }

def Parameter.decode : Decoder Parameter := fun value => do
  let members ← decodeMembers "a parameter" value
  let name ← optional members "name" decodeString
  let type ← required members "type" TypeRef.decode
  let attributes ← listed members "attributes" Attribute.decode
  let hasDefault ← flag members "hasDefaultValue"
  let isVariadic ← flag members "isVariadic"
  .ok { name, type, attributes, hasDefault, isVariadic }

def Method.decode : Decoder Method := fun value => do
  let members ← decodeMembers "a method" value
  let name ← required members "name" decodeString
  let returnType ← required members "returnType" TypeRef.decode
  let attributes ← listed members "attributes" Attribute.decode
  let typeParameters ← listed members "typeParameters" GenericParameter.decode
  let parameters ← listed members "parameters" Parameter.decode
  let isStatic ← flag members "isStatic"
  let access ← defaulted members "visibility" .everyone MemberAccess.decode
  let isVirtual ← flag members "isVirtual"
  let isFinal ← flag members "isFinal"
  let isAbstract ← flag members "isAbstract"
  .ok { name, returnType, attributes, typeParameters, parameters, isStatic, access, isVirtual,
        isFinal, isAbstract }

def Constructor.decode : Decoder Constructor := fun value => do
  let members ← decodeMembers "a constructor" value
  let attributes ← listed members "attributes" Attribute.decode
  let parameters ← listed members "parameters" Parameter.decode
  let isStatic ← flag members "isStatic"
  let access ← defaulted members "visibility" .everyone MemberAccess.decode
  .ok { attributes, parameters, isStatic, access }

def Field.decode : Decoder Field := fun value => do
  let members ← decodeMembers "a field" value
  let name ← required members "name" decodeString
  let type ← required members "fieldType" TypeRef.decode
  let isStatic ← flag members "isStatic"
  let isInitOnly ← flag members "isInitOnly"
  let isLiteral ← flag members "isLiteral"
  let access ← defaulted members "visibility" .everyone MemberAccess.decode
  .ok { name, type, isStatic, isInitOnly, isLiteral, access }

def Property.decode : Decoder Property := fun value => do
  let members ← decodeMembers "a property" value
  let name ← required members "name" decodeString
  let type ← required members "propertyType" TypeRef.decode
  let canRead ← flag members "canRead"
  let canWrite ← flag members "canWrite"
  let isStatic ← flag members "isStatic"
  .ok { name, type, canRead, canWrite, isStatic }

def Event.decode : Decoder Event := fun value => do
  let members ← decodeMembers "an event" value
  let name ← required members "name" decodeString
  let handlerType ← required members "handlerType" TypeRef.decode
  let isStatic ← flag members "isStatic"
  .ok { name, handlerType, isStatic }

def TypeDef.decodeWithin : Nat → Decoder TypeDef
  | 0 => fun _ => tooDeep
  | fuel + 1 => fun value => do
    let members ← decodeMembers "a type" value
    let name ← required members "name" decodeString
    let nameSpace ← defaulted members "namespace" "" decodeString
    let declaringType ← optional members "declaringType" decodeString
    let baseType ← optional members "baseType" TypeRef.decode
    let interfaces ← listed members "interfaces" TypeRef.decode
    let attributes ← listed members "attributes" Attribute.decode
    let constructors ← listed members "constructors" Constructor.decode
    let methods ← listed members "methods" Method.decode
    let fields ← listed members "fields" Field.decode
    let properties ← listed members "properties" Property.decode
    let events ← listed members "events" Event.decode
    let nestedTypes ← listed members "nestedTypes" (TypeDef.decodeWithin fuel)
    let typeParameters ← listed members "typeParameters" GenericParameter.decode
    let flags ← defaulted members "flags" {} TypeFlags.decode
    .ok { name, nameSpace, declaringType, baseType, interfaces, attributes, constructors, methods,
          fields, properties, events, nestedTypes, typeParameters, flags }

def TypeDef.decode : Decoder TypeDef := fun value => TypeDef.decodeWithin (value.depth + 1) value

def Assembly.decode : Decoder Assembly := fun value => do
  let members ← decodeMembers "an assembly" value
  let name ← required members "name" decodeString
  let types ← listed members "types" TypeDef.decode
  .ok { name, types }

end KotlinBackend.Metadata
