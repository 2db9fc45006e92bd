import KotlinBackend.Json.Value
import KotlinBackend.Metadata.Assembly
import KotlinBackend.Program.Attribute

/-!
# Assemblies as JSON

Every member is written; a set of flags is an object with one truth value for each flag.
-/

namespace KotlinBackend.Metadata

open Json (ofList ofOption ofStrings)

def TypeFlags.names : List String :=
  ["isAbstract", "isSealed", "isInterface", "isEnum", "isValueType", "isGenericType", "isNested",
    "isPublic", "isNestedPublic", "isNestedPrivate", "isNestedFamily", "isNestedAssembly"]

def TypeFlags.toJson (f : TypeFlags) : Json :=
  .object (TypeFlags.names.zip (f.toList.map Json.bool))

def MemberAccess.toJson (a : MemberAccess) : Json := .string (wordFor MemberAccess.words a)

def GenericParameter.toJson (p : GenericParameter) : Json :=
  .object [("name", .string p.name), ("isCovariant", .bool p.isCovariant),
    ("isContravariant", .bool p.isContravariant), ("ownedByType", .bool p.ownedByType),
    ("ownedByMethod", .bool p.ownedByMethod)]

mutual

def TypeRef.toJson : TypeRef → Json
  | { nameSpace, name, kind, parameter, arguments } =>
    .object [("namespace", ofOption .string nameSpace), ("name", .string name),
      ("kind", .string (wordFor RefKind.words kind)),
      ("typeParameter", ofOption GenericParameter.toJson parameter),
      ("typeParameters", .array (TypeRef.toJsonList arguments))]

def TypeRef.toJsonList : List TypeRef → List Json
  | [] => []
  | ref :: rest => ref.toJson :: TypeRef.toJsonList rest

end

def Attribute.toJson (a : Attribute) : Json :=
  .object [("typeName", .string a.typeName), ("arguments", ofStrings a.arguments)]

def Parameter.toJson (p : Parameter) : Json :=
  .object [("name", ofOption .string p.name), ("type", p.type.toJson),
    ("attributes", ofList Attribute.toJson p.attributes),
    ("hasDefaultValue", .bool p.hasDefault), ("isVariadic", .bool p.isVariadic)]

def Method.toJson (m : Method) : Json :=
  .object [("name", .string m.name), ("returnType", m.returnType.toJson),
    ("attributes", ofList Attribute.toJson m.attributes),
    ("typeParameters", ofList GenericParameter.toJson m.typeParameters),
    ("parameters", ofList Parameter.toJson m.parameters), ("isStatic", .bool m.isStatic),
    ("visibility", m.access.toJson), ("isVirtual", .bool m.isVirtual),
    ("isFinal", .bool m.isFinal), ("isAbstract", .bool m.isAbstract)]

def Constructor.toJson (c : Constructor) : Json :=
  .object [("attributes", ofList Attribute.toJson c.attributes),
    ("parameters", ofList Parameter.toJson c.parameters), ("isStatic", .bool c.isStatic),
    ("visibility", c.access.toJson)]

def Field.toJson (f : Field) : Json :=
  .object [("name", .string f.name), ("fieldType", f.type.toJson), ("isStatic", .bool f.isStatic),
    ("isInitOnly", .bool f.isInitOnly), ("isLiteral", .bool f.isLiteral),
    ("visibility", f.access.toJson)]

def Property.toJson (p : Property) : Json :=
  .object [("name", .string p.name), ("propertyType", p.type.toJson),
    ("canRead", .bool p.canRead), ("canWrite", .bool p.canWrite), ("isStatic", .bool p.isStatic)]

def Event.toJson (e : Event) : Json :=
  .object [("name", .string e.name), ("handlerType", e.handlerType.toJson),
    ("isStatic", .bool e.isStatic)]

mutual

def TypeDef.toJson : TypeDef → Json
  | { name, nameSpace, declaringType, baseType, interfaces, attributes, constructors, methods,
      fields, properties, events, nestedTypes, typeParameters, flags } =>
    .object [("name", .string name), ("namespace", .string nameSpace),
      ("declaringType", ofOption .string declaringType),
      ("baseType", ofOption TypeRef.toJson baseType),
      ("interfaces", ofList TypeRef.toJson interfaces),
      ("attributes", ofList Attribute.toJson attributes),
      ("constructors", ofList Constructor.toJson constructors),
      ("methods", ofList Method.toJson methods), ("fields", ofList Field.toJson fields),
      ("properties", ofList Property.toJson properties), ("events", ofList Event.toJson events),
      ("nestedTypes", .array (TypeDef.toJsonList nestedTypes)),
      ("typeParameters", ofList GenericParameter.toJson typeParameters),
      ("flags", flags.toJson)]

def TypeDef.toJsonList : List TypeDef → List Json
  | [] => []
  | type :: rest => type.toJson :: TypeDef.toJsonList rest

end

def Assembly.toJson (a : Assembly) : Json :=
  .object [("name", .string a.name), ("types", .array (TypeDef.toJsonList a.types))]

end KotlinBackend.Metadata
