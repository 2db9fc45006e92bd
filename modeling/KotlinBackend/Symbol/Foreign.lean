import KotlinBackend.Data.Distinct
import KotlinBackend.Metadata.Assembly
import KotlinBackend.Program.SourceType

/-!
# Foreign types as source types

A table gives the source classes of the primitive runtime types, arrays become arrays, and a
reference to a known foreign type becomes its class. Everything else becomes the type of all values.
-/

namespace KotlinBackend

open Metadata (TypeDef TypeRef RefKind stripArity)

/-- The class names in a metadata name, from the outermost inwards. -/
def nestedNames (name : String) : List String := (Text.pieces '+' name).map stripArity

def Metadata.TypeDef.classId (t : TypeDef) : ClassId :=
  { package := ⟨t.nameSpace⟩
    names := (t.declaringType.map nestedNames).getD [] ++ [t.simpleName] }

def Metadata.TypeRef.classId (r : TypeRef) : ClassId :=
  { package := ⟨r.nameSpace.getD ""⟩, names := nestedNames r.name }

def primitiveTypes : List (String × SourceType) :=
  [("System.Int32", .int), ("System.Int64", .long), ("System.Int16", .short),
    ("System.SByte", .byte), ("System.Byte", .ofClass WellKnown.ubyte),
    ("System.UInt16", .ofClass WellKnown.ushort), ("System.UInt32", .uint),
    ("System.UInt64", .ulong), ("System.Single", .float), ("System.Double", .double),
    ("System.Boolean", .boolean), ("System.Char", .char), ("System.String", .string),
    ("System.Void", .unit), ("System.Exception", .ofClass WellKnown.throwable),
    ("System.Object", .top)]

/-- The arrays that have a class of their own, by the class of their elements. -/
def primitiveArrays : List (ClassId × ClassId) :=
  [(WellKnown.boolean, WellKnown.booleanArray), (WellKnown.char, WellKnown.charArray),
    (WellKnown.byte, WellKnown.byteArray), (WellKnown.short, WellKnown.shortArray),
    (WellKnown.int, WellKnown.intArray), (WellKnown.long, WellKnown.longArray),
    (WellKnown.float, WellKnown.floatArray), (WellKnown.double, WellKnown.doubleArray)]

/-- Base classes that every type has and that are never listed. -/
def implicitBases : List String := ["System.Object", "System.ValueType", "System.Enum"]

def Metadata.TypeRef.isImplicitBase (r : TypeRef) : Bool := implicitBases.contains r.fullName

def foreignArray (element : SourceType) : SourceType :=
  if element.isNullable then .arrayOf element
  else match element.class?.bind fun id => primitiveArrays.lookup id with
    | some array => .ofClass array
    | none => .arrayOf element

def foreignClass (known : ClassId → Bool) (fullName : String) (id : ClassId)
    (arguments : List SourceType) : SourceType :=
  match primitiveTypes.lookup fullName with
  | some primitive => primitive
  | none => if known id then .generic id arguments else .top

mutual

/-- The source type of a reference, given which classes are known. -/
def Metadata.TypeRef.resolve (known : ClassId → Bool) : TypeRef → SourceType
  | { nameSpace, name, kind, parameter, arguments } =>
    let resolved := Metadata.TypeRef.resolveList known arguments
    let reference : TypeRef := { nameSpace, name, kind, parameter, arguments }
    match kind with
    | .genericParameter => .parameter ((parameter.map (·.name)).getD name) false
    | .byRef | .pointer => resolved.headD .top
    | .array => (resolved.head?.map foreignArray).getD (.arrayOf .top)
    | .plainClass | .interface | .valueType =>
      foreignClass known reference.fullName reference.classId resolved

def Metadata.TypeRef.resolveList (known : ClassId → Bool) : List TypeRef → List SourceType
  | [] => []
  | reference :: rest =>
    Metadata.TypeRef.resolve known reference :: Metadata.TypeRef.resolveList known rest

end

def SourceType.isTop : SourceType → Bool
  | .applied id [] true => id == WellKnown.any
  | _ => false

end KotlinBackend
