import KotlinBackend.Program.Declaration

/-!
# Names of types in the output

A table gives the names of the primitive types, their arrays and the collections. Every other class
keeps its qualified name, so that every type has a name in the output.
-/

namespace KotlinBackend.Output

def objectName : String := "object"

def voidName : String := "void"

def genericName (name : String) : String := "System.Collections.Generic." ++ name

open WellKnown in
/-- The classes that have a name of their own in the output. -/
def classNames : List (ClassId × String) :=
  [(any, objectName), (nothing, objectName), (unit, voidName), (int, "int"), (long, "long"),
    (short, "short"), (byte, "sbyte"), (ubyte, "byte"), (ushort, "ushort"), (uint, "uint"),
    (ulong, "ulong"), (float, "float"), (double, "double"), (boolean, "bool"), (char, "char"),
    (string, "string"), (charSequence, "string"), (number, "System.IConvertible"),
    (booleanArray, "bool[]"), (charArray, "char[]"), (byteArray, "sbyte[]"),
    (shortArray, "short[]"), (intArray, "int[]"), (longArray, "long[]"),
    (floatArray, "float[]"), (doubleArray, "double[]"), (throwable, "System.Exception"),
    (annotationClass, "System.Attribute"), (enumClass, "System.Enum"),
    (comparable, "System.IComparable"), (iterable, genericName "IEnumerable"),
    (mutableIterable, genericName "IEnumerable"),
    (collection, genericName "IReadOnlyCollection"),
    (mutableCollection, genericName "ICollection"), (list, genericName "IReadOnlyList"),
    (mutableList, genericName "IList"), (set, genericName "IReadOnlySet"),
    (mutableSet, genericName "ISet"), (map, genericName "IReadOnlyDictionary"),
    (mutableMap, genericName "IDictionary"), (mapEntry, genericName "KeyValuePair"),
    (iterator, genericName "IEnumerator"), (mutableIterator, genericName "IEnumerator")]

def nameTable : List (String × String) :=
  classNames.map fun (id, name) => (id.qualifiedName, name)

def classBaseName (id : ClassId) : String :=
  (nameTable.lookup id.qualifiedName).getD id.qualifiedName

/-- The name of a nullable type; a name that admits null anyway is not marked again. -/
def markNullable (nullable : Bool) (name : String) : String :=
  if nullable && name != objectName && !Text.endsWith "?" name then name ++ "?" else name

mutual

def typeName : SourceType → String
  | .parameter name _ => name
  | .applied id arguments _ =>
    let names := argumentNames arguments
    if id = WellKnown.array then names.headD objectName ++ "[]"
    else
      let base := classBaseName id
      if names.isEmpty || base == objectName then base
      else base ++ "<" ++ String.intercalate ", " names ++ ">"

def argumentName : TypeArgument → String
  | .star => objectName
  | .projected _ type => markNullable type.isNullable (typeName type)

def argumentNames : List TypeArgument → List String
  | [] => []
  | argument :: rest => argumentName argument :: argumentNames rest

end

def nullableName (t : SourceType) : String := markNullable t.isNullable (typeName t)

def returnName (t : SourceType) : String :=
  if t.isUnit || t.isNothing then voidName else typeName t

def parameterName (p : ValueParameter) : String :=
  if p.isVararg then "params " ++ typeName p.type ++ "[]" else nullableName p.type

def className (id : ClassId) : String := typeName (.ofClass id)

/-- The text from its first bracket on without that bracket and the character after it, and the text
before. -/
def cutBracket (name : List Char) : List Char × List Char :=
  (name.takeWhile (· != '['), (name.dropWhile (· != '[')).drop 2)

/-- The value that stands in for a missing one, by the name of its type. -/
def defaultValue (name : String) (type : SourceType) : String :=
  if name == "string" then "\"\""
  else if name == "bool" then "false"
  else if name == "char" then "'\\0'"
  else if ["sbyte", "byte", "short", "ushort", "int", "uint", "long", "ulong", "float",
      "double"].contains name then "0"
  else if Text.endsWith "[]" name then
    let (element, rest) := cutBracket name.toList
    "new " ++ String.ofList element ++ "[0]" ++ String.ofList rest
  else match type with
    | .parameter _ false => "default"
    | _ => "null"

end KotlinBackend.Output
