import KotlinBackend.Name.WellKnown
import KotlinBackend.Program.Attribute

/-!
# Types of the source language

A type is a class applied to arguments or a type parameter, either of them possibly nullable. An
argument is a type with a projection, or a star that stands for any type.
-/

namespace KotlinBackend

mutual

inductive SourceType where
  | applied (id : ClassId) (arguments : List TypeArgument) (nullable : Bool)
  | parameter (name : String) (nullable : Bool)

inductive TypeArgument where
  | star
  | projected (variance : Variance) (type : SourceType)

end

instance : Inhabited SourceType := ⟨.parameter "" false⟩

instance : Inhabited TypeArgument := ⟨.star⟩

def TypeArgument.type? : TypeArgument → Option SourceType
  | star => none
  | projected _ type => some type

namespace SourceType

def ofClass (id : ClassId) : SourceType := .applied id [] false

/-- A class applied to unprojected types. -/
def generic (id : ClassId) (arguments : List SourceType) : SourceType :=
  .applied id (arguments.map (.projected .invariant)) false

def withNullability (nullable : Bool) : SourceType → SourceType
  | applied id arguments _ => .applied id arguments nullable
  | parameter name _ => .parameter name nullable

def nullable (t : SourceType) : SourceType := t.withNullability true

def nonNull (t : SourceType) : SourceType := t.withNullability false

def isNullable : SourceType → Bool
  | applied _ _ nullable => nullable
  | parameter _ nullable => nullable

def class? : SourceType → Option ClassId
  | applied id _ _ => some id
  | parameter _ _ => none

def arguments : SourceType → List TypeArgument
  | applied _ arguments _ => arguments
  | parameter _ _ => []

/-- The type of an argument; a star has none. -/
def argument? (t : SourceType) (index : Nat) : Option SourceType :=
  t.arguments[index]?.bind TypeArgument.type?

def isClass (t : SourceType) (id : ClassId) : Bool := t.class? == some id

/-- The supertype of every type. -/
def top : SourceType := (ofClass WellKnown.any).nullable

def nothing : SourceType := ofClass WellKnown.nothing

def any : SourceType := ofClass WellKnown.any

def unit : SourceType := ofClass WellKnown.unit

def boolean : SourceType := ofClass WellKnown.boolean

def char : SourceType := ofClass WellKnown.char

def byte : SourceType := ofClass WellKnown.byte

def short : SourceType := ofClass WellKnown.short

def int : SourceType := ofClass WellKnown.int

def long : SourceType := ofClass WellKnown.long

def float : SourceType := ofClass WellKnown.float

def double : SourceType := ofClass WellKnown.double

def uint : SourceType := ofClass WellKnown.uint

def ulong : SourceType := ofClass WellKnown.ulong

def string : SourceType := ofClass WellKnown.string

def arrayOf (element : SourceType) : SourceType := generic WellKnown.array [element]

def isUnit (t : SourceType) : Bool := t.isClass WellKnown.unit && !t.isNullable

def isNothing (t : SourceType) : Bool := t.isClass WellKnown.nothing

def isString (t : SourceType) : Bool := t.isClass WellKnown.string

/-- An array of strings, the type of program arguments. -/
def isStringArray (t : SourceType) : Bool :=
  t.isClass WellKnown.array && (t.argument? 0).any isString

end SourceType

def nullMark (nullable : Bool) : String := if nullable then "?" else ""

mutual

/-- `pkg.Outer<out pkg.A, *>?` -/
def SourceType.text : SourceType → String
  | .applied id arguments nullable =>
    let list :=
      if arguments.isEmpty then ""
      else "<" ++ String.intercalate ", " (TypeArgument.texts arguments) ++ ">"
    id.qualifiedName ++ list ++ nullMark nullable
  | .parameter name nullable => name ++ nullMark nullable

def TypeArgument.text : TypeArgument → String
  | .star => "*"
  | .projected .invariant type => type.text
  | .projected .out type => "out " ++ type.text
  | .projected .into type => "in " ++ type.text

def TypeArgument.texts : List TypeArgument → List String
  | [] => []
  | argument :: arguments => argument.text :: TypeArgument.texts arguments

end

mutual

/-- The classes in a type, from left to right. -/
def SourceType.classIds : SourceType → List ClassId
  | .applied id arguments _ => id :: TypeArgument.listClassIds arguments
  | .parameter _ _ => []

def TypeArgument.classIds : TypeArgument → List ClassId
  | .star => []
  | .projected _ type => type.classIds

def TypeArgument.listClassIds : List TypeArgument → List ClassId
  | [] => []
  | argument :: arguments => argument.classIds ++ TypeArgument.listClassIds arguments

end

mutual

def SourceType.mapClassIds (f : ClassId → ClassId) : SourceType → SourceType
  | .applied id arguments nullable =>
    .applied (f id) (TypeArgument.listMapClassIds f arguments) nullable
  | .parameter name nullable => .parameter name nullable

def TypeArgument.mapClassIds (f : ClassId → ClassId) : TypeArgument → TypeArgument
  | .star => .star
  | .projected variance type => .projected variance (type.mapClassIds f)

def TypeArgument.listMapClassIds (f : ClassId → ClassId) :
    List TypeArgument → List TypeArgument
  | [] => []
  | argument :: arguments => argument.mapClassIds f :: TypeArgument.listMapClassIds f arguments

end

end KotlinBackend
