import KotlinBackend.Decimal.Scientific
import KotlinBackend.Program.SourceType
import KotlinBackend.Text.Quoted

/-!
# Constants

A constant keeps its width: arithmetic on it wraps as the width says. It has two texts, the one that
it adds to a string template and the one that listings show.
-/

namespace KotlinBackend

inductive Constant where
  | null
  | boolean (b : Bool)
  | char (c : Char)
  | byte (n : Int8)
  | short (n : Int16)
  | int (n : Int32)
  | long (n : Int64)
  | float (x : Float32)
  | double (x : Float)
  | uint (n : UInt32)
  | ulong (n : UInt64)
  | string (s : String)
  deriving Inhabited

namespace Constant

def type : Constant → SourceType
  | null => SourceType.nothing.nullable
  | boolean _ => .boolean
  | char _ => .char
  | byte _ => .byte
  | short _ => .short
  | int _ => .int
  | long _ => .long
  | float _ => .float
  | double _ => .double
  | uint _ => .uint
  | ulong _ => .ulong
  | string _ => .string

def boolText (b : Bool) : String := if b then "true" else "false"

def templateText : Constant → String
  | null => "null"
  | boolean b => boolText b
  | char c => c.toString
  | byte n => toString n.toInt
  | short n => toString n.toInt
  | int n => toString n.toInt
  | long n => toString n.toInt
  | float x =>
    Decimal.templateNumber ((Decimal.Numeral.ofFloat32 x).text Decimal.scientificLayout)
  | double x =>
    Decimal.templateNumber ((Decimal.Numeral.ofFloat x).text Decimal.scientificLayout)
  | uint n => toString n.toNat
  | ulong n => toString n.toNat
  | string s => s

def listing : Constant → String
  | null => "Null"
  | boolean b => "Boolean(" ++ boolText b ++ ")"
  | char c => "Char(" ++ Text.quoteCharacter c ++ ")"
  | byte n => "Byte(" ++ toString n.toInt ++ ")"
  | short n => "Short(" ++ toString n.toInt ++ ")"
  | int n => "Int(" ++ toString n.toInt ++ ")"
  | long n => "Long(" ++ toString n.toInt ++ ")"
  | float x => "Float(" ++ (Decimal.Numeral.ofFloat32 x).text Decimal.plainLayout ++ ")"
  | double x => "Double(" ++ (Decimal.Numeral.ofFloat x).text Decimal.plainLayout ++ ")"
  | uint n => "UInt(" ++ toString n.toNat ++ ")"
  | ulong n => "ULong(" ++ toString n.toNat ++ ")"
  | string s => "String(" ++ Text.quoteString s ++ ")"

end Constant

end KotlinBackend
