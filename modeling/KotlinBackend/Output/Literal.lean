import KotlinBackend.Output.Escape
import KotlinBackend.Program.Constant

/-!
# Literals

The literal of a constant, with the suffix or cast that gives it its type.
-/

namespace KotlinBackend.Output

/-- A number of a given type that need not be finite. -/
def realLiteral (typeName suffix : String) : Decimal.Numeral → String
  | .notANumber => typeName ++ ".NaN"
  | .infinite false => typeName ++ ".PositiveInfinity"
  | .infinite true => typeName ++ ".NegativeInfinity"
  | .finite form => form.text Decimal.plainLayout ++ suffix

def characterLiteral (c : Char) : String :=
  if c = '\'' then "'\\''" else "'" ++ String.ofList (escapeChar c) ++ "'"

def literal : Constant → String
  | .null => "null"
  | .boolean b => Constant.boolText b
  | .char c => characterLiteral c
  | .byte n => "(sbyte)" ++ toString n.toInt
  | .short n => "(short)" ++ toString n.toInt
  | .int n => toString n.toInt
  | .long n => toString n.toInt ++ "L"
  | .float x => realLiteral "float" "f" (.ofFloat32 x)
  | .double x => realLiteral "double" "" (.ofFloat x)
  | .uint n => toString n.toNat ++ "u"
  | .ulong n => toString n.toNat ++ "UL"
  | .string s => "\"" ++ escape s ++ "\""

end KotlinBackend.Output
