import KotlinBackend.Program.Constant

/-!
# Built-in operators on constants

`applyMember?` is the meaning of the members of the built-in classes on constant operands. Integers
of less than 32 bits are widened first; an operation is carried out in the wider type of its two
operands, and integer results wrap. Division and remainder by zero and the comparison with
something that is not a number have no value.
-/

namespace KotlinBackend

inductive Numeric where
  | int (n : Int32)
  | long (n : Int64)
  | double (x : Float)

namespace Numeric

def ofConstant? : Constant → Option Numeric
  | .byte n => some (.int n.toInt32)
  | .short n => some (.int n.toInt32)
  | .int n => some (.int n)
  | .long n => some (.long n)
  | .double x => some (.double x)
  | _ => none

def toConstant : Numeric → Constant
  | int n => .int n
  | long n => .long n
  | double x => .double x

/-- The number cut to 32 bits; a real number beyond them becomes the nearest end of the range. -/
def toInt32 : Numeric → Int32
  | int n => n
  | long n => n.toInt32
  | double x => x.toInt32

def toInt64 : Numeric → Int64
  | int n => n.toInt64
  | long n => n
  | double x => x.toInt64

def toFloat : Numeric → Float
  | int n => Float.ofInt n.toInt
  | long n => Float.ofInt n.toInt
  | double x => x

def negate : Numeric → Numeric
  | int n => .int (-n)
  | long n => .long (-n)
  | double x => .double (-x)

def unary? (name : String) (operand : Numeric) : Option Constant :=
  match name with
  | "unaryPlus" => some operand.toConstant
  | "unaryMinus" => some operand.negate.toConstant
  | "toInt" => some (.int operand.toInt32)
  | "toLong" => some (.long operand.toInt64)
  | "toDouble" => some (.double operand.toFloat)
  | _ => none

def orderConstant (less equal : Bool) : Constant :=
  .int (if less then -1 else if equal then 0 else 1)

def binaryInt? (name : String) (a b : Int32) : Option Constant :=
  match name with
  | "plus" => some (.int (a + b))
  | "minus" => some (.int (a - b))
  | "times" => some (.int (a * b))
  | "div" => if b = 0 then none else some (.int (a / b))
  | "rem" => if b = 0 then none else some (.int (a % b))
  | "compareTo" => some (orderConstant (a < b) (a = b))
  | "equals" => some (.boolean (a = b))
  | _ => none

def binaryLong? (name : String) (a b : Int64) : Option Constant :=
  match name with
  | "plus" => some (.long (a + b))
  | "minus" => some (.long (a - b))
  | "times" => some (.long (a * b))
  | "div" => if b = 0 then none else some (.long (a / b))
  | "rem" => if b = 0 then none else some (.long (a % b))
  | "compareTo" => some (orderConstant (a < b) (a = b))
  | "equals" => some (.boolean (a = b))
  | _ => none

def binaryDouble? (name : String) (a b : Float) : Option Constant :=
  match name with
  | "plus" => some (.double (a + b))
  | "minus" => some (.double (a - b))
  | "times" => some (.double (a * b))
  | "div" => if b == 0 then none else some (.double (a / b))
  | "rem" => if b == 0 then none else some (.double (Decimal.remainder a b))
  | "compareTo" =>
    if a < b || a == b || b < a then some (orderConstant (a < b) (a == b)) else none
  | "equals" => some (.boolean (a == b))
  | _ => none

def binary? (name : String) : (left right : Numeric) → Option Constant
  | int a, int b => binaryInt? name a b
  | left@(double _), right => binaryDouble? name left.toFloat right.toFloat
  | left, right@(double _) => binaryDouble? name left.toFloat right.toFloat
  | left, right => binaryLong? name left.toInt64 right.toInt64

end Numeric

/-- The value of a member with a truth value on both sides. -/
def booleanMember? (name : String) (a b : Bool) : Option Constant :=
  match name with
  | "and" => some (.boolean (a && b))
  | "or" => some (.boolean (a || b))
  | "xor" => some (.boolean (a != b))
  | "equals" => some (.boolean (a == b))
  | _ => none

/-- The value of a member of a text with one argument. -/
def stringMember? (name : String) (text : String) (other : Constant) : Option Constant :=
  match name, other with
  | "equals", .string s => some (.boolean (text == s))
  | "plus", other => some (.string (text ++ other.templateText))
  | _, _ => none

/-- The value of a member of a built-in class, if it has one that is known while compiling. -/
def applyMember? (name : String) (receiver : Constant) (arguments : List Constant) :
    Option Constant :=
  match receiver, arguments with
  | .boolean b, [] => if name = "not" then some (.boolean (!b)) else none
  | .boolean a, [.boolean b] => booleanMember? name a b
  | .string s, [other] => stringMember? name s other
  | value, [] => do
    let operand ← Numeric.ofConstant? value
    operand.unary? name
  | left, [right] => do
    let a ← Numeric.ofConstant? left
    let b ← Numeric.ofConstant? right
    Numeric.binary? name a b
  | _, _ => none

end KotlinBackend
