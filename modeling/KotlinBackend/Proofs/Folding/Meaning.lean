import KotlinBackend.Folding.Fold

/-!
# The value of an expression

An expression is evaluated over values that are constants or objects about which nothing is known.
The members of the built-in classes have their meaning on numbers, truth values and texts: integer
arithmetic is exact and is then cut to the wider of the two operands, which have 32 bits at least.
What leaves stand for, what all other calls do and how objects are shown is left open, and so are
the division of a real number by zero and the order of real numbers that have none. Only
expressions made of constants, leaves, calls and concatenations are given a value.
-/

namespace KotlinBackend

inductive RuntimeValue (α : Type) where
  | known (constant : Constant)
  | object (a : α)

/-- What evaluation takes from outside. A result that is `none` is a failure. -/
structure Interpretation (α : Type) where
  leaf : Expression → Option (RuntimeValue α)
  /-- Calls that have no meaning of their own: the callable, the type arguments, the type, the two
  receivers, and the arguments. -/
  call : CallableId → List SourceType → SourceType → Option (RuntimeValue α) →
    Option (RuntimeValue α) → List (Option (RuntimeValue α)) → Option (RuntimeValue α)
  display : α → String

/-- What the value of a built-in member is. -/
inductive Meaning where
  | value (constant : Constant)
  | failure
  | unspecified
  deriving Inhabited

def Meaning.constant? : Meaning → Option Constant
  | value constant => some constant
  | failure => none
  | unspecified => none

inductive IntegerWidth where
  | word
  | long
  deriving DecidableEq, Repr

namespace IntegerWidth

def wider : IntegerWidth → IntegerWidth → IntegerWidth
  | word, word => word
  | _, _ => long

/-- The number of the width that is equal to an integer up to a multiple of the range. -/
def wrap : IntegerWidth → Int → Constant
  | word, n => .int (Int32.ofInt n)
  | long, n => .long (Int64.ofInt n)

end IntegerWidth

/-- A number without its representation: an integer of a width, or a real number. -/
inductive Quantity where
  | integer (width : IntegerWidth) (n : Int)
  | real (x : Float)

namespace Quantity

def ofConstant? : Constant → Option Quantity
  | .byte n => some (.integer .word n.toInt)
  | .short n => some (.integer .word n.toInt)
  | .int n => some (.integer .word n.toInt)
  | .long n => some (.integer .long n.toInt)
  | .double x => some (.real x)
  | _ => none

def toFloat : Quantity → Float
  | integer _ n => Float.ofInt n
  | real x => x

/-- The meaning of the members of an integer that have no argument. -/
def integerMember (name : String) (width : IntegerWidth) (n : Int) : Meaning :=
  match name with
  | "unaryPlus" => .value (width.wrap n)
  | "unaryMinus" => .value (width.wrap (-n))
  | "toInt" => .value (IntegerWidth.word.wrap n)
  | "toLong" => .value (IntegerWidth.long.wrap n)
  | "toDouble" => .value (.double (Float.ofInt n))
  | _ => .unspecified

def realMember (name : String) (x : Float) : Meaning :=
  match name with
  | "unaryPlus" => .value (.double x)
  | "unaryMinus" => .value (.double (-x))
  | "toInt" => .value (.int x.toInt32)
  | "toLong" => .value (.long x.toInt64)
  | "toDouble" => .value (.double x)
  | _ => .unspecified

/-- The meaning of the members of an integer with an integer argument. The quotient is cut towards
zero, and the remainder has the sign of the dividend. -/
def integerOperator (name : String) (width : IntegerWidth) (a b : Int) : Meaning :=
  match name with
  | "plus" => .value (width.wrap (a + b))
  | "minus" => .value (width.wrap (a - b))
  | "times" => .value (width.wrap (a * b))
  | "div" => if b = 0 then .failure else .value (width.wrap (a.tdiv b))
  | "rem" => if b = 0 then .failure else .value (width.wrap (a.tmod b))
  | "compareTo" => .value (.int (Int32.ofInt (a - b).sign))
  | "equals" => .value (.boolean (a = b))
  | _ => .unspecified

def realOperator (name : String) (a b : Float) : Meaning :=
  match name with
  | "plus" => .value (.double (a + b))
  | "minus" => .value (.double (a - b))
  | "times" => .value (.double (a * b))
  | "div" => if b == 0 then .unspecified else .value (.double (a / b))
  | "rem" => if b == 0 then .unspecified else .value (.double (Decimal.remainder a b))
  | "compareTo" =>
    if a < b then .value (.int (-1))
    else if a == b then .value (.int 0)
    else if b < a then .value (.int 1)
    else .unspecified
  | "equals" => .value (.boolean (a == b))
  | _ => .unspecified

def member (name : String) : Quantity → Meaning
  | integer width n => integerMember name width n
  | real x => realMember name x

/-- A real operand makes the other one real. -/
def operator (name : String) : (left right : Quantity) → Meaning
  | integer width a, integer width' b => integerOperator name (width.wider width') a b
  | left, right => realOperator name left.toFloat right.toFloat

end Quantity

section Members

variable {α : Type} (M : Interpretation α)

/-- What a value adds to a text. -/
def Interpretation.text : RuntimeValue α → String
  | .known constant => constant.templateText
  | .object a => M.display a

def truthOperator (name : String) (a b : Bool) : Meaning :=
  match name with
  | "and" => .value (.boolean (a && b))
  | "or" => .value (.boolean (a || b))
  | "xor" => .value (.boolean (a ^^ b))
  | "equals" => .value (.boolean (a = b))
  | _ => .unspecified

def Interpretation.textOperator (name : String) (s : String) (other : RuntimeValue α) : Meaning :=
  match name, other with
  | "plus", other => .value (.string (s ++ M.text other))
  | "equals", .known (.string t) => .value (.boolean (s = t))
  | _, _ => .unspecified

/-- The meaning of a member of a built-in class. -/
def Interpretation.member (name : String) : RuntimeValue α → List (RuntimeValue α) → Meaning
  | .known (.boolean b), [] => if name = "not" then .value (.boolean !b) else .unspecified
  | .known (.boolean a), [.known (.boolean b)] => truthOperator name a b
  | .known (.string s), [other] => M.textOperator name s other
  | .known c, [] =>
    match Quantity.ofConstant? c with
    | some a => a.member name
    | none => .unspecified
  | .known c, [.known d] =>
    match Quantity.ofConstant? c, Quantity.ofConstant? d with
    | some a, some b => a.operator name b
    | _, _ => .unspecified
  | _, _ => .unspecified

/-- The meaning of a call: that of a member if a class of the language is its owner, it has a
receiver, and no argument is left out. -/
def Interpretation.callMeaning (callee : CallableId) (dispatch extension : Option (RuntimeValue α))
    (arguments : List (Option (RuntimeValue α))) : Meaning :=
  match callee.class?, dispatch, extension, arguments.mapM id with
  | some owner, some receiver, none, some values =>
    if owner.package.text = WellKnown.languagePackage then M.member callee.name receiver values
    else .unspecified
  | _, _, _, _ => .unspecified

def Interpretation.apply (callee : CallableId) (typeArguments : List SourceType)
    (type : SourceType) (dispatch extension : Option (RuntimeValue α))
    (arguments : List (Option (RuntimeValue α))) : Option (RuntimeValue α) :=
  match M.callMeaning callee dispatch extension arguments with
  | .value constant => some (.known constant)
  | .failure => none
  | .unspecified => M.call callee typeArguments type dispatch extension arguments

end Members

section Expressions

variable {α : Type} (M : Interpretation α)

mutual

/-- The value of an expression, or `none` if its evaluation fails. -/
def Expression.evaluate : Expression → Option (RuntimeValue α)
  | .constant value => some (.known value)
  | .call c => c.evaluate
  | .concatenation parts => do
    let values ← Expression.evaluateList parts
    some (.known (.string (String.join (values.map M.text))))
  | .readValue name type => M.leaf (.readValue name type)
  | .self type => M.leaf (.self type)
  | .readField receiver field type => M.leaf (.readField receiver field type)
  | .object id => M.leaf (.object id)
  | .construct id typeArguments arguments => M.leaf (.construct id typeArguments arguments)
  | .typeOperation operator operand type => M.leaf (.typeOperation operator operand type)
  | .when branches type => M.leaf (.when branches type)
  | .block statements type => M.leaf (.block statements type)
  | .unsupported kind => M.leaf (.unsupported kind)

/-- Receivers are evaluated before arguments. -/
def Call.evaluate : Call → Option (RuntimeValue α)
  | { callee, dispatchReceiver, extensionReceiver, arguments, typeArguments, type } => do
    let dispatch ← Expression.evaluateOption dispatchReceiver
    let extension ← Expression.evaluateOption extensionReceiver
    let arguments ← Expression.evaluateArguments arguments
    M.apply callee typeArguments type dispatch extension arguments

def Expression.evaluateOption : Option Expression → Option (Option (RuntimeValue α))
  | none => some none
  | some expression => do
    let value ← expression.evaluate
    some (some value)

def Expression.evaluateList : List Expression → Option (List (RuntimeValue α))
  | [] => some []
  | expression :: rest => do
    let value ← expression.evaluate
    let values ← Expression.evaluateList rest
    some (value :: values)

def Expression.evaluateArguments :
    List (Option Expression) → Option (List (Option (RuntimeValue α)))
  | [] => some []
  | argument :: rest => do
    let value ← Expression.evaluateOption argument
    let values ← Expression.evaluateArguments rest
    some (value :: values)

end

end Expressions

mutual

/-- Made of constants, leaves, calls and concatenations. -/
def Expression.isComposed : Expression → Bool
  | .constant _ => true
  | .call c => c.isComposed
  | .concatenation parts => Expression.areComposed parts
  | .readValue _ _ => true
  | .self _ => true
  | .readField receiver _ _ => receiver.isNone
  | .object _ => true
  | .unsupported _ => true
  | .construct _ _ _ => false
  | .typeOperation _ _ _ => false
  | .when _ _ => false
  | .block _ _ => false

def Call.isComposed : Call → Bool
  | { dispatchReceiver, extensionReceiver, arguments, .. } =>
    Expression.optionComposed dispatchReceiver && Expression.optionComposed extensionReceiver &&
      Expression.argumentsComposed arguments

def Expression.optionComposed : Option Expression → Bool
  | none => true
  | some expression => expression.isComposed

def Expression.areComposed : List Expression → Bool
  | [] => true
  | expression :: rest => expression.isComposed && Expression.areComposed rest

def Expression.argumentsComposed : List (Option Expression) → Bool
  | [] => true
  | argument :: rest =>
    Expression.optionComposed argument && Expression.argumentsComposed rest

end

/-- What folding makes of an expression: the pass revises every expression of a module so. -/
def Expression.folded (e : Expression) : Expression := (e.revise foldStep).value

end KotlinBackend
