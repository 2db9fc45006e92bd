import KotlinBackend.Name.CallableId
import KotlinBackend.Program.Constant

/-!
# Expressions and statements

The body of a function is a list of statements over resolved expressions: every call names the
callable it calls, and every expression knows its type.
-/

namespace KotlinBackend

mutual

/-- A call. An argument that is `none` takes the default value of its parameter. -/
structure Call where
  callee : CallableId
  dispatchReceiver : Option Expression
  extensionReceiver : Option Expression
  arguments : List (Option Expression)
  typeArguments : List SourceType
  type : SourceType

structure Branch where
  condition : Expression
  result : Expression

inductive Expression where
  | constant (value : Constant)
  | readValue (name : String) (type : SourceType)
  | self (type : SourceType)
  /-- A field of the receiver, or of the object itself when there is none. -/
  | readField (receiver : Option Expression) (field : String) (type : SourceType)
  | object (id : ClassId)
  | call (call : Call)
  | construct (id : ClassId) (typeArguments : List SourceType)
      (arguments : List (Option Expression))
  | concatenation (parts : List Expression)
  | typeOperation (operator : TypeOperator) (operand : Expression) (type : SourceType)
  /-- Branches are tried in order; the branch for all other cases has the condition `true`. -/
  | when (branches : List Branch) (type : SourceType)
  | block (statements : List Statement) (type : SourceType)
  /-- A shape that has no meaning here. -/
  | unsupported (kind : String)

inductive Statement where
  | evaluate (expression : Expression)
  | declare (name : String) (type : SourceType) (initializer : Option Expression)
      (isVariable : Bool)
  | assign (name : String) (value : Expression)
  /-- A field of the receiver, or of the object itself when there is none. -/
  | assignField (receiver : Option Expression) (field : String) (value : Expression)
  | returns (value : Option Expression)
  | conditional (condition : Expression) (thenBranch elseBranch : List Statement)
  | loop (condition : Expression) (body : List Statement)
  | throws (value : Expression)

end

instance : Inhabited Expression := ⟨.unsupported ""⟩

instance : Inhabited Statement := ⟨.returns none⟩

/-- The receivers of a call and then its arguments, in the order of evaluation. -/
def Call.operands (c : Call) : List (Option Expression) :=
  (c.dispatchReceiver.toList ++ c.extensionReceiver.toList).map some ++ c.arguments

namespace Expression

def int (n : Int32) : Expression := .constant (.int n)

def double (x : Float) : Expression := .constant (.double x)

def string (s : String) : Expression := .constant (.string s)

def boolean (b : Bool) : Expression := .constant (.boolean b)

def constant? : Expression → Option Constant
  | constant value => some value
  | _ => none

/-- What kind of node an expression is, for listings and markers. -/
def kindName : Expression → String
  | constant _ => "CONST"
  | readValue .. => "GET_VALUE"
  | self _ => "THIS"
  | readField .. => "GET_FIELD"
  | object _ => "GET_OBJECT"
  | call _ => "CALL"
  | construct .. => "CONSTRUCTOR_CALL"
  | concatenation _ => "STRING_CONCATENATION"
  | typeOperation .. => "TYPE_OP"
  | when .. => "WHEN"
  | block .. => "BLOCK"
  | unsupported kind => kind

def operationType (type : SourceType) : TypeOperator → SourceType
  | .is | .isNot => .boolean
  | .cast => type
  | .safeCast => type.nullable

def type : Expression → SourceType
  | constant value => value.type
  | readValue _ type => type
  | self type => type
  | readField _ _ type => type
  | object id => .ofClass id
  | call c => c.type
  | construct id typeArguments _ => .generic id typeArguments
  | concatenation _ => .string
  | typeOperation operator _ type => operationType type operator
  | when _ type => type
  | block _ type => type
  | unsupported _ => .top

end Expression

end KotlinBackend
