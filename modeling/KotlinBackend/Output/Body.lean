import KotlinBackend.Intrinsic
import KotlinBackend.Output.Code
import KotlinBackend.Output.Dispatch
import KotlinBackend.Output.Literal

/-!
# Code of bodies

Statements and expressions become output trees. A shape that has no code becomes a marker, and what
is around it is generated all the same; the tally counts the markers. Markers also count where the
code that holds them is not used in the end.

The recursion only produces the code of the parts of a call or a case distinction; how the parts are
put together is decided by functions that do not recurse.
-/

namespace KotlinBackend.Output

open Code (glue)

def platformFunctions : List (CallableId × String) :=
  [(.topLevel "kotlin.io" "println", "System.Console.WriteLine"),
    (.topLevel "kotlin.io" "print", "System.Console.Write")]

/-- The operators that members with one argument stand for. -/
def binaryOperators : List (String × String) :=
  [("plus", "+"), ("minus", "-"), ("times", "*"), ("div", "/"), ("rem", "%"), ("equals", "=="),
    ("less", "<"), ("lessOrEqual", "<="), ("greater", ">"), ("greaterOrEqual", ">="), ("and", "&"),
    ("or", "|"), ("xor", "^"), ("shl", "<<"), ("shr", ">>")]

/-- The operators that members without arguments stand for. -/
def unaryOperators : List (String × String) :=
  [("not", "!"), ("unaryMinus", "-"), ("unaryPlus", "+")]

def conversions : List (String × String) :=
  [("toByte", "sbyte"), ("toShort", "short"), ("toInt", "int"), ("toLong", "long"),
    ("toFloat", "float"), ("toDouble", "double"), ("toChar", "char")]

/-- What stands before and after the receiver of an operator without arguments. -/
def unaryAffixes? (name : String) : Option (String × String) :=
  match unaryOperators.lookup name, conversions.lookup name with
  | some operator, _ => some (operator ++ "(", ")")
  | none, some target => some ("((" ++ target ++ ")", ")")
  | none, none =>
    match name with
    | "toString" => some ("", ".ToString()")
    | "inc" => some ("(", " + 1)")
    | "dec" => some ("(", " - 1)")
    | _ => none

/-- What stands before the receiver and between it and the argument of a binary operator. -/
def binaryAffixes? (name : String) : Option (String × String) :=
  if name = "compareTo" then some ("", ".CompareTo(")
  else (binaryOperators.lookup name).map fun operator => ("(", " " ++ operator ++ " ")

def accessorProperty? (opening name : String) : Option String := do
  let rest ← Text.dropStart? opening.toList name.toList
  let property ← Text.dropEnding? ['>'] rest
  some (String.ofList property)

structure CallParts where
  receiver : Option (Tally Code)
  extension : Option (Tally Code)
  arguments : List (Option (Tally Code))

/-- The code of given arguments up to the last one that is given. A gap before it is marked. -/
def argumentCodes : List (Option (Tally Code)) → Tally (List Code)
  | [] => pure []
  | some argument :: rest => do
    let code ← argument
    let codes ← argumentCodes rest
    pure (code :: codes)
  | none :: rest =>
    if rest.any Option.isSome then do
      let code ← Code.mark "DEFAULT_ARGUMENT"
      let codes ← argumentCodes rest
      pure (code :: codes)
    else pure []

def argumentList (arguments : List (Option (Tally Code))) : Tally Code := do
  let codes ← argumentCodes arguments
  pure (glue [.text "(", .inline codes ", ", .text ")"])

def operatorCode? (c : Call) (parts : CallParts) : Option (Tally Code) := do
  let owner ← c.callee.class?
  if owner.package.text ≠ WellKnown.languagePackage ∨ c.extensionReceiver.isSome then none
  else
    let receiver ← parts.receiver
    match parts.arguments with
    | [] =>
      let (before, after) ← unaryAffixes? c.callee.name
      some do
        let code ← receiver
        pure (glue [.text before, code, .text after])
    | [some argument] =>
      let (before, between) ← binaryAffixes? c.callee.name
      some do
        let left ← receiver
        let right ← argument
        pure (glue [.text before, left, .text between, right, .text ")"])
    | _ => none

def Context.isStaticMember (g : Context) (owner : ClassId) (callee : CallableId) : Bool :=
  owner == intrinsicsClass || (g.symbols.functionsOf callee).any (·.isStatic)

/-- What stands before a function of a package: the class that carries it, or the package. -/
def Context.packageQualifier? (g : Context) (callee : CallableId) : Option Code :=
  match (g.symbols.callables callee.package callee.name).findSome? (·.staticHolder) with
  | some holder => some (.text (className holder))
  | none => if callee.package.isRoot then none else some (.text callee.package.text)

def Scope.isOwnObject (scope : Scope) : Expression → Bool
  | .object id => id == scope.owner
  | _ => false

def Context.implicitQualifier? (g : Context) (scope : Scope) (callee : CallableId) : Option Code :=
  match callee.class? with
  | some owner =>
    if owner == scope.owner then none
    else match g.dispatch owner with
      | .companion | .static | .singleton => some (.text (g.staticQualifier owner))
      | .perObject => if g.isStaticMember owner callee then some (.text (className owner)) else none
  | none => g.packageQualifier? callee

/-- What stands before the name of what is called: the receiver, a class, or nothing. -/
def Context.qualifier (g : Context) (scope : Scope) (c : Call) (parts : CallParts) :
    Tally (Option Code) :=
  match c.dispatchReceiver, parts.receiver with
  | some receiver, some code => if scope.isOwnObject receiver then pure none else some <$> code
  | _, _ => pure (g.implicitQualifier? scope c.callee)

def qualified (qualifier : Option Code) (member : String) : Code :=
  match qualifier with
  | some code => glue [code, .text ("." ++ member)]
  | none => .text member

def calleeName (c : Call) : String :=
  if c.typeArguments.isEmpty then c.callee.name
  else c.callee.name ++ "<" ++ String.intercalate ", " (c.typeArguments.map typeName) ++ ">"

def setterValue : List (Option (Tally Code)) → Tally Code
  | some value :: _ => value
  | _ => Code.mark "SETTER_WITHOUT_VALUE"

def memberCallCode (g : Context) (scope : Scope) (c : Call) (parts : CallParts) : Tally Code := do
  let qualifier ← g.qualifier scope c parts
  match accessorProperty? "<get-" c.callee.name, accessorProperty? "<set-" c.callee.name with
  | some property, _ => pure (qualified qualifier property)
  | none, some property => do
    let value ← setterValue parts.arguments
    pure (glue [qualified qualifier property, .text " = ", value])
  | none, none => do
    let arguments ← argumentList (parts.extension.toList.map some ++ parts.arguments)
    match platformFunctions.lookup c.callee with
    | some target => pure (glue [.text target, arguments])
    | none => pure (glue [qualified qualifier (calleeName c), arguments])

def callCode (g : Context) (scope : Scope) (c : Call) (parts : CallParts) : Tally Code :=
  match operatorCode? c parts with
  | some code => code
  | none => memberCallCode g scope c parts

def typeOperationCode (type : SourceType) (operand : Code) : TypeOperator → Code
  | .is => glue [.text "(", operand, .text (" is " ++ typeName type ++ ")")]
  | .isNot => glue [.text "!(", operand, .text (" is " ++ typeName type ++ ")")]
  | .cast => glue [.text ("((" ++ nullableName type ++ ")"), operand, .text ")"]
  | .safeCast => glue [.text "(", operand, .text (" as " ++ nullableName type.nullable ++ ")")]

structure BranchParts where
  /-- The condition is the constant `true`. -/
  isElse : Bool
  condition : Tally Code
  result : Tally Code

def isTrue : Expression → Bool
  | .constant (.boolean true) => true
  | _ => false

/-- The chain of conditionals for some cases: a case that always applies hides the cases behind it,
although their markers count. -/
def branchChain (finish : Code → Code) : List BranchParts → Tally (Option Code)
  | [] => pure none
  | branch :: rest => do
    let chain ← branchChain finish rest
    let result ← finish <$> branch.result
    if branch.isElse then pure (some result)
    else do
      let condition ← branch.condition
      pure (some (.conditional condition result chain))

def whenExpressionCode (branches : List BranchParts) : Tally Code := do
  match ← branchChain id branches with
  | some code => pure code
  | none => Code.mark "EMPTY_WHEN"

def whenStatementCode (branches : List BranchParts) : Tally Code := do
  let chain ← branchChain Code.statement branches
  pure (chain.getD .nothing)

/-- A value returned from a function; the value of a function without a result is not written. -/
def returnCode (value : Expression) (code : Tally Code) : Tally Code :=
  match value with
  | .object id =>
    if id = WellKnown.unit then pure (.text "return;")
    else (fun c => Code.statement (glue [.text "return ", c])) <$> code
  | _ => (fun c => Code.statement (glue [.text "return ", c])) <$> code

/-- The code of the other branch of a conditional. A conditional that stands alone there continues
the chain. -/
def elseCode? (statements : List Statement) (codes : List Code) : Option Code :=
  match statements, codes with
  | [], _ => none
  | [.conditional ..], [code] => some code
  | _, codes => some (.inLines codes)

/-- A constant in a string template is a part of its text. -/
def templatePart (e : Expression) (code : Tally Code) : Tally Part :=
  match e with
  | .constant value => pure (.text value.templateText)
  | _ => Part.hole <$> code

mutual

def expressionCode (g : Context) (scope : Scope) : Expression → Tally Code
  | .constant value => pure (.text (literal value))
  | .readValue name _ => pure (.text name)
  | .self _ => pure (.text "this")
  | .readField none field _ => pure (.text (scope.implicitField field))
  | .readField (some receiver) field _ => do
    let receiver ← expressionCode g scope receiver
    pure (glue [receiver, .text ("." ++ field)])
  | .object id => pure (.text (g.staticQualifier id))
  | .call c => callExpressionCode g scope c
  | .construct id typeArguments arguments => do
    let arguments ← argumentList (argumentParts g scope arguments)
    pure (glue [.text ("new " ++ typeName (.generic id typeArguments)), arguments])
  | .concatenation parts => do
    let parts ← templateParts g scope parts
    pure (.interpolation parts)
  | .typeOperation operator operand type => do
    let operand ← expressionCode g scope operand
    pure (typeOperationCode type operand operator)
  | .when branches _ => whenExpressionCode (branchParts g scope branches)
  | .block _ _ => Code.mark "BLOCK"
  | .unsupported kind => Code.mark kind

def callExpressionCode (g : Context) (scope : Scope) : Call → Tally Code
  | { callee, dispatchReceiver, extensionReceiver, arguments, typeArguments, type } =>
    callCode g scope
      { callee, dispatchReceiver, extensionReceiver, arguments, typeArguments, type }
      { receiver := optionCode g scope dispatchReceiver
        extension := optionCode g scope extensionReceiver
        arguments := argumentParts g scope arguments }

def optionCode (g : Context) (scope : Scope) : Option Expression → Option (Tally Code)
  | none => none
  | some e => some (expressionCode g scope e)

def argumentParts (g : Context) (scope : Scope) :
    List (Option Expression) → List (Option (Tally Code))
  | [] => []
  | argument :: rest => optionCode g scope argument :: argumentParts g scope rest

def templateParts (g : Context) (scope : Scope) : List Expression → Tally (List Part)
  | [] => pure []
  | e :: rest => do
    let part ← templatePart e (expressionCode g scope e)
    let parts ← templateParts g scope rest
    pure (part :: parts)

def branchParts (g : Context) (scope : Scope) : List Branch → List BranchParts
  | [] => []
  | { condition, result } :: rest =>
    { isElse := isTrue condition
      condition := expressionCode g scope condition
      result := expressionCode g scope result } :: branchParts g scope rest

end

def fieldTarget (g : Context) (scope : Scope) (receiver : Option Expression) (field : String) :
    Tally Code :=
  match receiver with
  | none => pure (.text (scope.implicitField field))
  | some receiver => do
    let receiver ← expressionCode g scope receiver
    pure (glue [receiver, .text ("." ++ field)])

mutual

def statementCode (g : Context) (scope : Scope) : Statement → Tally Code
  | .evaluate (.block statements _) => do
    let codes ← statementCodes g scope statements
    pure (.inLines codes)
  | .evaluate (.when branches _) => whenStatementCode (branchParts g scope branches)
  | .evaluate e => Code.statement <$> expressionCode g scope e
  | .declare name type none _ => pure (.statement (.text (nullableName type ++ " " ++ name)))
  | .declare name type (some initializer) _ => do
    let value ← expressionCode g scope initializer
    pure (.statement (glue [.text (nullableName type ++ " " ++ name), .text " = ", value]))
  | .assign name value => do
    let value ← expressionCode g scope value
    pure (.statement (glue [.text (name ++ " = "), value]))
  | .assignField receiver field value => do
    let target ← fieldTarget g scope receiver field
    let value ← expressionCode g scope value
    pure (.statement (glue [target, .text " = ", value]))
  | .returns none => pure (.text "return;")
  | .returns (some value) => returnCode value (expressionCode g scope value)
  | .conditional condition thenBranch elseBranch => do
    let condition ← expressionCode g scope condition
    let thenCodes ← statementCodes g scope thenBranch
    let elseCodes ← statementCodes g scope elseBranch
    pure (.conditional condition (.inLines thenCodes) (elseCode? elseBranch elseCodes))
  | .loop condition body => do
    let condition ← expressionCode g scope condition
    let body ← statementCodes g scope body
    pure (.block (glue [.text "while (", condition, .text ")"]) body)
  | .throws value => do
    let value ← expressionCode g scope value
    pure (.statement (glue [.text "throw ", value]))

def statementCodes (g : Context) (scope : Scope) : List Statement → Tally (List Code)
  | [] => pure []
  | statement :: rest => do
    let code ← statementCode g scope statement
    let codes ← statementCodes g scope rest
    pure (code :: codes)

end

end KotlinBackend.Output
