import KotlinBackend.Data.Tally
import KotlinBackend.Program.Module

/-!
# Revising expressions

`revise step` replaces the expressions of a program from the inside out: an expression is offered
to `step` once the expressions inside it are revised, and stays as it is when `step` gives
nothing. The tally counts the replacements.
-/

namespace KotlinBackend

/-- The replacement of an expression, or the expression itself. -/
def Expression.replace (step : Expression → Option Expression) (e : Expression) :
    Tally Expression :=
  match step e with
  | some e' => .once e'
  | none => pure e

mutual

def Expression.revise (step : Expression → Option Expression) : Expression → Tally Expression
  | .constant value => Expression.replace step (.constant value)
  | .readValue name type => Expression.replace step (.readValue name type)
  | .self type => Expression.replace step (.self type)
  | .readField receiver field type => do
    let receiver ← Expression.reviseOption step receiver
    Expression.replace step (.readField receiver field type)
  | .object id => Expression.replace step (.object id)
  | .call c => do
    let c ← c.revise step
    Expression.replace step (.call c)
  | .construct id typeArguments arguments => do
    let arguments ← Expression.reviseArguments step arguments
    Expression.replace step (.construct id typeArguments arguments)
  | .concatenation parts => do
    let parts ← Expression.reviseList step parts
    Expression.replace step (.concatenation parts)
  | .typeOperation operator operand type => do
    let operand ← operand.revise step
    Expression.replace step (.typeOperation operator operand type)
  | .when branches type => do
    let branches ← Branch.reviseList step branches
    Expression.replace step (.when branches type)
  | .block statements type => do
    let statements ← Statement.reviseList step statements
    Expression.replace step (.block statements type)
  | .unsupported kind => Expression.replace step (.unsupported kind)

def Call.revise (step : Expression → Option Expression) : Call → Tally Call
  | { callee, dispatchReceiver, extensionReceiver, arguments, typeArguments, type } => do
    let dispatchReceiver ← Expression.reviseOption step dispatchReceiver
    let extensionReceiver ← Expression.reviseOption step extensionReceiver
    let arguments ← Expression.reviseArguments step arguments
    pure { callee, dispatchReceiver, extensionReceiver, arguments, typeArguments, type }

def Branch.revise (step : Expression → Option Expression) : Branch → Tally Branch
  | { condition, result } => do
    let condition ← condition.revise step
    let result ← result.revise step
    pure { condition, result }

def Statement.revise (step : Expression → Option Expression) : Statement → Tally Statement
  | .evaluate expression => do
    let expression ← expression.revise step
    pure (.evaluate expression)
  | .declare name type initializer isVariable => do
    let initializer ← Expression.reviseOption step initializer
    pure (.declare name type initializer isVariable)
  | .assign name value => do
    let value ← value.revise step
    pure (.assign name value)
  | .assignField receiver field value => do
    let receiver ← Expression.reviseOption step receiver
    let value ← value.revise step
    pure (.assignField receiver field value)
  | .returns value => do
    let value ← Expression.reviseOption step value
    pure (.returns value)
  | .conditional condition thenBranch elseBranch => do
    let condition ← condition.revise step
    let thenBranch ← Statement.reviseList step thenBranch
    let elseBranch ← Statement.reviseList step elseBranch
    pure (.conditional condition thenBranch elseBranch)
  | .loop condition body => do
    let condition ← condition.revise step
    let body ← Statement.reviseList step body
    pure (.loop condition body)
  | .throws value => do
    let value ← value.revise step
    pure (.throws value)

def Expression.reviseOption (step : Expression → Option Expression) :
    Option Expression → Tally (Option Expression)
  | none => pure none
  | some expression => do
    let expression ← expression.revise step
    pure (some expression)

def Expression.reviseList (step : Expression → Option Expression) :
    List Expression → Tally (List Expression)
  | [] => pure []
  | expression :: rest => do
    let expression ← expression.revise step
    let rest ← Expression.reviseList step rest
    pure (expression :: rest)

def Expression.reviseArguments (step : Expression → Option Expression) :
    List (Option Expression) → Tally (List (Option Expression))
  | [] => pure []
  | argument :: rest => do
    let argument ← Expression.reviseOption step argument
    let rest ← Expression.reviseArguments step rest
    pure (argument :: rest)

def Branch.reviseList (step : Expression → Option Expression) :
    List Branch → Tally (List Branch)
  | [] => pure []
  | branch :: rest => do
    let branch ← branch.revise step
    let rest ← Branch.reviseList step rest
    pure (branch :: rest)

def Statement.reviseList (step : Expression → Option Expression) :
    List Statement → Tally (List Statement)
  | [] => pure []
  | statement :: rest => do
    let statement ← statement.revise step
    let rest ← Statement.reviseList step rest
    pure (statement :: rest)

end

def reviseBody (step : Expression → Option Expression) :
    Option (List Statement) → Tally (Option (List Statement))
  | none => pure none
  | some statements => do
    let statements ← Statement.reviseList step statements
    pure (some statements)

def ValueParameter.revise (step : Expression → Option Expression) (p : ValueParameter) :
    Tally ValueParameter := do
  let defaultValue ← Expression.reviseOption step p.defaultValue
  pure { p with defaultValue }

def FunctionDecl.revise (step : Expression → Option Expression) (d : FunctionDecl) :
    Tally FunctionDecl := do
  let receivers ← Tally.each (·.revise step) d.extensionReceiver.toList
  let valueParameters ← Tally.each (·.revise step) d.valueParameters
  let body ← reviseBody step d.body
  pure { d with extensionReceiver := receivers.head?, valueParameters, body }

def Delegation.revise (step : Expression → Option Expression) (d : Delegation) :
    Tally Delegation := do
  let arguments ← Expression.reviseArguments step d.arguments
  pure { d with arguments }

def ConstructorDecl.revise (step : Expression → Option Expression) (d : ConstructorDecl) :
    Tally ConstructorDecl := do
  let valueParameters ← Tally.each (·.revise step) d.valueParameters
  let delegations ← Tally.each (·.revise step) d.delegation.toList
  let body ← reviseBody step d.body
  pure { d with valueParameters, delegation := delegations.head?, body }

def PropertyDecl.revise (step : Expression → Option Expression) (d : PropertyDecl) :
    Tally PropertyDecl := do
  let getter ← reviseBody step d.getter
  let setter ← reviseBody step d.setter
  let initializer ← Expression.reviseOption step d.initializer
  pure { d with getter, setter, initializer }

def FieldDecl.revise (step : Expression → Option Expression) (d : FieldDecl) :
    Tally FieldDecl := do
  let initializer ← Expression.reviseOption step d.initializer
  pure { d with initializer }

mutual

def ClassDecl.revise (step : Expression → Option Expression) : ClassDecl → Tally ClassDecl
  | decl@{ declarations, .. } => do
    let declarations ← Declaration.reviseList step declarations
    pure { decl with declarations }

def Declaration.revise (step : Expression → Option Expression) :
    Declaration → Tally Declaration
  | .ofClass decl => do
    let decl ← decl.revise step
    pure (.ofClass decl)
  | .function decl => do
    let decl ← decl.revise step
    pure (.function decl)
  | .constructor decl => do
    let decl ← decl.revise step
    pure (.constructor decl)
  | .property decl => do
    let decl ← decl.revise step
    pure (.property decl)
  | .field decl => do
    let decl ← decl.revise step
    pure (.field decl)

def Declaration.reviseList (step : Expression → Option Expression) :
    List Declaration → Tally (List Declaration)
  | [] => pure []
  | declaration :: rest => do
    let declaration ← declaration.revise step
    let rest ← Declaration.reviseList step rest
    pure (declaration :: rest)

end

def SourceFile.revise (step : Expression → Option Expression) (f : SourceFile) :
    Tally SourceFile := do
  let declarations ← Declaration.reviseList step f.declarations
  pure { f with declarations }

def SourceModule.revise (step : Expression → Option Expression) (m : SourceModule) :
    Tally SourceModule := do
  let files ← Tally.each (·.revise step) m.files
  pure { m with files }

end KotlinBackend
