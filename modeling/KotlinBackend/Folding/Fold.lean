import KotlinBackend.Folding.Arithmetic
import KotlinBackend.Program.Revision

/-!
# Constant folding

A call of a built-in member on constants and a concatenation of constants are replaced by their
value. The replacement never changes the class of an expression's type.
-/

namespace KotlinBackend

def constantArguments? (arguments : List (Option Expression)) : Option (List Constant) :=
  arguments.mapM fun argument => argument.bind Expression.constant?

def Call.fold? (c : Call) : Option Constant := do
  let owner ← c.callee.class?
  if owner.package.text ≠ WellKnown.languagePackage ∨ c.extensionReceiver.isSome then none
  else
    let receiver ← c.dispatchReceiver.bind Expression.constant?
    let arguments ← constantArguments? c.arguments
    let value ← applyMember? c.callee.name receiver arguments
    if value.type.class? = c.type.class? then some value else none

/-- The value of an expression whose operands are constants already. -/
def Expression.fold? : Expression → Option Constant
  | call c => c.fold?
  | concatenation parts => do
    let values ← parts.mapM Expression.constant?
    some (.string (String.join (values.map Constant.templateText)))
  | _ => none

def foldStep (e : Expression) : Option Expression := e.fold?.map .constant

/-- Replaces the expressions of a module that have a known value, from the inside out. -/
def foldConstants (m : SourceModule) : Tally SourceModule := m.revise foldStep

end KotlinBackend
