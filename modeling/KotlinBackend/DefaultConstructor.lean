import KotlinBackend.Data.Tally
import KotlinBackend.Program.Node

/-!
# Constructors without parameters

A class whose only accessible constructor has a default value for every parameter gets a constructor
without parameters that passes these defaults on. Defaults that read a parameter cannot be evaluated
outside of the constructor, so a class with such a default is left alone.
-/

namespace KotlinBackend

/-- Instances of the class can be made, and it is neither local nor just a name for a value. -/
def ClassDecl.isInstantiable (c : ClassDecl) : Bool :=
  c.kind == .plain && c.modality != .abstract && c.modality != .sealed && !c.isLocal &&
    !c.isValue && !c.isExpect && !c.isStaticHolder

def defaultsReadParameters (parameters : List ValueParameter) : Bool :=
  parameters.any fun p => p.defaultValue.any fun e =>
    e.valuesRead.any fun name => parameters.any (·.name == name)

def ClassDecl.onlyConstructor? (c : ClassDecl) : Option ConstructorDecl :=
  match c.constructors.filter (·.visibility.isAccessible) with
  | [target] => some target
  | _ => none

/-- The constructor without parameters that calls a constructor with given arguments. -/
def ConstructorDecl.parameterless (target : ConstructorDecl) (id : ClassId)
    (arguments : List Expression) : ConstructorDecl :=
  { id
    delegation := some { target := .sameClass, arguments := arguments.map some }
    visibility := target.visibility
    origin := .defaultConstructor }

/-- The constructor without parameters that a class should have. -/
def ClassDecl.defaultConstructor? (c : ClassDecl) : Option ConstructorDecl :=
  if !c.isInstantiable || c.constructors.any (·.valueParameters.isEmpty) then none
  else do
    let target ← c.onlyConstructor?
    let defaults ← target.valueParameters.mapM (·.defaultValue)
    if defaultsReadParameters target.valueParameters then none
    else some (target.parameterless c.id defaults)

def ClassDecl.addDefaultConstructor (c : ClassDecl) : Tally ClassDecl :=
  match c.defaultConstructor? with
  | some d => .once { c with declarations := c.declarations ++ [.constructor d] }
  | none => pure c

mutual

/-- A class in which it and the classes nested in it have the constructors they should have. -/
def ClassDecl.addDefaultConstructors : ClassDecl → Tally ClassDecl
  | decl@{ declarations, .. } => do
    let declarations ← Declaration.addDefaultConstructorsList declarations
    ClassDecl.addDefaultConstructor { decl with declarations }

def Declaration.addDefaultConstructors : Declaration → Tally Declaration
  | .ofClass decl => do
    let decl ← decl.addDefaultConstructors
    pure (.ofClass decl)
  | .function decl => pure (.function decl)
  | .constructor decl => pure (.constructor decl)
  | .property decl => pure (.property decl)
  | .field decl => pure (.field decl)

def Declaration.addDefaultConstructorsList : List Declaration → Tally (List Declaration)
  | [] => pure []
  | declaration :: rest => do
    let declaration ← declaration.addDefaultConstructors
    let rest ← Declaration.addDefaultConstructorsList rest
    pure (declaration :: rest)

end

def SourceFile.addDefaultConstructors (f : SourceFile) : Tally SourceFile := do
  let declarations ← Declaration.addDefaultConstructorsList f.declarations
  pure { f with declarations }

end KotlinBackend
