import KotlinBackend.Facade.Basic

/-!
# Entry points

A program starts in a static `Main` with the program arguments. A file whose facade has a `main`
gets such a function that calls it.
-/

namespace KotlinBackend

/-- A static `main` without parameters or with the program arguments as its only one. -/
def FunctionDecl.isEntryPoint (d : FunctionDecl) : Bool :=
  d.id.name == "main" && d.isStatic && d.typeParameters.isEmpty && d.extensionReceiver.isNone &&
    match d.valueParameters with
    | [] => true
    | [parameter] => parameter.type.isStringArray && !parameter.isVararg
    | _ => false

def argumentsType : SourceType := .arrayOf .string

/-- The call of `main`, with the program arguments if it takes any. -/
def FunctionDecl.startCall (main : FunctionDecl) : Call :=
  { callee := main.id
    dispatchReceiver := none
    extensionReceiver := none
    arguments :=
      if main.valueParameters.isEmpty then [] else [some (.readValue "args" argumentsType)]
    typeArguments := []
    type := main.returnType }

def entryWrapper (facade : ClassId) (main : FunctionDecl) : FunctionDecl :=
  { id := facade.member "Main"
    valueParameters := [{ name := "args", type := argumentsType }]
    returnType := .unit
    body := some [.evaluate (.call main.startCall)]
    isStatic := true
    origin := .entryPoint }

/-- Adds an entry point to the first facade among the declarations that has a `main`, unless a
facade before it has an entry point already. -/
def addEntryPointTo : List Declaration → Tally (List Declaration)
  | [] => pure []
  | .ofClass facade :: rest =>
    if facade.origin = .fileFacade then
      if facade.functions.any (·.origin = .entryPoint) then pure (.ofClass facade :: rest)
      else match facade.functions.find? FunctionDecl.isEntryPoint with
        | some main =>
          let wrapper := Declaration.function (entryWrapper facade.id main)
          .once (.ofClass { facade with declarations := facade.declarations ++ [wrapper] } :: rest)
        | none => (Declaration.ofClass facade :: ·) <$> addEntryPointTo rest
    else (Declaration.ofClass facade :: ·) <$> addEntryPointTo rest
  | declaration :: rest => (declaration :: ·) <$> addEntryPointTo rest

def SourceFile.addEntryPoint (f : SourceFile) : Tally SourceFile := do
  let declarations ← addEntryPointTo f.declarations
  pure { f with declarations }

end KotlinBackend
