import KotlinBackend.Output.TypeName
import KotlinBackend.Program.Module
import KotlinBackend.Symbol.Source

/-!
# How members are reached

What stands before a member in the output depends on what its class has become there: the members of
a companion are static members of the class around it, an object has its one instance in a field,
and a facade is a static class.
-/

namespace KotlinBackend.Output

/-- What a class is as far as reaching its members is concerned. -/
inductive Dispatch where
  /-- The members are static members of the class around it. -/
  | companion
  /-- A static class: a facade, or an object or holder of another module. -/
  | static
  /-- An object of this module, reached through the field of its instance. -/
  | singleton
  | perObject
  deriving DecidableEq, Repr

def instanceField : String := "INSTANCE"

def classDispatch (isCompanion isHolder : Bool) (kind : ClassKind) : Dispatch :=
  if isCompanion then .companion
  else if isHolder then .static
  else if kind = .object then .singleton
  else .perObject

mutual

def classDispatches : ClassDecl → List (ClassId × Dispatch)
  | { id, kind, isCompanion, declarations, origin, .. } =>
    (id, classDispatch isCompanion origin.isFacade kind) :: dispatchesIn declarations

def declarationDispatches : Declaration → List (ClassId × Dispatch)
  | .ofClass decl => classDispatches decl
  | .function _ => []
  | .constructor _ => []
  | .property _ => []
  | .field _ => []

def dispatchesIn : List Declaration → List (ClassId × Dispatch)
  | [] => []
  | declaration :: rest => declarationDispatches declaration ++ dispatchesIn rest

end

/-- What is known while code is generated: the classes of the module and the symbols of others. -/
structure Context where
  symbols : SymbolSource
  declared : List (ClassId × Dispatch)

def Context.ofModule (symbols : SymbolSource) (m : SourceModule) : Context :=
  { symbols, declared := m.files.flatMap fun f => dispatchesIn f.declarations }

/-- How the members of a class are reached. Of two declarations of a class the last counts. -/
def Context.dispatch (g : Context) (id : ClassId) : Dispatch :=
  match g.declared.reverse.lookup id with
  | some dispatch => dispatch
  | none =>
    match g.symbols.class? id with
    | some symbol =>
      if symbol.isCompanion then .companion
      else if symbol.isStaticHolder || symbol.isObject then .static
      else if id.isCompanion then .companion
      else .perObject
    | none => if id.isCompanion then .companion else .perObject

def Context.staticQualifier (g : Context) (id : ClassId) : String :=
  match g.dispatch id with
  | .companion => className (id.outer?.getD id)
  | .singleton => className id ++ "." ++ instanceField
  | .static | .perObject => className id

/-- Where a body stands: the class around it, and whether there is an instance. -/
structure Scope where
  owner : ClassId
  isStatic : Bool

/-- A field of the object itself, or of the class where there is no object. -/
def Scope.implicitField (scope : Scope) (field : String) : String :=
  if scope.isStatic then field else "this." ++ field

end KotlinBackend.Output
