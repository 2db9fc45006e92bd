import KotlinBackend.Name.CallableId
import KotlinBackend.Program.Declaration

/-!
# Symbols

What is known of a declaration outside of the module that is compiled: its identifier, its types and
its attributes, without a body.
-/

namespace KotlinBackend

inductive SymbolOrigin where
  | builtin
  | assembly (name : String)
  deriving DecidableEq, Repr, Inhabited

structure ParameterSymbol where
  name : String
  /-- The type of one argument for a parameter that takes any number of them. -/
  type : SourceType
  hasDefault : Bool := false
  isVararg : Bool := false
  deriving Inhabited

structure ClassSymbol where
  id : ClassId
  kind : ClassKind := .plain
  modality : Modality := .final
  visibility : Visibility := .publicAccess
  typeParameters : List TypeParameter := []
  supertypes : List SourceType := []
  enumEntries : List String := []
  isCompanion : Bool := false
  /-- A class that only carries functions and properties of its package. -/
  isStaticHolder : Bool := false
  companion : Option ClassId := none
  origin : SymbolOrigin := .builtin
  deriving Inhabited

def ClassSymbol.name (c : ClassSymbol) : String := c.id.shortName

def ClassSymbol.isObject (c : ClassSymbol) : Bool := c.kind == .object

def ClassSymbol.isInterface (c : ClassSymbol) : Bool := c.kind == .interface

structure FunctionSymbol where
  id : CallableId
  typeParameters : List TypeParameter := []
  extensionReceiver : Option SourceType := none
  parameters : List ParameterSymbol := []
  returnType : SourceType
  isStatic : Bool := false
  isOperator : Bool := false
  modality : Modality := .final
  visibility : Visibility := .publicAccess
  /-- The class that carries a function of a package. -/
  staticHolder : Option ClassId := none
  deriving Inhabited

structure ConstructorSymbol where
  id : ClassId
  parameters : List ParameterSymbol := []
  visibility : Visibility := .publicAccess
  deriving Inhabited

structure PropertySymbol where
  id : CallableId
  type : SourceType
  isVariable : Bool := false
  isConst : Bool := false
  isStatic : Bool := false
  /-- The class that carries a property of a package. -/
  staticHolder : Option ClassId := none
  deriving Inhabited

/-- A function or property of a package. -/
inductive CallableSymbol where
  | function (symbol : FunctionSymbol)
  | property (symbol : PropertySymbol)
  deriving Inhabited

def CallableSymbol.id : CallableSymbol → CallableId
  | function symbol => symbol.id
  | property symbol => symbol.id

def CallableSymbol.staticHolder : CallableSymbol → Option ClassId
  | function symbol => symbol.staticHolder
  | property symbol => symbol.staticHolder

def CallableSymbol.function? : CallableSymbol → Option FunctionSymbol
  | function symbol => some symbol
  | property _ => none

inductive MemberSymbol where
  | ofClass (symbol : ClassSymbol)
  | function (symbol : FunctionSymbol)
  | constructor (symbol : ConstructorSymbol)
  | property (symbol : PropertySymbol)
  deriving Inhabited

def MemberSymbol.function? : MemberSymbol → Option FunctionSymbol
  | function symbol => some symbol
  | _ => none

end KotlinBackend
