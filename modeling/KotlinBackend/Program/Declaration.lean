import KotlinBackend.Program.Expression

/-!
# Declarations

Classes with their members, functions, constructors, properties and fields.
-/

namespace KotlinBackend

structure AnnotationUse where
  id : ClassId
  arguments : List Constant := []
  deriving Inhabited

structure TypeParameter where
  name : String
  variance : Variance := .invariant
  bounds : List SourceType := []
  deriving Inhabited

structure ValueParameter where
  name : String
  type : SourceType
  defaultValue : Option Expression := none
  /-- The parameter takes any number of arguments, each of its type. -/
  isVararg : Bool := false
  deriving Inhabited

structure FunctionDecl where
  id : CallableId
  typeParameters : List TypeParameter := []
  extensionReceiver : Option ValueParameter := none
  valueParameters : List ValueParameter := []
  returnType : SourceType
  body : Option (List Statement) := none
  isStatic : Bool := false
  visibility : Visibility := .publicAccess
  modality : Modality := .final
  isExpect : Bool := false
  isExternal : Bool := false
  isOperator : Bool := false
  annotations : List AnnotationUse := []
  origin : Origin := .written
  deriving Inhabited

/-- The call of another constructor with which a constructor starts. -/
structure Delegation where
  target : DelegationTarget
  arguments : List (Option Expression) := []
  deriving Inhabited

structure ConstructorDecl where
  id : ClassId
  valueParameters : List ValueParameter := []
  delegation : Option Delegation := none
  body : Option (List Statement) := none
  isPrimary : Bool := false
  visibility : Visibility := .publicAccess
  origin : Origin := .written
  deriving Inhabited

/-- A property without a getter is stored. -/
structure PropertyDecl where
  id : CallableId
  type : SourceType
  isVariable : Bool := false
  isConst : Bool := false
  isStatic : Bool := false
  getter : Option (List Statement) := none
  setter : Option (List Statement) := none
  initializer : Option Expression := none
  visibility : Visibility := .publicAccess
  modality : Modality := .final
  isExpect : Bool := false
  origin : Origin := .written
  deriving Inhabited

structure FieldDecl where
  name : String
  type : SourceType
  isStatic : Bool := false
  isFinal : Bool := false
  initializer : Option Expression := none
  visibility : Visibility := .publicAccess
  origin : Origin := .written
  deriving Inhabited

mutual

structure ClassDecl where
  id : ClassId
  kind : ClassKind := .plain
  modality : Modality := .final
  visibility : Visibility := .publicAccess
  /-- Declared inside a body. -/
  isLocal : Bool := false
  /-- Represented by the value it wraps. -/
  isValue : Bool := false
  isExpect : Bool := false
  isExternal : Bool := false
  isCompanion : Bool := false
  typeParameters : List TypeParameter := []
  supertypes : List SourceType := []
  annotations : List AnnotationUse := []
  enumEntries : List String := []
  declarations : List Declaration := []
  origin : Origin := .written

inductive Declaration where
  | ofClass (decl : ClassDecl)
  | function (decl : FunctionDecl)
  | constructor (decl : ConstructorDecl)
  | property (decl : PropertyDecl)
  | field (decl : FieldDecl)

end

instance : Inhabited ClassDecl := ⟨{ id := default }⟩

instance : Inhabited Declaration := ⟨.ofClass default⟩

namespace Declaration

/-- The name under which constructors are listed. -/
def constructorName : String := "<init>"

def name : Declaration → String
  | ofClass decl => decl.id.shortName
  | function decl => decl.id.name
  | constructor _ => constructorName
  | property decl => decl.id.name
  | field decl => decl.name

def origin : Declaration → Origin
  | ofClass decl => decl.origin
  | function decl => decl.origin
  | constructor decl => decl.origin
  | property decl => decl.origin
  | field decl => decl.origin

/-- Whether this only announces a declaration of another module. -/
def isExpect : Declaration → Bool
  | ofClass decl => decl.isExpect
  | function decl => decl.isExpect
  | property decl => decl.isExpect
  | constructor _ => false
  | field _ => false

def class? : Declaration → Option ClassDecl
  | ofClass decl => some decl
  | _ => none

def function? : Declaration → Option FunctionDecl
  | function decl => some decl
  | _ => none

def constructor? : Declaration → Option ConstructorDecl
  | constructor decl => some decl
  | _ => none

def property? : Declaration → Option PropertyDecl
  | property decl => some decl
  | _ => none

end Declaration

namespace ClassDecl

def name (c : ClassDecl) : String := c.id.shortName

def isAnnotatedWith (c : ClassDecl) (id : ClassId) : Bool := c.annotations.any (·.id == id)

def classes (c : ClassDecl) : List ClassDecl := c.declarations.filterMap Declaration.class?

def constructors (c : ClassDecl) : List ConstructorDecl :=
  c.declarations.filterMap Declaration.constructor?

def functions (c : ClassDecl) : List FunctionDecl :=
  c.declarations.filterMap Declaration.function?

/-- The nested class for what belongs to the class as a whole. -/
def companion? (c : ClassDecl) : Option ClassDecl := c.classes.find? (·.isCompanion)

/-- Emitted as a static class, with all its members static. -/
def isStaticHolder (c : ClassDecl) : Bool := c.origin.isFacade

/-- The type of an instance inside the class. -/
def thisType (c : ClassDecl) : SourceType :=
  .generic c.id (c.typeParameters.map fun p => .parameter p.name false)

end ClassDecl

end KotlinBackend
