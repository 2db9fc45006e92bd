import KotlinBackend.Text.Split

/-!
# Assemblies

What a foreign binary exports, as reflection reports it. References to types are names; nothing here
says whether they can be resolved.
-/

namespace KotlinBackend.Metadata

structure TypeFlags where
  isAbstract : Bool := false
  isSealed : Bool := false
  isInterface : Bool := false
  isEnum : Bool := false
  isValueType : Bool := false
  isGenericType : Bool := false
  isNested : Bool := false
  isPublic : Bool := false
  isNestedPublic : Bool := false
  isNestedPrivate : Bool := false
  isNestedFamily : Bool := false
  isNestedAssembly : Bool := false
  deriving DecidableEq, Repr, Inhabited

def TypeFlags.toList (f : TypeFlags) : List Bool :=
  [f.isAbstract, f.isSealed, f.isInterface, f.isEnum, f.isValueType, f.isGenericType, f.isNested,
    f.isPublic, f.isNestedPublic, f.isNestedPrivate, f.isNestedFamily, f.isNestedAssembly]

/-- The flags as a number, the first flag in the lowest bit. -/
def TypeFlags.bits (f : TypeFlags) : Nat :=
  f.toList.foldr (fun flag rest => 2 * rest + if flag then 1 else 0) 0

/-- Who may use a member, as reflection reports it. -/
inductive MemberAccess where
  | everyone
  | family
  | familyOrAssembly
  | familyAndAssembly
  | assembly
  | ownType
  deriving DecidableEq, Repr, Inhabited

/-- Visible to code outside of the defining assembly. -/
def MemberAccess.isAccessible : MemberAccess → Bool
  | everyone | family | familyOrAssembly => true
  | _ => false

def MemberAccess.words : List (String × MemberAccess) :=
  [("public", everyone), ("family", family), ("familyOrAssembly", familyOrAssembly),
    ("familyAndAssembly", familyAndAssembly), ("assembly", assembly), ("private", ownType)]

/-- How a reference to a type is to be read. -/
inductive RefKind where
  | plainClass
  | interface
  | valueType
  /-- An array of its first argument. -/
  | array
  | genericParameter
  | byRef
  | pointer
  deriving DecidableEq, Repr, Inhabited

def RefKind.words : List (String × RefKind) :=
  [("class", plainClass), ("interface", interface), ("valueType", valueType), ("array", array),
    ("genericParameter", genericParameter), ("byRef", byRef), ("pointer", pointer)]

structure GenericParameter where
  name : String
  isCovariant : Bool := false
  isContravariant : Bool := false
  ownedByType : Bool := false
  ownedByMethod : Bool := false
  deriving DecidableEq, Repr, Inhabited

structure TypeRef where
  nameSpace : Option String := none
  name : String
  kind : RefKind := .plainClass
  parameter : Option GenericParameter := none
  arguments : List TypeRef := []
  deriving Repr, Inhabited

structure Attribute where
  typeName : String
  arguments : List String := []
  deriving DecidableEq, Repr, Inhabited

structure Parameter where
  name : Option String := none
  type : TypeRef
  attributes : List Attribute := []
  hasDefault : Bool := false
  isVariadic : Bool := false
  deriving Repr, Inhabited

structure Method where
  name : String
  returnType : TypeRef
  attributes : List Attribute := []
  typeParameters : List GenericParameter := []
  parameters : List Parameter := []
  isStatic : Bool := false
  access : MemberAccess := .everyone
  isVirtual : Bool := false
  isFinal : Bool := false
  isAbstract : Bool := false
  deriving Repr, Inhabited

structure Constructor where
  attributes : List Attribute := []
  parameters : List Parameter := []
  isStatic : Bool := false
  access : MemberAccess := .everyone
  deriving Repr, Inhabited

structure Field where
  name : String
  type : TypeRef
  isStatic : Bool := false
  isInitOnly : Bool := false
  isLiteral : Bool := false
  access : MemberAccess := .everyone
  deriving Repr, Inhabited

structure Property where
  name : String
  type : TypeRef
  canRead : Bool := false
  canWrite : Bool := false
  isStatic : Bool := false
  deriving Repr, Inhabited

structure Event where
  name : String
  handlerType : TypeRef
  isStatic : Bool := false
  deriving Repr, Inhabited

structure TypeDef where
  name : String
  nameSpace : String := ""
  declaringType : Option String := none
  baseType : Option TypeRef := none
  interfaces : List TypeRef := []
  attributes : List Attribute := []
  constructors : List Constructor := []
  methods : List Method := []
  fields : List Field := []
  properties : List Property := []
  events : List Event := []
  nestedTypes : List TypeDef := []
  typeParameters : List GenericParameter := []
  flags : TypeFlags := {}
  deriving Inhabited

structure Assembly where
  name : String
  types : List TypeDef := []
  deriving Inhabited

/-- A name without the mark for its number of type parameters: what follows the last backquote, if
it consists of digits. -/
def stripArity (name : String) : String :=
  match Text.cutLast '\x60' name with
  | some (base, arity) => if arity.toList.all Char.isDigit then base else name
  | none => name

/-- A natural number of at most 64 bits, with an optional plus sign. -/
def parseWord? (text : String) : Option Nat :=
  let digits := (Text.dropStart? ['+'] text.toList).getD text.toList
  if digits.isEmpty || !digits.all Char.isDigit then none
  else
    let n := digits.foldl (fun n c => 10 * n + (c.toNat - '0'.toNat)) 0
    if n < Nat.pow 2 64 then some n else none

def declaredArity? (name : String) : Option Nat := do
  let (_, arity) ← Text.cutLast '\x60' name
  parseWord? arity

def voidNameSpace : String := "System"

def voidTypeName : String := "Void"

namespace TypeDef

/-- The name after its namespace, or the bare name in the global namespace. -/
def fullName (t : TypeDef) : String :=
  if t.nameSpace.isEmpty then t.name else t.nameSpace ++ "." ++ t.name

def isPublic (t : TypeDef) : Bool :=
  if t.flags.isNested then t.flags.isNestedPublic else t.flags.isPublic

def isVoid (t : TypeDef) : Bool := t.nameSpace == voidNameSpace && t.name == voidTypeName

def simpleName (t : TypeDef) : String := stripArity t.name

def arity? (t : TypeDef) : Option Nat := declaredArity? t.name

def hasAttribute (t : TypeDef) (typeName : String) : Bool :=
  t.attributes.any (·.typeName == typeName)

end TypeDef

def Method.hasAttribute (m : Method) (typeName : String) : Bool :=
  m.attributes.any (·.typeName == typeName)

def TypeRef.isVoid (r : TypeRef) : Bool :=
  r.nameSpace == some voidNameSpace && r.name == voidTypeName

/-- The name after its namespace as the reference spells it. -/
def TypeRef.fullName (r : TypeRef) : String :=
  match r.nameSpace with
  | some space => if space.isEmpty then r.name else space ++ "." ++ r.name
  | none => r.name

def Assembly.findType? (a : Assembly) (nameSpace name : String) : Option TypeDef :=
  a.types.find? fun t => t.nameSpace == nameSpace && t.name == name

def Assembly.topLevelTypes (a : Assembly) : List TypeDef := a.types.filter (!·.flags.isNested)

end KotlinBackend.Metadata
