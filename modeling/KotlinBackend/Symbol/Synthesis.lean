import KotlinBackend.Symbol.Foreign
import KotlinBackend.Symbol.Graph

/-!
# Symbols of foreign assemblies

Every public type of an assembly becomes a class. Attributes decide its shape: an object keeps all
its members, a static holder gives its methods to the package, and any other class moves its static
members into a companion. A type that does not fit is skipped and reported, and never stops the
types beside it.
-/

namespace KotlinBackend

open Metadata (Assembly TypeDef GenericParameter MemberAccess)

inductive TypeShape where
  | object
  | staticHolder
  | plainClass
  deriving DecidableEq, Repr

def TypeShape.word : TypeShape → String
  | object => "Object"
  | staticHolder => "StaticHolder"
  | plainClass => "Class"

def singletonAttribute : String := "Sharpen.Runtime.SingletonObjectAttribute"

def fileFacadeAttribute : String := "Sharpen.Runtime.FileFacadeAttribute"

def doesNotReturnAttribute : String := "System.Diagnostics.CodeAnalysis.DoesNotReturnAttribute"

def extensionAttribute : String := "System.Runtime.CompilerServices.ExtensionAttribute"

/-- Static classes are both abstract and sealed. -/
def Metadata.TypeDef.isStaticClass (t : TypeDef) : Bool :=
  t.flags.isAbstract && t.flags.isSealed && !t.flags.isInterface

def Metadata.TypeDef.shape (t : TypeDef) : TypeShape :=
  if t.hasAttribute singletonAttribute then .object
  else if t.hasAttribute fileFacadeAttribute || t.isStaticClass then .staticHolder
  else .plainClass

inductive SkipReason where
  | notPublic
  | voidMarker
  | arityMismatch (declared actual : Nat)
  | duplicate (firstAssembly : String)
  | emptyName
  | conflict (error : SymbolError)
  deriving DecidableEq, Repr

def SkipReason.message : SkipReason → String
  | notPublic => "not public"
  | voidMarker => "void marker type"
  | arityMismatch declared actual =>
    "name declares " ++ toString declared ++ " type parameters but " ++ toString actual ++
      " are listed"
  | duplicate firstAssembly => "already defined by assembly " ++ firstAssembly
  | emptyName => "empty type name"
  | conflict error => error.message

/-- Types that are not public and the type for no value are skipped as a matter of course. -/
def SkipReason.isAnomaly : SkipReason → Bool
  | notPublic | voidMarker => false
  | _ => true

def Metadata.TypeDef.defect? (t : TypeDef) : Option SkipReason :=
  if t.isVoid then some .voidMarker
  else if !t.isPublic then some .notPublic
  else if t.name.isEmpty then some .emptyName
  else match t.arity? with
    | some declared =>
      if declared = t.typeParameters.length then none
      else some (.arityMismatch declared t.typeParameters.length)
    | none => none

mutual

/-- The classes that a type and the types nested in it stand for. What is nested in a defective type
does not count. -/
def Metadata.TypeDef.knownClasses : TypeDef → List ClassId
  | type@{ nestedTypes, .. } =>
    if type.defect?.isSome then []
    else type.classId :: Metadata.TypeDef.knownClassesList nestedTypes

def Metadata.TypeDef.knownClassesList : List TypeDef → List ClassId
  | [] => []
  | type :: rest =>
    Metadata.TypeDef.knownClasses type ++ Metadata.TypeDef.knownClassesList rest

end

/-- The classes that references of the assemblies can name. -/
def foreignClasses (assemblies : List Assembly) : List ClassId :=
  distinct (assemblies.flatMap fun a => Metadata.TypeDef.knownClassesList a.types)

namespace Metadata

def GenericParameter.symbol (p : GenericParameter) : TypeParameter :=
  { name := p.name
    variance := if p.isCovariant then .out else if p.isContravariant then .into else .invariant }

def MemberAccess.visibility : MemberAccess → Visibility
  | everyone => .publicAccess
  | family | familyOrAssembly => .protectedAccess
  | familyAndAssembly | assembly => .internalAccess
  | ownType => .privateAccess

/-- The methods that are used for reading and writing the properties and events of a type. -/
def TypeDef.accessorNames (t : TypeDef) : List String :=
  t.properties.flatMap (fun p => ["get_" ++ p.name, "set_" ++ p.name]) ++
    t.events.flatMap (fun e => ["add_" ++ e.name, "remove_" ++ e.name])

def TypeDef.visibleMethods (t : TypeDef) : List Method :=
  t.methods.filter fun m => m.access.isAccessible && !t.accessorNames.contains m.name

/-- The symbols of parameters from a position on. A parameter without a name is named by its
position. -/
def parameterSymbols (known : ClassId → Bool) : (position : Nat) → List Parameter →
    List ParameterSymbol
  | _, [] => []
  | position, p :: rest =>
    let type := p.type.resolve known
    { name := p.name.getD ("p" ++ toString position)
      type := if p.isVariadic then (type.argument? 0).getD .top else type
      hasDefault := p.hasDefault
      isVararg := p.isVariadic } :: parameterSymbols known (position + 1) rest

def Method.modality (m : Method) : Modality :=
  if m.isAbstract then .abstract else if m.isVirtual && !m.isFinal then .extensible else .final

def Method.splitReceiver (m : Method) : Option Parameter × List Parameter :=
  match m.hasAttribute extensionAttribute, m.parameters with
  | true, receiver :: rest => (some receiver, rest)
  | _, parameters => (none, parameters)

def Method.symbol (known : ClassId → Bool) (m : Method) (id : CallableId)
    (holder : Option ClassId) : FunctionSymbol :=
  let (receiver, parameters) := m.splitReceiver
  { id
    typeParameters := m.typeParameters.map GenericParameter.symbol
    extensionReceiver := receiver.map (·.type.resolve known)
    parameters := parameterSymbols known 0 parameters
    returnType :=
      if m.hasAttribute doesNotReturnAttribute then .nothing else m.returnType.resolve known
    isStatic := m.isStatic
    modality := m.modality
    visibility := m.access.visibility
    staticHolder := holder }

def Field.symbol (known : ClassId → Bool) (f : Field) (id : CallableId)
    (holder : Option ClassId) : PropertySymbol :=
  { id
    type := f.type.resolve known
    isVariable := !f.isInitOnly && !f.isLiteral
    isConst := f.isLiteral
    isStatic := f.isStatic
    staticHolder := holder }

def Property.symbol (known : ClassId → Bool) (p : Property) (id : CallableId)
    (holder : Option ClassId) : PropertySymbol :=
  { id
    type := p.type.resolve known
    isVariable := p.canWrite
    isStatic := p.isStatic
    staticHolder := holder }

namespace TypeDef

def classKind (t : TypeDef) : ClassKind :=
  if t.shape ≠ .plainClass then .object
  else if t.flags.isInterface then .interface
  else if t.flags.isEnum then .enumeration
  else .plain

def modality (t : TypeDef) : Modality :=
  if t.shape ≠ .plainClass then .final
  else if t.flags.isInterface || t.flags.isAbstract then .abstract
  else if t.flags.isSealed || t.flags.isValueType || t.flags.isEnum then .final
  else .extensible

def enumEntries (t : TypeDef) : List String :=
  if t.flags.isEnum then (t.fields.filter fun f => f.isStatic && f.isLiteral).map (·.name) else []

def classSymbol (known : ClassId → Bool) (origin : SymbolOrigin) (t : TypeDef) : ClassSymbol :=
  { id := t.classId
    kind := t.classKind
    modality := t.modality
    typeParameters := t.typeParameters.map GenericParameter.symbol
    supertypes :=
      ((t.baseType.toList.filter (!·.isImplicitBase) ++ t.interfaces).map
        (·.resolve known)).filter (!·.isTop)
    enumEntries := t.enumEntries
    isStaticHolder := t.shape == .staticHolder
    origin }

/-- The field that holds the value of an enumeration. -/
def enumValueField : String := "value__"

/-- Whether a field is a part of how enumerations are represented. -/
def isEnumDetail (t : TypeDef) (f : Field) : Bool :=
  t.flags.isEnum && (f.isLiteral || f.name == enumValueField)

/-- The fields and readable properties of a type that are static as wanted, as members of a
class. -/
def dataMembers (known : ClassId → Bool) (t : TypeDef) (owner : ClassId)
    (wanted : (isStatic : Bool) → Bool) : List Insertion :=
  let fields := t.fields.filter fun f =>
    f.access.isAccessible && wanted f.isStatic && !t.isEnumDetail f
  let properties := t.properties.filter fun p => p.canRead && wanted p.isStatic
  fields.map (fun f => .property (f.symbol known (owner.member f.name) none)) ++
    properties.map (fun p => .property (p.symbol known (owner.member p.name) none))

def objectMembers (known : ClassId → Bool) (t : TypeDef) : List Insertion :=
  t.visibleMethods.map (fun m =>
      .function (m.symbol known (t.classId.member m.name) none)) ++
    t.dataMembers known t.classId fun _ => true

/-- What a static holder gives to its package. -/
def holderMembers (known : ClassId → Bool) (t : TypeDef) : List Insertion :=
  let holder := some t.classId
  let id (name : String) : CallableId := .topLevel t.nameSpace name
  let methods := t.visibleMethods.filter (·.isStatic)
  let fields := t.fields.filter fun f => f.isStatic && f.access.isAccessible
  let properties := t.properties.filter fun p => p.isStatic && p.canRead
  methods.map (fun m => .function (m.symbol known (id m.name) holder)) ++
    fields.map (fun f => .property (f.symbol known (id f.name) holder)) ++
    properties.map (fun p => .property (p.symbol known (id p.name) holder))

def hasStaticMembers (t : TypeDef) : Bool :=
  t.visibleMethods.any (·.isStatic) ||
    t.fields.any (fun f => f.isStatic && !f.isLiteral && f.access.isAccessible) ||
    t.properties.any (·.isStatic)

def companion? (t : TypeDef) : Option ClassId :=
  if t.hasStaticMembers && !t.flags.isEnum then some t.classId.companion else none

def companionInsertions (t : TypeDef) (origin : SymbolOrigin) : List Insertion :=
  match t.companion? with
  | some id =>
    [.ofClass { id, kind := .object, isCompanion := true, origin }, .companion t.classId id]
  | none => []

def constructorInsertions (known : ClassId → Bool) (t : TypeDef) : List Insertion :=
  if t.flags.isInterface then []
  else (t.constructors.filter fun c => !c.isStatic && c.access.isAccessible).map fun c =>
    .constructor
      { id := t.classId
        parameters := parameterSymbols known 0 c.parameters
        visibility := c.access.visibility }

/-- The class that gets a method: static methods go to the companion, or to an enumeration
itself. -/
def methodOwner? (t : TypeDef) (m : Method) : Option ClassId :=
  if m.isStatic then t.companion?.or (if t.flags.isEnum then some t.classId else none)
  else some t.classId

def methodInsertions (known : ClassId → Bool) (t : TypeDef) : List Insertion :=
  t.visibleMethods.filterMap fun m => (t.methodOwner? m).map fun owner =>
    .function
      { m.symbol known (owner.member m.name) none with
        isStatic := m.isStatic && t.companion?.isNone }

def classMembers (known : ClassId → Bool) (t : TypeDef) (origin : SymbolOrigin) :
    List Insertion :=
  t.companionInsertions origin ++ t.constructorInsertions known ++ t.methodInsertions known ++
    t.dataMembers known t.classId (fun isStatic => !isStatic) ++
    t.companion?.toList.flatMap fun id => t.dataMembers known id fun isStatic => isStatic

def memberInsertions (known : ClassId → Bool) (t : TypeDef) (origin : SymbolOrigin) :
    List Insertion :=
  match t.shape with
  | .object => t.objectMembers known
  | .staticHolder => t.holderMembers known
  | .plainClass => t.classMembers known origin

end TypeDef

end Metadata

structure SkippedType where
  assembly : String
  typeName : String
  reason : SkipReason
  deriving DecidableEq, Repr

/-- The state of the synthesis: the graph so far, which assembly defined which class, and what was
skipped. -/
structure Synthesis where
  graph : SymbolGraph := .empty
  definedBy : OrderedMap ClassId String := ∅
  skipped : List SkippedType := []
  /-- The classes of the current assembly that were looked at. -/
  visited : List ClassId := []

namespace Synthesis

/-- Adds the class of a type with its members. What was added before a failure stays. -/
def addType (s : Synthesis) (known : ClassId → Bool) (assembly : String) (t : TypeDef) :
    Synthesis × Option SkipReason :=
  match t.defect?, s.definedBy.get? t.classId with
  | some defect, _ => (s, some defect)
  | none, some first => (s, some (.duplicate first))
  | none, none =>
    match s.graph.insert (.ofClass (t.classSymbol known (.assembly assembly)).node) with
    | .error e graph => ({ s with graph }, some (.conflict e))
    | .ok _ graph =>
      let (graph, failure) := graph.insertAll (t.memberInsertions known (.assembly assembly))
      ({ s with graph, definedBy := s.definedBy.insert t.classId assembly },
        failure.map .conflict)

def skip (s : Synthesis) (assembly : String) (t : TypeDef) (reason : SkipReason) : Synthesis :=
  { s with skipped := s.skipped ++ [⟨assembly, t.fullName, reason⟩] }

mutual

/-- Adds a type and the types nested in it, unless its class was looked at before. -/
def addTree (known : ClassId → Bool) (assembly : String) : TypeDef → Synthesis → Synthesis
  | type@{ nestedTypes, .. }, s =>
    if s.visited.contains type.classId then s
    else
      let s := { s with visited := type.classId :: s.visited }
      match s.addType known assembly type with
      | (s, some reason) => s.skip assembly type reason
      | (s, none) => addTrees known assembly nestedTypes s

def addTrees (known : ClassId → Bool) (assembly : String) : List TypeDef → Synthesis → Synthesis
  | [], s => s
  | type :: rest, s => addTrees known assembly rest (addTree known assembly type s)

end

/-- Adds the types of an assembly: first those that are not nested, then those that are listed
beside the types they are nested in. -/
def addAssembly (known : ClassId → Bool) (s : Synthesis) (a : Assembly) : Synthesis :=
  addTrees known a.name (a.topLevelTypes ++ a.types.filter (·.flags.isNested))
    { s with visited := [] }

end Synthesis

structure SynthesisReport where
  classes : Nat
  functions : Nat
  skipped : List SkippedType
  deriving DecidableEq, Repr

def SynthesisReport.anomalies (r : SynthesisReport) : List SkippedType :=
  r.skipped.filter (·.reason.isAnomaly)

def Synthesis.report (s : Synthesis) : SynthesisReport :=
  ⟨s.graph.classes.size, s.graph.functions.size, s.skipped⟩

def synthesize (assemblies : List Assembly) : Synthesis :=
  let known := foreignClasses assemblies
  assemblies.foldl (Synthesis.addAssembly known.contains) {}

end KotlinBackend
