/-!
# Attributes of declarations

The closed sets of words that say what kind a declaration is, who sees it, and how it came about.
-/

namespace KotlinBackend

/-- How a type parameter relates to its arguments; also how a type argument is projected. -/
inductive Variance where
  | invariant
  | out
  | into
  deriving DecidableEq, Repr, Inhabited

inductive ClassKind where
  | plain
  | interface
  | enumeration
  | annotationClass
  /-- A class with one instance, companions and facades included. -/
  | object
  deriving DecidableEq, Repr, Inhabited

inductive Modality where
  | final
  | extensible
  | abstract
  | sealed
  deriving DecidableEq, Repr, Inhabited

inductive Visibility where
  | publicAccess
  | protectedAccess
  | internalAccess
  | privateAccess
  | localAccess
  deriving DecidableEq, Repr, Inhabited

/-- Visible from outside the declaring class. -/
def Visibility.isAccessible : Visibility → Bool
  | privateAccess | localAccess => false
  | _ => true

inductive Origin where
  | written
  /-- An inherited member repeated in a subclass; it is never emitted. -/
  | fakeOverride
  /-- The holder of the declarations of a file that are outside of classes. -/
  | fileFacade
  /-- The holder of members whose class belongs to another module. -/
  | externalFacade
  | entryPoint
  | defaultConstructor
  deriving DecidableEq, Repr, Inhabited

/-- Facades are emitted as static classes. -/
def Origin.isFacade : Origin → Bool
  | fileFacade | externalFacade => true
  | _ => false

inductive DelegationTarget where
  | sameClass
  | baseClass
  deriving DecidableEq, Repr, Inhabited

inductive TypeOperator where
  | is
  | isNot
  | cast
  | safeCast
  deriving DecidableEq, Repr, Inhabited

def Variance.words : List (String × Variance) :=
  [("Invariant", invariant), ("Out", out), ("In", into)]

def ClassKind.words : List (String × ClassKind) :=
  [("Class", plain), ("Interface", interface), ("Enum", enumeration),
    ("Annotation", annotationClass), ("Object", object)]

def Modality.words : List (String × Modality) :=
  [("Final", final), ("Open", extensible), ("Abstract", abstract), ("Sealed", sealed)]

def Visibility.words : List (String × Visibility) :=
  [("Public", publicAccess), ("Protected", protectedAccess), ("Internal", internalAccess),
    ("Private", privateAccess), ("Local", localAccess)]

def Origin.words : List (String × Origin) :=
  [("Defined", written), ("FakeOverride", fakeOverride), ("FileFacade", fileFacade),
    ("ExternalFacade", externalFacade), ("EntryPoint", entryPoint),
    ("DefaultConstructor", defaultConstructor)]

def DelegationTarget.words : List (String × DelegationTarget) :=
  [("This", sameClass), ("Super", baseClass)]

def TypeOperator.words : List (String × TypeOperator) :=
  [("Is", is), ("NotIs", isNot), ("Cast", cast), ("SafeCast", safeCast)]

/-- The word for a value of a closed set. -/
def wordFor [BEq α] (words : List (String × α)) (value : α) : String :=
  ((words.find? fun (_, v) => v == value).map (·.1)).getD ""

def Variance.word (v : Variance) : String := wordFor words v

def ClassKind.word (k : ClassKind) : String := wordFor words k

def Modality.word (m : Modality) : String := wordFor words m

def Visibility.word (v : Visibility) : String := wordFor words v

def Origin.word (o : Origin) : String := wordFor words o

def DelegationTarget.word (t : DelegationTarget) : String := wordFor words t

def TypeOperator.word (o : TypeOperator) : String := wordFor words o

end KotlinBackend
