import KotlinBackend.Name.Qualified
import KotlinBackend.Text.Quoted

/-!
# Class identifiers

A class is identified by its package and the names that lead to it inside the package, outermost
first. In text the package ends at a slash: `pkg.sub/Outer.Inner`.
-/

namespace KotlinBackend

structure ClassId where
  package : QualifiedName
  names : List String
  deriving DecidableEq, Repr, Inhabited

inductive IdError.Reason where
  | missingSlash
  | emptyClassName
  | missingHash
  | emptyCallableName
  deriving DecidableEq, Repr

structure IdError where
  input : String
  reason : IdError.Reason
  deriving DecidableEq, Repr

def IdError.Reason.message : IdError.Reason → String
  | missingSlash => "missing '/' between package and class"
  | emptyClassName => "empty class name segment"
  | missingHash => "missing '#' before callable name"
  | emptyCallableName => "empty callable name"

def IdError.message (e : IdError) : String :=
  "invalid identifier " ++ Text.quoteString e.input ++ ": " ++ e.reason.message

namespace ClassId

def inPackage (package name : String) : ClassId := ⟨⟨package⟩, [name]⟩

/-- The class that a dotted name stands for when its last part is the class. -/
def ofDotted (name : String) : ClassId :=
  match Text.cutLast '.' name with
  | some (package, short) => inPackage package short
  | none => inPackage "" name

def nested (id : ClassId) (name : String) : ClassId := { id with names := id.names ++ [name] }

/-- The name of the class that holds what belongs to a class as a whole. -/
def companionName : String := "Companion"

def companion (id : ClassId) : ClassId := id.nested companionName

def shortName (id : ClassId) : String := id.names.getLast?.getD ""

def isNested (id : ClassId) : Bool := 1 < id.names.length

def isCompanion (id : ClassId) : Bool := id.isNested && id.shortName == companionName

def outer? (id : ClassId) : Option ClassId :=
  if id.isNested then some { id with names := id.names.dropLast } else none

/-- `Outer.Inner` -/
def relativeName (id : ClassId) : String := String.intercalate "." id.names

/-- `pkg.Outer.Inner` -/
def qualifiedName (id : ClassId) : String := id.package.qualify id.relativeName

/-- `pkg/Outer.Inner` -/
def text (id : ClassId) : String := id.package.text ++ "/" ++ id.relativeName

def parse (text : String) : Except IdError ClassId :=
  match Text.cutLast '/' text with
  | none => .error ⟨text, .missingSlash⟩
  | some (package, relative) =>
    let names := Text.pieces '.' relative
    if names.any String.isEmpty then .error ⟨text, .emptyClassName⟩ else .ok ⟨⟨package⟩, names⟩

/-- Identifiers are ordered by package, then by their names from the outermost inwards. -/
def key (id : ClassId) : List String := id.package.text :: id.names

instance : LT ClassId := ⟨fun a b => a.key < b.key⟩

instance (a b : ClassId) : Decidable (a < b) := inferInstanceAs (Decidable (a.key < b.key))

/-- Puts an identifier into an increasing list unless it is there. -/
def insertSorted (id : ClassId) : List ClassId → List ClassId
  | [] => [id]
  | first :: rest =>
    if id < first then id :: first :: rest
    else if id = first then first :: rest
    else first :: insertSorted id rest

def sortUnique (ids : List ClassId) : List ClassId :=
  ids.foldl (fun sorted id => insertSorted id sorted) []

end ClassId

end KotlinBackend
