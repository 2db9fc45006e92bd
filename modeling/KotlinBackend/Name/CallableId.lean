import KotlinBackend.Name.ClassId

/-!
# Identifiers of functions and properties

A callable is identified by its owner and its name. The owner is a class for a member and a package
for anything else, so that a member is always in the package of its class. In text the name follows
a hash sign: `pkg/Outer#member` and `pkg#function`.
-/

namespace KotlinBackend

inductive Owner where
  | inPackage (name : QualifiedName)
  | inClass (id : ClassId)
  deriving DecidableEq, Repr, Inhabited

structure CallableId where
  owner : Owner
  name : String
  deriving DecidableEq, Repr, Inhabited

def Owner.package : Owner → QualifiedName
  | inPackage name => name
  | inClass id => id.package

def Owner.class? : Owner → Option ClassId
  | inPackage _ => none
  | inClass id => some id

def Owner.text : Owner → String
  | inPackage name => name.text
  | inClass id => id.text

def ClassId.member (id : ClassId) (name : String) : CallableId := ⟨.inClass id, name⟩

namespace CallableId

def topLevel (package name : String) : CallableId := ⟨.inPackage ⟨package⟩, name⟩

def package (id : CallableId) : QualifiedName := id.owner.package

def class? (id : CallableId) : Option ClassId := id.owner.class?

def isTopLevel (id : CallableId) : Bool := id.class?.isNone

/-- The same name inside a class, or directly in the package when there is none. -/
def movedTo (id : CallableId) : Option ClassId → CallableId
  | some holder => holder.member id.name
  | none => ⟨.inPackage id.package, id.name⟩

/-- `pkg/Outer#member` or `pkg#function` -/
def text (id : CallableId) : String := id.owner.text ++ "#" ++ id.name

/-- The callable that a text identifies. A slash before the hash sign makes it a member. -/
def parse (text : String) : Except IdError CallableId :=
  match Text.cutLast '#' text with
  | none => .error ⟨text, .missingHash⟩
  | some (owner, name) =>
    if name.isEmpty then .error ⟨text, .emptyCallableName⟩
    else if owner.toList.contains '/' then do
      let id ← ClassId.parse owner
      .ok (id.member name)
    else .ok (topLevel owner name)

def mapClassId (f : ClassId → ClassId) (id : CallableId) : CallableId :=
  match id.owner with
  | .inPackage _ => id
  | .inClass holder => { id with owner := .inClass (f holder) }

end CallableId

end KotlinBackend
