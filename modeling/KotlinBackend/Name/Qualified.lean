import KotlinBackend.Text.Split

/-!
# Package names

A package name is a dotted text. The empty text names the root package.
-/

namespace KotlinBackend

structure QualifiedName where
  text : String
  deriving DecidableEq, Repr, Inhabited

namespace QualifiedName

def root : QualifiedName := ⟨""⟩

def isRoot (p : QualifiedName) : Bool := p.text.isEmpty

/-- The parts of the name between its dots; empty parts do not count. -/
def segments (p : QualifiedName) : List String :=
  (Text.pieces '.' p.text).filter fun part => !part.isEmpty

/-- `pkg.name`, or the bare name in the root package. -/
def qualify (p : QualifiedName) (name : String) : String :=
  if p.isRoot then name else p.text ++ "." ++ name

def child (p : QualifiedName) (segment : String) : QualifiedName := ⟨p.qualify segment⟩

/-- The package around this one; the root package has none. -/
def parent? (p : QualifiedName) : Option QualifiedName :=
  if p.isRoot then none
  else match Text.cutLast '.' p.text with
    | some (outer, _) => some ⟨outer⟩
    | none => some root

/-- A package name, then the packages around it up to but not including the root package, for at
most `steps` of them. -/
def ancestorsWithin (p : QualifiedName) : Nat → List QualifiedName
  | 0 => []
  | steps + 1 =>
    if p.isRoot then []
    else p :: match p.parent? with
      | some outer => outer.ancestorsWithin steps
      | none => []

/-- A package name and the packages around it, innermost first, without the root package. Every
step outwards makes the text shorter. -/
def ancestors (p : QualifiedName) : List QualifiedName := p.ancestorsWithin p.text.length

end QualifiedName

end KotlinBackend
