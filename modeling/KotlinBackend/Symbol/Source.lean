import KotlinBackend.Symbol.Graph

/-!
# Sources of symbols

The questions that a compilation asks about declarations outside of its module. Sources can be put
in layers; the first layer that knows a class decides what the class is.
-/

namespace KotlinBackend

structure SymbolSource where
  /-- True for a package that has something, and for the packages around it. -/
  hasPackage : QualifiedName → Bool
  class? : ClassId → Option ClassSymbol
  callables : QualifiedName → String → List CallableSymbol
  classesIn : QualifiedName → List ClassSymbol
  callablesIn : QualifiedName → List CallableSymbol
  members : ClassId → List MemberSymbol
  functionsOf : CallableId → List FunctionSymbol

def SymbolSource.contains (s : SymbolSource) (id : ClassId) : Bool := (s.class? id).isSome

def SymbolGraph.source (g : SymbolGraph) : SymbolSource :=
  { hasPackage := g.hasPackage
    class? := g.class?
    callables := g.callables
    classesIn := g.classesIn
    callablesIn := g.callablesIn
    members := g.members
    functionsOf := g.functionsOf }

def SymbolSource.layered (layers : List SymbolSource) : SymbolSource :=
  { hasPackage := fun package => layers.any (·.hasPackage package)
    class? := fun id => layers.findSome? (·.class? id)
    callables := fun package name => layers.flatMap (·.callables package name)
    classesIn := fun package => layers.flatMap (·.classesIn package)
    callablesIn := fun package => layers.flatMap (·.callablesIn package)
    members := fun id =>
      match layers.find? (·.contains id) with
      | some layer => layer.members id
      | none => []
    functionsOf := fun id => layers.flatMap (·.functionsOf id) }

end KotlinBackend
