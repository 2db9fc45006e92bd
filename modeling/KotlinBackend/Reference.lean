import KotlinBackend.Intrinsic
import KotlinBackend.Program.Node
import KotlinBackend.Symbol.Source

/-!
# Unresolved references

A module may name the classes that it declares, the classes of the language and of the compiler
itself, and the classes that a source of symbols knows. A class that is none of these is reported
once for every file that names it.
-/

namespace KotlinBackend

structure UnresolvedReference where
  file : String
  id : ClassId
  deriving DecidableEq, Repr

def UnresolvedReference.message (r : UnresolvedReference) : String :=
  r.file ++ ": unresolved reference to class " ++ r.id.text

/-- Packages whose classes need not be known: that of the compiler, that of the language and the
packages inside it. -/
def isTrustedPackage (package : QualifiedName) : Bool :=
  package.text == internalPackage || package.text == WellKnown.languagePackage ||
    Text.startsWith (WellKnown.languagePackage ++ ".") package.text

/-- The classes that a file of a module names and that nothing declares, in increasing order. -/
def SourceFile.unresolved (f : SourceFile) (declared : List ClassId) (symbols : SymbolSource) :
    List ClassId :=
  ClassId.sortUnique <| f.classRefs.filter fun id =>
    !declared.contains id && !isTrustedPackage id.package && !symbols.contains id

def SourceModule.unresolved (m : SourceModule) (symbols : SymbolSource) :
    List UnresolvedReference :=
  m.files.flatMap fun f =>
    (f.unresolved m.declaredClasses symbols).map fun id => ⟨f.name, id⟩

end KotlinBackend
