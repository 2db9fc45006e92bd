import KotlinBackend.Intrinsic
import KotlinBackend.Program.Node
import KotlinBackend.Program.Renaming
import KotlinBackend.Symbol.Builtins

/-!
# Placeholders of built-in classes

A standard library declares placeholders for the built-in classes. Such a class is annotated with
the name of the class it stands for, or stands for the built-in class of its own name. It is
removed, and everything that names it names the built-in class instead.
-/

namespace KotlinBackend

def placeholderMark : ClassId := .inPackage internalPackage "ActualizeByBuiltin"

/-- The built-in class that a class is a placeholder for, whether there is such a class or not. -/
def ClassDecl.placeholderTarget? (c : ClassDecl) : Option ClassId :=
  (c.annotations.find? (·.id == placeholderMark)).map fun mark =>
    match mark.arguments with
    | .string name :: _ => .ofDotted name
    | _ => WellKnown.kotlin c.name

def SourceModule.placeholders (m : SourceModule) : List (ClassId × ClassId) :=
  (m.files.flatMap SourceFile.classes).filterMap fun c =>
    c.placeholderTarget?.map fun target => (c.id, target)

structure Actualization where
  module : SourceModule
  /-- The placeholders that were replaced, each with its target. -/
  actualized : List (ClassId × ClassId)
  /-- The placeholders whose target does not exist; they stay as they are. -/
  unknown : List ClassId
  substituted : Nat

/-- The rest of an identifier inside a class: the names that follow the names of that class. -/
def ClassId.inside? (id outer : ClassId) : Option (List String) :=
  if id.package = outer.package ∧ outer.names <+: id.names then
    some (id.names.drop outer.names.length)
  else none

/-- The identifier that replaces one that is a placeholder or is inside of one. The first
placeholder that fits counts. -/
def substitute? (mapping : List (ClassId × ClassId)) (id : ClassId) : Option ClassId :=
  mapping.findSome? fun (placeholder, target) =>
    (id.inside? placeholder).map fun rest => { target with names := target.names ++ rest }

def SourceFile.withoutClasses (f : SourceFile) (ids : List ClassId) : SourceFile :=
  { f with
    declarations := f.declarations.filter fun d =>
      match d with
      | .ofClass c => !ids.contains c.id
      | _ => true }

def SourceModule.actualize (m : SourceModule) (builtins : SymbolGraph) : Actualization :=
  let actualized := m.placeholders.filter fun (_, target) => builtins.contains target
  let unknown := (m.placeholders.filter fun (_, target) => !builtins.contains target).map (·.1)
  if actualized.isEmpty then { module := m, actualized, unknown, substituted := 0 }
  else
    let rest : SourceModule :=
      { m with files := m.files.map (·.withoutClasses (actualized.map (·.1))) }
    let mentioned := rest.nodes.filterMap Node.class?
    { module := rest.mapClassIds fun id => (substitute? actualized id).getD id
      actualized
      unknown
      substituted := mentioned.countP fun id => (substitute? actualized id).isSome }

end KotlinBackend
