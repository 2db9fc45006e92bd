import KotlinBackend.Data.Distinct
import KotlinBackend.Facade.Basic

/-!
# Members of classes of other modules

A function or property at file level may name a class that the module does not declare. All of them
that name the same class go into one facade, in a new file in the package of that class.
-/

namespace KotlinBackend

/-- The facade for the members of a class: `pkg/OuterInnerFacade`. -/
def externalFacadeId (container : ClassId) : ClassId :=
  ⟨container.package, [String.join container.names ++ "Facade"]⟩

/-- The class that a callable names although the module does not declare it. -/
def Declaration.externalContainer? (declared : List ClassId) (d : Declaration) :
    Option ClassId := do
  let id ← d.callable?
  let container ← id.class?
  if declared.contains container then none else some container

def SourceModule.externals (m : SourceModule) (declared : List ClassId) :
    List (ClassId × Declaration) :=
  m.files.flatMap fun f => f.declarations.filterMap fun d =>
    (d.externalContainer? declared).map (·, d)

def externalFacadeFile (container : ClassId) (members : List Declaration) : SourceFile :=
  let id := externalFacadeId container
  { name := id.shortName ++ ".kt"
    package := container.package
    declarations :=
      [.ofClass (facadeClass id .externalFacade (members.map (Declaration.moveInto id)))] }

def SourceFile.withoutExternals (declared : List ClassId) (f : SourceFile) : SourceFile :=
  { f with
    declarations := f.declarations.filter fun d => (d.externalContainer? declared).isNone }

/-- Moves the members of undeclared classes into facades. The count is the number of different
callables that moved. -/
def relocateExternals (declared : List ClassId) (m : SourceModule) : Tally SourceModule :=
  let externals := m.externals declared
  if externals.isEmpty then pure m
  else
    let containers := distinct (externals.map (·.1))
    let membersOf (container : ClassId) : List Declaration :=
      externals.filterMap fun (c, d) => if c = container then some d else none
    let moves : Moves :=
      externals.flatMap fun (c, d) => Moves.into (externalFacadeId c) [d]
    let moved : SourceModule :=
      { m with
        files := m.files.map (SourceFile.withoutExternals declared) ++
          containers.map fun c => externalFacadeFile c (membersOf c) }
    ⟨moved.retarget moves, (distinct (moves.map (·.1))).length⟩

end KotlinBackend
