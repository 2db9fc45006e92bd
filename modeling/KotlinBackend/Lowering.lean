import KotlinBackend.DefaultConstructor
import KotlinBackend.Expected
import KotlinBackend.Facade.EntryPoint
import KotlinBackend.Facade.External
import KotlinBackend.Facade.File
import KotlinBackend.Folding.Fold
import KotlinBackend.Intrinsic

/-!
# Lowering

A module is brought into the shape that code is generated from by a fixed sequence of passes: first
those that need the whole module, then those that work file by file. Each pass tells how often it
changed something.
-/

namespace KotlinBackend

inductive ModulePass where
  | relocateExternals
  | stripExpected
  | foldConstants
  | mergeFileFacades
  deriving DecidableEq, Repr

inductive FilePass where
  | addEntryPoints
  | useIntrinsics
  | addDefaultConstructors
  deriving DecidableEq, Repr

def ModulePass.name : ModulePass → String
  | relocateExternals => "external-declaration-relocation"
  | stripExpected => "expect-declaration-stripping"
  | foldConstants => "constant-folding"
  | mergeFileFacades => "file-facade-merge"

def FilePass.name : FilePass → String
  | addEntryPoints => "entry-point-synthesis"
  | useIntrinsics => "intrinsic-rewrite"
  | addDefaultConstructors => "default-constructor-synthesis"

/-- What the passes know besides the module: the classes it declares, and the classes that are known
from elsewhere. -/
structure LoweringContext where
  declared : List ClassId
  known : ClassId → Bool

def LoweringContext.ofModule (known : ClassId → Bool) (m : SourceModule) : LoweringContext :=
  ⟨m.declaredClasses, known⟩

def LoweringContext.isDeclared (context : LoweringContext) (id : ClassId) : Bool :=
  context.declared.contains id

def LoweringContext.isKnown (context : LoweringContext) (id : ClassId) : Bool :=
  context.isDeclared id || context.known id

def LoweringContext.refresh (context : LoweringContext) (m : SourceModule) : LoweringContext :=
  { context with declared := m.declaredClasses }

def ModulePass.run (context : LoweringContext) : ModulePass → SourceModule → Tally SourceModule
  | relocateExternals => KotlinBackend.relocateExternals context.declared
  | stripExpected => KotlinBackend.stripExpected
  | foldConstants => KotlinBackend.foldConstants
  | mergeFileFacades => KotlinBackend.mergeFileFacades

def FilePass.runOnFile : FilePass → SourceFile → Tally SourceFile
  | addEntryPoints => SourceFile.addEntryPoint
  | useIntrinsics => SourceFile.useIntrinsics
  | addDefaultConstructors => SourceFile.addDefaultConstructors

def FilePass.run (pass : FilePass) (m : SourceModule) : Tally SourceModule := do
  let files ← Tally.each pass.runOnFile m.files
  pure { m with files }

/-- How often each pass changed something, in the order in which they ran. -/
structure LoweringReport where
  applied : List (String × Nat)
  deriving DecidableEq, Repr

def LoweringReport.count (r : LoweringReport) (name : String) : Nat :=
  total ((r.applied.filter (·.1 == name)).map (·.2))

def LoweringReport.total (r : LoweringReport) : Nat := KotlinBackend.total (r.applied.map (·.2))

/-- A module between two passes, with the counts so far. -/
structure Lowering where
  module : SourceModule
  context : LoweringContext
  report : LoweringReport

def Lowering.start (context : LoweringContext) (m : SourceModule) : Lowering := ⟨m, context, ⟨[]⟩⟩

def LoweringReport.add (r : LoweringReport) (name : String) (count : Nat) : LoweringReport :=
  ⟨r.applied ++ [(name, count)]⟩

/-- Runs a pass on the module; when it changed something, the context follows. -/
def Lowering.modulePass (l : Lowering) (pass : ModulePass) : Lowering :=
  let result := pass.run l.context l.module
  { module := result.value
    context := if 0 < result.count then l.context.refresh result.value else l.context
    report := l.report.add pass.name result.count }

def Lowering.filePass (l : Lowering) (pass : FilePass) : Lowering :=
  let result := pass.run l.module
  { l with module := result.value, report := l.report.add pass.name result.count }

/-- Passes over the module and then passes over its files. -/
structure Pipeline where
  modulePasses : List ModulePass
  filePasses : List FilePass

def Pipeline.standard : Pipeline :=
  { modulePasses := [.relocateExternals, .stripExpected, .foldConstants, .mergeFileFacades]
    filePasses := [.addEntryPoints, .useIntrinsics, .addDefaultConstructors] }

def Pipeline.passNames (p : Pipeline) : List String :=
  p.modulePasses.map ModulePass.name ++ p.filePasses.map FilePass.name

def Pipeline.run (p : Pipeline) (context : LoweringContext) (m : SourceModule) : Lowering :=
  p.filePasses.foldl Lowering.filePass
    (p.modulePasses.foldl Lowering.modulePass (Lowering.start context m))

def Pipeline.single? (name : String) : Option Pipeline :=
  match Pipeline.standard.modulePasses.find? (·.name == name) with
  | some pass => some ⟨[pass], []⟩
  | none => (Pipeline.standard.filePasses.find? (·.name == name)).map fun pass => ⟨[], [pass]⟩

end KotlinBackend
