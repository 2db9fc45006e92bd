import KotlinBackend.Config.Basic
import KotlinBackend.Diagnostic
import KotlinBackend.Metadata.Resolver
import KotlinBackend.Placeholder
import KotlinBackend.Symbol.Synthesis

/-!
# Sessions

A session holds what the parts of a compilation share: the configuration, the symbols that the
program is compiled against, and the diagnostics.
-/

namespace KotlinBackend

open Metadata (Backend ResolutionError Resolver Resolution)

inductive CompilationError where
  | config (cause : ConfigError)
  | metadata (cause : ResolutionError)
  | unreadable (path : Path) (cause : StorageError)
  | malformed (path : Path) (fault : String)
  deriving DecidableEq, Repr

def CompilationError.message : CompilationError → String
  | config cause => "Configuration error: " ++ cause.message
  | metadata cause => "Metadata error: " ++ cause.message
  | unreadable path cause => "I/O error for " ++ path.quoted ++ ": " ++ cause.message
  | malformed path fault => "Cannot read program " ++ path.quoted ++ ": " ++ fault

structure Session where
  config : Config
  /-- The symbols of foreign binaries. -/
  foreign : SymbolGraph := .empty
  hasBuiltins : Bool := false
  synthesis : Option SynthesisReport := none
  diagnostics : Diagnostics := {}

namespace Session

def create (config : Config) (d : Disk) : Except CompilationError Session :=
  match config.fault? d with
  | some cause => .error (.config cause)
  | none => .ok { config }

/-- The layers of symbols: a program sees the foreign symbols and then the built-in ones, the
standard library only the built-in ones. -/
def layers (s : Session) : List SymbolSource :=
  (if s.config.mode == .program then [s.foreign.source] else []) ++
    (if s.hasBuiltins then [Builtins.graph.source] else [])

def symbols (s : Session) : SymbolSource := .layered s.layers

def skippedText (t : SkippedType) : String :=
  "skipped " ++ t.typeName ++ " from " ++ t.assembly ++ ": " ++ t.reason.message

def setForeign (s : Session) (assemblies : List Metadata.Assembly) : Session :=
  let result := synthesize assemblies
  { s with foreign := result.graph, synthesis := some result.report }

/-- Takes the symbols of foreign assemblies and reports the types that are left out for a fault. -/
def addForeign (s : Session) (assemblies : List Metadata.Assembly) : Session :=
  let next := s.setForeign assemblies
  let skipped := (next.synthesis.map SynthesisReport.anomalies).getD []
  { next with
    diagnostics := next.diagnostics.reportAll .warning .synthesis (skipped.map skippedText) }

def needsBinaries (s : Session) : Bool := s.config.usesMetadata && !s.config.binaries.isEmpty

def withBuiltins (s : Session) : Session :=
  { s with hasBuiltins := s.hasBuiltins || s.config.usesBuiltins }

def loadSymbols (s : Session) (invoke : Backend σ) (d : Disk) (backend : σ) :
    Except CompilationError Unit × Session × Disk × σ :=
  let s := s.withBuiltins
  if !s.needsBinaries then (.ok (), s, d, backend)
  else
    let directory := if s.config.useCache then some s.config.effectiveCache else none
    match Resolver.create d s.config.binaries directory with
    | .error cause => (.error (.metadata cause), s, d, backend)
    | .ok (resolver, disk) =>
      match Resolution.resolveAll invoke { resolver, disk, backend } with
      | (.error cause, r) =>
        let diagnostics := s.diagnostics.error .metadata cause.message
        (.error (.metadata cause), { s with diagnostics }, r.disk, r.backend)
      | (.ok assemblies, r) => (.ok (), s.addForeign assemblies.values, r.disk, r.backend)

def noResolver : Backend σ := fun _ _ target backend =>
  (.error (.failed target none "no metadata resolver configured"), backend)

/-- The backend of a session, given what runs the program at a path. -/
def backend (s : Session) (run : Path → Backend σ) : Backend σ :=
  match s.config.resolver with
  | some program => if s.config.usesMetadata then run program else noResolver
  | none => noResolver

def unknownPlaceholderText (id : ClassId) : String :=
  "no built-in declaration for placeholder " ++ id.text

/-- Replaces the placeholders of a module, unless there is no standard library. -/
def actualize (s : Session) (m : SourceModule) : Actualization × Session :=
  if s.config.noStandardLibrary then
    ({ module := m, actualized := [], unknown := [], substituted := 0 }, s)
  else
    let result := m.actualize Builtins.graph
    let messages := result.unknown.map unknownPlaceholderText
    (result, { s with
      hasBuiltins := true
      diagnostics := s.diagnostics.reportAll .warning .frontend messages })

end Session

end KotlinBackend
