import KotlinBackend.Storage.Disk
import KotlinBackend.Text.Blank

/-!
# Configurations

What a compilation is asked to do. A configuration is checked before it is used, and a second one
can be laid over it: what the second leaves at its default is taken from the first.
-/

namespace KotlinBackend

/-- What is compiled: a program, or the standard library itself. -/
inductive Mode where
  | program
  | standardLibrary
  deriving DecidableEq, Repr, Inhabited

namespace Mode

def words : List (String × Mode) := [("program", program), ("stdlib", standardLibrary)]

def word : Mode → String
  | program => "program"
  | standardLibrary => "stdlib"

end Mode

structure Config where
  moduleName : String := "main"
  /-- The files that hold the program. -/
  inputs : List Path := []
  /-- The directory for the output. -/
  destination : Path := ⟨"out"⟩
  /-- The foreign binaries that the program may use. -/
  binaries : List Path := []
  runtimeHome : Option Path := none
  /-- The program that describes foreign binaries. -/
  resolver : Option Path := none
  cacheDirectory : Option Path := none
  useCache : Bool := true
  noStandardLibrary : Bool := false
  noRuntimeSupport : Bool := false
  mode : Mode := .program
  /-- Whether listings of the program are written beside the output. -/
  emitDumps : Bool := false
  deriving DecidableEq, Repr, Inhabited

inductive ConfigError where
  | storage (path : Path) (cause : StorageError)
  | malformed (path : Path) (fault : String)
  | invalid (field reason : String)
  deriving DecidableEq, Repr

def ConfigError.message : ConfigError → String
  | storage path cause => "I/O error for " ++ path.quoted ++ ": " ++ cause.message
  | malformed path fault => "Parse error for " ++ path.quoted ++ ": " ++ fault
  | invalid field reason => "Invalid configuration for " ++ field ++ ": " ++ reason

namespace Config

/-- The cache directory; without one in the configuration, a directory of the destination. -/
def effectiveCache (c : Config) : Path :=
  c.cacheDirectory.getD (c.destination.join ⟨".sharpen-cache"⟩)

/-- Foreign binaries are described for programs with runtime support only. -/
def usesMetadata (c : Config) : Bool := c.mode == .program && !c.noRuntimeSupport

def usesBuiltins (c : Config) : Bool := c.mode == .standardLibrary || !c.noStandardLibrary

def fault? (c : Config) (d : Disk) : Option ConfigError :=
  if Text.isBlankText c.moduleName then
    some (.invalid "module_name" "Module name must not be empty")
  else if c.destination.isEmpty then
    some (.invalid "destination" "Destination directory is required")
  else if c.mode == .standardLibrary && c.noStandardLibrary then
    some (.invalid "no_stdlib" "Cannot compile the standard library with no_stdlib set")
  else if c.usesMetadata && !c.binaries.isEmpty && c.resolver.isNone then
    some (.invalid "resolver" "A metadata resolver is required to load foreign binaries")
  else match c.runtimeHome with
    | none => none
    | some home =>
      if d.isDirectory home then none
      else some (.invalid "runtime_home"
        ("Runtime reference home " ++ home.quoted ++ " is not a directory"))

def validate (c : Config) (d : Disk) : Except ConfigError Unit :=
  match c.fault? d with
  | some e => .error e
  | none => .ok ()

def addPath (paths : List Path) (p : Path) : List Path :=
  if paths.any (·.same p) then paths else paths ++ [p]

def addPaths (paths added : List Path) : List Path := added.foldl addPath paths

def merge (base other : Config) : Config :=
  let standard : Config := {}
  { moduleName :=
      if other.moduleName == standard.moduleName then base.moduleName else other.moduleName
    inputs := addPaths base.inputs other.inputs
    destination :=
      if other.destination.same standard.destination then base.destination else other.destination
    binaries := addPaths base.binaries other.binaries
    runtimeHome := other.runtimeHome <|> base.runtimeHome
    resolver := other.resolver <|> base.resolver
    cacheDirectory := other.cacheDirectory <|> base.cacheDirectory
    useCache := base.useCache && other.useCache
    noStandardLibrary := base.noStandardLibrary || other.noStandardLibrary
    noRuntimeSupport := base.noRuntimeSupport || other.noRuntimeSupport
    mode := if other.mode == standard.mode then base.mode else other.mode
    emitDumps := base.emitDumps || other.emitDumps }

end Config

end KotlinBackend
