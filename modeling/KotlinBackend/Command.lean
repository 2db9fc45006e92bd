import KotlinBackend.Compilation
import KotlinBackend.Config.Document
import KotlinBackend.Json.Printer
import KotlinBackend.Metadata.Encoding

/-!
# Commands

What the command line can ask for, and what each command does to a disk. Options may stand anywhere
after the name of the command; a value follows its option as the next argument or after an equals
sign.
-/

namespace KotlinBackend

open Metadata (Cache Backend)

inductive Command where
  | compile (configFile : Option Path) (overrides : Config)
  | resolve (target program : Path) (others : List Path) (cacheDirectory : Option Path)
  | builtins
  | initConfig (output : Path)
  | validateConfig (path : Path)
  deriving DecidableEq, Repr

structure CommandOption where
  name : String
  letter : Option Char := none
  takesValue : Bool := true
  deriving DecidableEq, Repr

def sharedOptions : List CommandOption :=
  [{ name := "verbose", letter := some 'v', takesValue := false },
    { name := "config", letter := some 'c' }]

def compileOptions : List CommandOption :=
  [{ name := "destination", letter := some 'd' }, { name := "module", letter := some 'm' },
    { name := "binary-path" }, { name := "runtime-home" }, { name := "resolver" },
    { name := "cache-dir" }, { name := "no-cache", takesValue := false },
    { name := "no-stdlib", takesValue := false },
    { name := "no-runtime-support", takesValue := false },
    { name := "stdlib-mode", takesValue := false }, { name := "dumps", takesValue := false }]

def resolveOptions : List CommandOption :=
  [{ name := "resolver" }, { name := "binary-path" }, { name := "cache-dir" },
    { name := "no-cache", takesValue := false }]

def initConfigOptions : List CommandOption := [{ name := "output", letter := some 'o' }]

/-- The options and the other arguments of a command line. -/
structure Arguments where
  options : List (String × String) := []
  others : List String := []
  deriving DecidableEq, Repr

namespace Arguments

def addOption (a : Arguments) (name value : String) : Arguments :=
  { a with options := a.options ++ [(name, value)] }

def addOther (a : Arguments) (argument : String) : Arguments :=
  { a with others := a.others ++ [argument] }

/-- An argument as an option, with the value that is written in it. -/
def option? (known : List CommandOption) (argument : String) :
    Option (CommandOption × Option String) :=
  match argument.toList with
  | '-' :: '-' :: rest =>
    match Text.splitFirst '=' rest with
    | some (name, value) =>
      (known.find? (·.name == String.ofList name)).map (·, some (String.ofList value))
    | none => (known.find? (·.name == String.ofList rest)).map (·, none)
  | '-' :: letter :: rest =>
    (known.find? (·.letter == some letter)).map fun found =>
      match rest with
      | [] => (found, none)
      | '=' :: value => (found, some (String.ofList value))
      | value => (found, some (String.ofList value))
  | _ => none

def hasOptionForm (argument : String) : Bool :=
  Text.startsWith "-" argument && argument != "-"

/-- Sorts arguments into options and others. After two dashes there are no options. -/
def read (known : List CommandOption) (a : Arguments) : List String → Except String Arguments
  | [] => .ok a
  | "--" :: rest => .ok { a with others := a.others ++ rest }
  | argument :: rest =>
    match option? known argument, rest with
    | some (found, none), value :: rest =>
      if found.takesValue then read known (a.addOption found.name value) rest
      else read known (a.addOption found.name "") (value :: rest)
    | some (found, none), [] =>
      if found.takesValue then .error ("a value is required for --" ++ found.name)
      else .ok (a.addOption found.name "")
    | some (found, some value), rest =>
      if found.takesValue then read known (a.addOption found.name value) rest
      else .error ("unexpected value for --" ++ found.name)
    | none, rest =>
      if hasOptionForm argument then .error ("unexpected argument " ++ argument)
      else read known (a.addOther argument) rest

def values (a : Arguments) (name : String) : List String :=
  (a.options.filter (·.1 == name)).map (·.2)

def has (a : Arguments) (name : String) : Bool := a.options.any (·.1 == name)

/-- The value of an option that may be given once. -/
def value? (a : Arguments) (name : String) : Except String (Option String) :=
  match a.values name with
  | [] => .ok none
  | [value] => .ok (some value)
  | _ => .error ("--" ++ name ++ " cannot be used multiple times")

def path? (a : Arguments) (name : String) : Except String (Option Path) := do
  let value ← a.value? name
  .ok (value.map Path.mk)

def paths (a : Arguments) (name : String) : List Path := (a.values name).map Path.mk

end Arguments

namespace Command

def overridesOf (a : Arguments) : Except String Config := do
  let standard : Config := {}
  let moduleName ← a.value? "module"
  let destination ← a.path? "destination"
  let runtimeHome ← a.path? "runtime-home"
  let resolver ← a.path? "resolver"
  let cacheDirectory ← a.path? "cache-dir"
  .ok { moduleName := moduleName.getD standard.moduleName
        inputs := a.others.map Path.mk
        destination := destination.getD standard.destination
        binaries := a.paths "binary-path"
        runtimeHome
        resolver
        cacheDirectory
        useCache := !a.has "no-cache"
        noStandardLibrary := a.has "no-stdlib"
        noRuntimeSupport := a.has "no-runtime-support"
        mode := if a.has "stdlib-mode" then .standardLibrary else .program
        emitDumps := a.has "dumps" }

def onlyOther (a : Arguments) (what : String) : Except String String :=
  match a.others with
  | [argument] => .ok argument
  | [] => .error (what ++ " is required")
  | _ :: argument :: _ => .error ("unexpected argument " ++ argument)

def noOther (a : Arguments) : Except String Unit :=
  match a.others with
  | [] => .ok ()
  | argument :: _ => .error ("unexpected argument " ++ argument)

def ofName (name : String) (rest : List String) (start : Arguments) : Except String Command := do
  match name with
  | "compile" =>
    let a ← start.read (sharedOptions ++ compileOptions) rest
    let overrides ← overridesOf a
    let configFile ← a.path? "config"
    .ok (.compile configFile overrides)
  | "resolve" =>
    let a ← start.read (sharedOptions ++ resolveOptions) rest
    let target ← onlyOther a "a binary"
    let program ← a.path? "resolver"
    let directory ← a.path? "cache-dir"
    match program with
    | none => .error "--resolver is required"
    | some program =>
      let kept := if a.has "no-cache" then none else some (directory.getD ⟨".sharpen-cache"⟩)
      .ok (.resolve ⟨target⟩ program (a.paths "binary-path") kept)
  | "builtins" =>
    noOther (← start.read sharedOptions rest)
    .ok .builtins
  | "init-config" =>
    let a ← start.read (sharedOptions ++ initConfigOptions) rest
    noOther a
    let output ← a.path? "output"
    .ok (.initConfig (output.getD ⟨"sharpen.toml"⟩))
  | "validate-config" =>
    let a ← start.read sharedOptions rest
    let path ← onlyOther a "a configuration file"
    .ok (.validateConfig ⟨path⟩)
  | _ => .error ("unrecognized command " ++ name)

/-- The command of a command line. Shared options may stand before the name of the command. -/
def parse (arguments : List String) : Except String Command :=
  go {} arguments
where
  go (start : Arguments) : List String → Except String Command
    | [] => .error "a command is required"
    | argument :: rest =>
      match Arguments.option? sharedOptions argument, rest with
      | some (found, some value), rest => go (start.addOption found.name value) rest
      | some (found, none), value :: rest =>
        if found.takesValue then go (start.addOption found.name value) rest
        else go (start.addOption found.name "") (value :: rest)
      | some _, [] => .error "a command is required"
      | none, rest => ofName argument rest start

end Command

/-- What a command prints, whether it succeeds, and what the disk becomes. -/
structure Outcome where
  output : List String := []
  notices : List String := []
  succeeded : Bool := true
  disk : Disk

namespace Outcome

def failure (d : Disk) (notices : List String) : Outcome :=
  { notices, succeeded := false, disk := d }

end Outcome

namespace Command

/-- The configuration of a compilation: that of the file with the options laid over it. -/
def configOf (d : Disk) (configFile : Option Path) (overrides : Config) :
    Except ConfigError Config := do
  match configFile with
  | none => .ok (({} : Config).merge overrides)
  | some path =>
    let base ← Config.load d path
    .ok (base.merge overrides)

def runCompile (run : Path → Backend Unit) (d : Disk) (configFile : Option Path)
    (overrides : Config) : Outcome :=
  match configOf d configFile overrides with
  | .error e => .failure d [e.message]
  | .ok config =>
    match KotlinBackend.compile run config d () with
    | (.error e, d, _) => .failure d ["compilation aborted", e.message]
    | (.ok result, d, _) =>
      { notices := result.diagnostics.texts
        succeeded := !result.diagnostics.hasErrors
        disk := d }

def runResolve (run : Path → Backend Unit) (d : Disk) (target program : Path)
    (others : List Path) (directory : Option Path) : Outcome :=
  let binaries := Config.addPath others target
  match Metadata.resolveOnce (run program) d () binaries directory target with
  | (.error e, d, _) => .failure d ["resolving " ++ target.text, e.message]
  | (.ok assembly, d, _) => { output := [assembly.toJson.linesText ""], disk := d }

def builtinsText : List String :=
  let g := Builtins.graph
  ["Built-in classes:"] ++
    (g.classes.toList.map fun node =>
      "  " ++ node.kind.word ++ " " ++ node.id.text) ++
    [toString g.classes.size ++ " classes, " ++ toString g.functions.size ++ " functions"]

/-- Carries out a command, given what runs the program at a path. -/
def execute (run : Path → Backend Unit) (d : Disk) : Command → Outcome
  | compile configFile overrides => runCompile run d configFile overrides
  | resolve target program others directory => runResolve run d target program others directory
  | builtins => { output := builtinsText, disk := d }
  | initConfig output =>
    match ({} : Config).save d output with
    | .ok d => { disk := d }
    | .error e => .failure d ["writing " ++ output.text, e.message]
  | validateConfig path =>
    match Config.load d path >>= fun config => config.validate d with
    | .ok () => { disk := d }
    | .error e => .failure d [e.message]

/-- The paths that a command looks at before it knows its configuration. -/
def firstPaths : Command → List Path
  | compile configFile _ => configFile.toList
  | resolve target _ _ directory =>
    directory.toList.flatMap fun directory => [directory, Cache.entryPath ⟨directory⟩ target]
  | builtins => []
  | initConfig output => output.parent?.toList ++ [output]
  | validateConfig path => [path]

/-- The paths that a configuration makes a compilation look at. -/
def configPaths (c : Config) : List Path :=
  c.inputs ++ c.runtimeHome.toList ++ [c.destination, c.effectiveCache] ++
    c.binaries.map (Cache.entryPath ⟨c.effectiveCache⟩)

/-- The paths that a command looks at once its configuration is on the disk. -/
def laterPaths (d : Disk) : Command → List Path
  | compile configFile overrides =>
    match configOf d configFile overrides with
    | .ok config => configPaths config
    | .error _ => []
  | validateConfig path =>
    match Config.load d path with
    | .ok config => config.runtimeHome.toList
    | .error _ => []
  | _ => []

end Command

end KotlinBackend
