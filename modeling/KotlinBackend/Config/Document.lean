import KotlinBackend.Config.Basic
import KotlinBackend.Toml.Reader

/-!
# Configuration files

A configuration is written as a TOML document with one line for each setting, except for lists of
several paths. Reading takes the settings it knows and ignores the rest.
-/

namespace KotlinBackend

open Toml (Value)

namespace Config

/-- A list of texts: on one line if there is at most one, else on a line for each. -/
def quoteList : List String → String
  | [] => "[]"
  | [item] => "[" ++ Toml.quote item ++ "]"
  | items => "[\n" ++ String.join (items.map fun item => "    " ++ Toml.quote item ++ ",\n") ++ "]"

def truthWord (b : Bool) : String := if b then "true" else "false"

/-- The settings with their values as they are written. Settings without a value are left out. -/
def settings (c : Config) : List (String × String) :=
  let path (name : String) (p : Option Path) : List (String × String) :=
    p.toList.map fun p => (name, Toml.quote p.text)
  [("module_name", Toml.quote c.moduleName), ("inputs", quoteList (c.inputs.map (·.text))),
    ("destination", Toml.quote c.destination.text),
    ("binary_paths", quoteList (c.binaries.map (·.text)))] ++
  path "runtime_home" c.runtimeHome ++ path "resolver" c.resolver ++
  path "cache_dir" c.cacheDirectory ++
  [("use_cache", truthWord c.useCache), ("no_stdlib", truthWord c.noStandardLibrary),
    ("no_runtime_support", truthWord c.noRuntimeSupport), ("mode", Toml.quote c.mode.word),
    ("emit_dumps", truthWord c.emitDumps)]

def document (c : Config) : String :=
  String.join (c.settings.map fun (name, value) => name ++ " = " ++ value ++ "\n")

def wrongKind (name expected : String) : Except String α :=
  .error ("setting " ++ name ++ " takes " ++ expected)

def textSetting (name : String) : Value → Except String String
  | .text content => .ok content
  | _ => wrongKind name "a text"

def truthSetting (name : String) : Value → Except String Bool
  | .truth b => .ok b
  | _ => wrongKind name "true or false"

def pathSetting (name : String) (value : Value) : Except String Path := do
  let text ← textSetting name value
  .ok ⟨text⟩

def pathsSetting (name : String) : Value → Except String (List Path)
  | .list items => items.mapM (pathSetting name)
  | _ => wrongKind name "a list of texts"

/-- A mode is named by a text, or by the only key of a table that holds an empty table there. -/
def modeSetting (name : String) (value : Value) : Except String Mode := do
  let word ← match value with
    | .table [(word, .table [])] => .ok word
    | value => textSetting name value
  match Mode.words.lookup word with
  | some mode => .ok mode
  | none => wrongKind name "the name of a mode"

def setting (table : List (String × Value)) (name : String) (absent : α)
    (read : String → Value → Except String α) : Except String α :=
  match table.lookup name with
  | some value => read name value
  | none => .ok absent

def ofTable (table : List (String × Value)) : Except String Config := do
  let standard : Config := {}
  let optionalPath (name : String) (value : Value) := some <$> pathSetting name value
  let moduleName ← setting table "module_name" standard.moduleName textSetting
  let inputs ← setting table "inputs" [] pathsSetting
  let destination ← setting table "destination" standard.destination pathSetting
  let binaries ← setting table "binary_paths" [] pathsSetting
  let runtimeHome ← setting table "runtime_home" none optionalPath
  let resolver ← setting table "resolver" none optionalPath
  let cacheDirectory ← setting table "cache_dir" none optionalPath
  let useCache ← setting table "use_cache" standard.useCache truthSetting
  let noStandardLibrary ← setting table "no_stdlib" false truthSetting
  let noRuntimeSupport ← setting table "no_runtime_support" false truthSetting
  let mode ← setting table "mode" standard.mode modeSetting
  let emitDumps ← setting table "emit_dumps" false truthSetting
  .ok { moduleName, inputs, destination, binaries, runtimeHome, resolver, cacheDirectory, useCache,
        noStandardLibrary, noRuntimeSupport, mode, emitDumps }

def parse (text : String) : Except String Config :=
  match Toml.parse text with
  | .ok table => ofTable table
  | .error fault => .error fault.message

def load (d : Disk) (path : Path) : Except ConfigError Config :=
  match d.read path with
  | .error cause => .error (.storage path cause)
  | .ok text =>
    match parse text with
    | .ok config => .ok config
    | .error fault => .error (.malformed path fault)

def makeParent (d : Disk) (path : Path) : Except ConfigError Disk :=
  match path.parent? with
  | none => .ok d
  | some parent =>
    match d.makePath parent with
    | .ok made => .ok made
    | .error cause => .error (.storage parent cause)

/-- Writes a configuration to a file, whose directory is made if it is absent. -/
def save (c : Config) (d : Disk) (path : Path) : Except ConfigError Disk := do
  let made ← makeParent d path
  match made.write path c.document with
  | .ok written => .ok written
  | .error cause => .error (.storage path cause)

end Config

end KotlinBackend
