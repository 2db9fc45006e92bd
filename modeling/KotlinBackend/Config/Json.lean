import KotlinBackend.Config.Basic
import KotlinBackend.Json.Decoder

/-!
# Configurations as JSON
-/

namespace KotlinBackend

open Json (Decoder decodeString decodeBool decodeMembers decodeNamed defaulted optional listed flag
  ofList ofOption)

def Path.toJson (p : Path) : Json := .string p.text

def Path.decode : Decoder Path := fun value => do
  let text ← decodeString value
  .ok ⟨text⟩

def Mode.decode : Decoder Mode := decodeNamed Mode.words

def Config.toJson (c : Config) : Json :=
  .object [("module_name", .string c.moduleName), ("inputs", ofList Path.toJson c.inputs),
    ("destination", c.destination.toJson), ("binary_paths", ofList Path.toJson c.binaries),
    ("runtime_home", ofOption Path.toJson c.runtimeHome),
    ("resolver", ofOption Path.toJson c.resolver),
    ("cache_dir", ofOption Path.toJson c.cacheDirectory), ("use_cache", .bool c.useCache),
    ("no_stdlib", .bool c.noStandardLibrary), ("no_runtime_support", .bool c.noRuntimeSupport),
    ("mode", .string c.mode.word), ("emit_dumps", .bool c.emitDumps)]

/-- A configuration; members that are absent keep their defaults. -/
def Config.decode : Decoder Config := fun value => do
  let members ← decodeMembers "a configuration" value
  let moduleName ← defaulted members "module_name" "main" decodeString
  let inputs ← listed members "inputs" Path.decode
  let destination ← defaulted members "destination" ⟨"out"⟩ Path.decode
  let binaries ← listed members "binary_paths" Path.decode
  let runtimeHome ← optional members "runtime_home" Path.decode
  let resolver ← optional members "resolver" Path.decode
  let cacheDirectory ← optional members "cache_dir" Path.decode
  let useCache ← defaulted members "use_cache" true decodeBool
  let noStandardLibrary ← flag members "no_stdlib"
  let noRuntimeSupport ← flag members "no_runtime_support"
  let mode ← defaulted members "mode" .program Mode.decode
  let emitDumps ← flag members "emit_dumps"
  .ok { moduleName, inputs, destination, binaries, runtimeHome, resolver, cacheDirectory, useCache,
        noStandardLibrary, noRuntimeSupport, mode, emitDumps }

end KotlinBackend
