import KotlinBackend.Metadata.Decoding
import KotlinBackend.Storage.Disk

/-!
# Kept replies

The reply for a binary is kept in a file of a cache directory, named after the binary and holding
the reply exactly as it was given. A file that holds no assembly counts as absent.
-/

namespace KotlinBackend.Metadata

inductive ResolutionError where
  | notStarted (program : Path) (cause : StorageError)
  | failed (binary : Path) (status : Option Int) (output : String)
  | undecodable (binary : Path) (fault raw : String)
  | storage (path : Path) (cause : StorageError)
  deriving DecidableEq, Repr

def statusText : Option Int → String
  | some status => "Some(" ++ toString status ++ ")"
  | none => "None"

def ResolutionError.message : ResolutionError → String
  | notStarted program cause =>
    "failed to start metadata resolver " ++ program.quoted ++ ": " ++ cause.message
  | failed binary status output =>
    "metadata resolver failed for " ++ binary.quoted ++ " (exit code " ++ statusText status ++
      "): " ++ output
  | undecodable binary fault raw =>
    "cannot decode resolver output for " ++ binary.quoted ++ ": " ++ fault ++
      "\n--- resolver output ---\n" ++ raw
  | storage path cause => "I/O error for " ++ path.quoted ++ ": " ++ cause.message

def decodeReply (binary : Path) (raw : String) : Except ResolutionError Assembly :=
  match Json.decodeText Assembly.decode raw with
  | .ok assembly => .ok assembly
  | .error fault => .error (.undecodable binary fault raw)

structure Cache where
  directory : Path

namespace Cache

/-- The cache in a directory, which is made if it is absent. -/
def create (d : Disk) (directory : Path) : Except ResolutionError (Cache × Disk) :=
  match d.makePath directory with
  | .ok made => .ok (⟨directory⟩, made)
  | .error cause => .error (.storage directory cause)

/-- The name of the file for a binary: that of the binary, or for a path without a name its whole
text without separators. -/
def entryName (binary : Path) : String :=
  let name := match binary.fileName? with
    | some name => name
    | none => binary.text.map fun c => if c = '/' ∨ c = '\\' then '_' else c
  name ++ ".resolved"

def entryPath (c : Cache) (binary : Path) : Path := c.directory.join ⟨entryName binary⟩

def load (c : Cache) (d : Disk) (binary : Path) : Option Assembly := do
  let raw ← (d.read (c.entryPath binary)).toOption
  (decodeReply binary raw).toOption

def store (c : Cache) (d : Disk) (binary : Path) (raw : String) : Except ResolutionError Disk :=
  match d.write (c.entryPath binary) raw with
  | .ok written => .ok written
  | .error cause => .error (.storage (c.entryPath binary) cause)

def clear (c : Cache) (d : Disk) (binary : Path) : Except ResolutionError Disk :=
  if d.contains (c.entryPath binary) then
    match d.remove (c.entryPath binary) with
    | .ok removed => .ok removed
    | .error cause => .error (.storage (c.entryPath binary) cause)
  else .ok d

end Cache

end KotlinBackend.Metadata
