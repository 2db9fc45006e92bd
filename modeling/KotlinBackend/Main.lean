import KotlinBackend.Command

/-!
# The command line

The files that a command looks at are taken from the system, the command is carried out on them, and
what has changed is written back. Programs are not run from here, so foreign binaries are known by
their kept replies only.
-/

namespace KotlinBackend.Main

open Metadata (Backend)

def noPrograms (program : Path) : Backend Unit := fun _ _ _ state =>
  (.error (.notStarted program .notPermitted), state)

def putDirectory (d : Disk) (p : Path) : Disk := (d.makePath p).toOption.getD d

def putFile (d : Disk) (p : Path) (content : String) : Disk :=
  let made := (d.makeDirectories (p.components.reverse.drop 1)).toOption.getD d
  (made.write p content).toOption.getD made

/-- Takes what is at a path from the system; nothing is taken if it cannot be read. -/
def importPath (d : Disk) (p : Path) : IO Disk := do
  try
    let found ← IO.FS.realPath p.text
    if ← found.isDir then return putDirectory d p
    else return putFile d p (← IO.FS.readFile found)
  catch _ => return d

def locationText : Location → String
  | "/" :: names => "/" ++ "/".intercalate names
  | names => "/".intercalate names

def exportEntry (location : Location) : DiskEntry → IO Unit
  | .directory => IO.FS.createDirAll (locationText location)
  | .file content => IO.FS.writeFile (locationText location) content

/-- Writes the entries that a disk has and an earlier one had not. -/
def exportChanges (before after : Disk) : IO Unit :=
  after.entries.entries.forM fun (location, entry) => do
    if before.entries.get? location != some entry then exportEntry location entry

def run (command : Command) : IO UInt32 := do
  let d ← command.firstPaths.foldlM importPath .empty
  let d ← (command.laterPaths d).foldlM importPath d
  let outcome := command.execute noPrograms d
  exportChanges d outcome.disk
  outcome.output.forM fun line => IO.println line
  outcome.notices.forM fun line => IO.eprintln line
  return if outcome.succeeded then 0 else 1

end KotlinBackend.Main

def main (arguments : List String) : IO UInt32 :=
  match KotlinBackend.Command.parse arguments with
  | .ok command => KotlinBackend.Main.run command
  | .error message => do
    IO.eprintln ("error: " ++ message)
    return 2
