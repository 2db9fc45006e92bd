import KotlinBackend.Data.OrderedMap
import KotlinBackend.Storage.Path

/-!
# Files and directories

A disk is a value: reading looks into it and writing gives a new one. Paths are walked from the
current directory or from the root, and every directory on the way has to exist. A location is named
by the steps that lead to it from the current directory.
-/

namespace KotlinBackend

/-- Why an operation on files fails, or why the program in a file cannot be started. -/
inductive StorageError where
  | notFound
  | notPermitted
  | alreadyExists
  | notDirectory
  | isDirectory
  | nameTooLong
  | badName
  | badArgument
  deriving DecidableEq, Repr, Inhabited

def StorageError.message : StorageError → String
  | notFound => "No such file or directory (os error 2)"
  | notPermitted => "Permission denied (os error 13)"
  | alreadyExists => "File exists (os error 17)"
  | notDirectory => "Not a directory (os error 20)"
  | isDirectory => "Is a directory (os error 21)"
  | nameTooLong => "File name too long (os error 36)"
  | badName => "file name contained an unexpected NUL byte"
  | badArgument => "nul byte found in provided data"

inductive DiskEntry where
  | file (content : String)
  | directory
  deriving DecidableEq, Repr, Inhabited

/-- The names that lead from the current directory to a location. Steps above the current directory
stand in front, and a location below the root starts with a slash. -/
abbrev Location := List String

structure Disk where
  entries : OrderedMap Location DiskEntry := ∅

namespace Disk

def empty : Disk := {}

def nameLimit : Nat := 255

/-- The least number of bytes that a path may not have. -/
def pathLimit : Nat := 4096

/-- What is at a location. The current directory, those around it and the root are always there. -/
def entryAt? (d : Disk) (location : Location) : Option DiskEntry :=
  if location.all (· == "..") || location == ["/"] then some .directory else d.entries.get? location

def above (location : Location) : Location :=
  if location == ["/"] then location
  else match location.getLast? with
    | none | some ".." => location ++ [".."]
    | some _ => location.dropLast

def takeStep (location : Location) : Path.Component → Except StorageError Location
  | .root => .ok ["/"]
  | .here => .ok location
  | .up => .ok (above location)
  | .name text =>
    if nameLimit < text.utf8ByteSize then .error .nameTooLong else .ok (location ++ [text])

/-- The location that steps lead to. All locations before the last one have to be directories. -/
def walk (d : Disk) (location : Location) : List Path.Component → Except StorageError Location
  | [] => .ok location
  | step :: rest =>
    match d.entryAt? location with
    | none => .error .notFound
    | some (.file _) => .error .notDirectory
    | some .directory => do
      let next ← takeStep location step
      d.walk next rest

def locate (d : Disk) (p : Path) : Except StorageError Location :=
  if p.text.toList.contains '\x00' then .error .badName
  else if p.isEmpty then .error .notFound
  else if pathLimit ≤ p.text.utf8ByteSize then .error .nameTooLong
  else d.walk [] p.steps

def entry? (d : Disk) (p : Path) : Option DiskEntry :=
  match d.locate p with
  | .error _ => none
  | .ok location =>
    match d.entryAt? location with
    | some (.file content) => if p.endsInSlash then none else some (.file content)
    | other => other

def contains (d : Disk) (p : Path) : Bool := (d.entry? p).isSome

def isDirectory (d : Disk) (p : Path) : Bool := d.entry? p == some .directory

def read (d : Disk) (p : Path) : Except StorageError String := do
  let location ← d.locate p
  match d.entryAt? location with
  | none => .error .notFound
  | some .directory => .error .isDirectory
  | some (.file content) => if p.endsInSlash then .error .notDirectory else .ok content

/-- Gives a file its content; an absent file is made. -/
def write (d : Disk) (p : Path) (content : String) : Except StorageError Disk := do
  let location ← d.locate p
  if p.endsInSlash || d.entryAt? location == some .directory then .error .isDirectory
  else .ok ⟨d.entries.insert location (.file content)⟩

def remove (d : Disk) (p : Path) : Except StorageError Disk := do
  let location ← d.locate p
  match d.entryAt? location with
  | none => .error .notFound
  | some .directory => .error .isDirectory
  | some (.file _) =>
    if p.endsInSlash then .error .notDirectory else .ok ⟨d.entries.erase location⟩

def makeDirectory (d : Disk) (steps : List Path.Component) : Except StorageError Disk := do
  let location ← d.walk [] steps
  match d.entryAt? location with
  | some _ => .error .alreadyExists
  | none => .ok ⟨d.entries.insert location .directory⟩

def leadsToDirectory (d : Disk) (steps : List Path.Component) : Bool :=
  match d.walk [] steps with
  | .ok location => d.entryAt? location == some .directory
  | .error _ => false

def ensureDirectory (d : Disk) (steps : List Path.Component) : Except StorageError Disk :=
  match d.makeDirectory steps with
  | .ok made => .ok made
  | .error e => if d.leadsToDirectory steps then .ok d else .error e

/-- Makes a directory with the directories on the way to it, given by its steps from the last to the
first. It may exist already. -/
def makeDirectories (d : Disk) : List Path.Component → Except StorageError Disk
  | [] => .ok d
  | last :: before =>
    let steps := (last :: before).reverse
    match d.makeDirectory steps with
    | .error .notFound => do
      let d ← d.makeDirectories before
      d.ensureDirectory steps
    | _ => d.ensureDirectory steps

/-- Makes the directory of a path and the directories on the way to it. The directory itself is made
by the steps as they are spelled, so a dot at the end asks for a directory that is there before. -/
def makePath (d : Disk) (p : Path) : Except StorageError Disk :=
  if p.text.toList.contains '\x00' then .error .badName
  else if pathLimit ≤ p.text.utf8ByteSize then .error .nameTooLong
  else match d.makeDirectory p.steps with
    | .error .notFound => do
      let d ← d.makeDirectories (p.components.reverse.drop 1)
      d.ensureDirectory p.steps
    | _ => d.ensureDirectory p.steps

end Disk

end KotlinBackend
