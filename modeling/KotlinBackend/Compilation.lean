import KotlinBackend.Lowering
import KotlinBackend.Output.Declaration
import KotlinBackend.Output.Layout
import KotlinBackend.Output.Tagged
import KotlinBackend.Program.Decoding
import KotlinBackend.Program.Listing
import KotlinBackend.Reference
import KotlinBackend.Session

/-!
# Compilations

A compilation reads the files of a program, brings it into shape and writes the generated code to
the destination. Nothing is generated when errors were reported before.
-/

namespace KotlinBackend

open Metadata (Backend)

/-- What a compilation leaves behind. -/
structure CompilationResult where
  /-- The written files in order, with their contents. -/
  files : List (Path × String) := []
  diagnostics : Diagnostics := {}
  synthesizedClasses : Nat := 0
  skippedTypes : Nat := 0
  passNames : List String := []

namespace CompilationResult

def content? (r : CompilationResult) (name : String) : Option String :=
  (r.files.find? fun (path, _) => path.fileName? == some name).map (·.2)

def outputSize (r : CompilationResult) : Nat := total (r.files.map (·.2.utf8ByteSize))

end CompilationResult

def codeExtension : String := ".cs"

def readInput (d : Disk) (input : Path) : Except CompilationError (List SourceFile) :=
  match d.read input with
  | .error cause => .error (.unreadable input cause)
  | .ok text =>
    match Json.decodeText SourceModule.decode text with
    | .ok part => .ok part.files
    | .error fault => .error (.malformed input fault)

/-- The module of a configuration: the files of all its inputs. -/
def readProgram (d : Disk) (config : Config) : Except CompilationError SourceModule := do
  let files ← config.inputs.mapM (readInput d)
  .ok { name := config.moduleName, files := files.flatten }

/-- The files whose output would replace that of an earlier one. Each is paired with the last file
of its stem before it. -/
def collisions (seen : List SourceFile) : List SourceFile → List (SourceFile × SourceFile)
  | [] => []
  | file :: rest =>
    let earlier := (seen.find? fun other => other.stem == file.stem).toList
    earlier.map (·, file) ++ collisions (file :: seen) rest

def collisionText (first second : SourceFile) : String :=
  first.name ++ " and " ++ second.name ++ " both compile to " ++ second.stem ++ codeExtension

namespace Session

def readProgram (s : Session) (d : Disk) : Except CompilationError (SourceModule × Session) := do
  let m ← KotlinBackend.readProgram d s.config
  let unresolved := (m.unresolved s.symbols).map UnresolvedReference.message
  let colliding := (collisions [] m.files).map fun (first, second) => collisionText first second
  let diagnostics := (s.diagnostics.reportAll .error .frontend unresolved).reportAll
    .error .writer colliding
  .ok (m, { s with diagnostics })

end Session

/-- The listing of the last file of a stem. -/
def listingOf? (files : List SourceFile) (stem : String) : Option String :=
  (files.reverse.find? (·.stem == stem)).map fun f => f.listing.text

/-- The output for a file: its code and, on request, listings of the file before and after lowering
and of the tree of its code. -/
def outputsOf (dumps : Bool) (before : List SourceFile) (file : SourceFile)
    (generated : Output.GeneratedFile) : List (String × String) :=
  let stem := generated.stem
  let listings :=
    (listingOf? before stem).toList.map (stem ++ ".pre.ir.txt", ·) ++
      [(stem ++ ".post.ir.txt", file.listing.text),
        (stem ++ ".tree.xml", generated.code.taggedLayout)]
  (stem ++ codeExtension, generated.code.layout Output.standardIndent) ::
    if dumps then listings else []

def outputsFor (dumps : Bool) (symbols : SymbolSource) (before lowered : SourceModule) :
    Tally (List (String × String)) :=
  (fun generated => (lowered.files.zip generated).flatMap fun (file, code) =>
    outputsOf dumps before.files file code) <$> Output.generate symbols lowered

def unsupportedText (count : Nat) : String :=
  toString count ++ " unsupported IR shape(s) rendered as markers"

structure Writing where
  disk : Disk
  diagnostics : Diagnostics
  written : List (Path × String) := []

def Writing.add (directory : Path) (w : Writing) (output : String × String) : Writing :=
  let path := directory.join ⟨output.1⟩
  match w.disk.write path output.2 with
  | .ok disk => { w with disk, written := w.written ++ [(path, output.2)] }
  | .error cause =>
    { w with
      diagnostics := w.diagnostics.error .writer (CompilationError.unreadable path cause).message }

/-- Writes files to a directory, which is made if it is absent. -/
def writeOutputs (directory : Path) (outputs : List (String × String)) (w : Writing) : Writing :=
  match w.disk.makePath directory with
  | .ok disk => outputs.foldl (Writing.add directory) { w with disk }
  | .error cause =>
    { w with
      diagnostics := w.diagnostics.error .writer
        ("Failed to create directory " ++ directory.text ++ ": " ++ cause.message) }

def Session.generate (s : Session) (m : SourceModule) (d : Disk) : CompilationResult × Disk :=
  let (actualized, s) := s.actualize m
  let m := actualized.module
  let lowered := (Pipeline.standard.run (.ofModule s.symbols.contains m) m).module
  let outputs := outputsFor s.config.emitDumps s.symbols m lowered
  let diagnostics :=
    if 0 < outputs.count then s.diagnostics.warning .codeGenerator (unsupportedText outputs.count)
    else s.diagnostics
  let w := writeOutputs s.config.destination outputs.value { disk := d, diagnostics }
  ({ files := w.written
     diagnostics := w.diagnostics
     passNames := Pipeline.standard.passNames }, w.disk)

/-- Compiles what a configuration asks for, given what runs the program at a path. -/
def compile (run : Path → Backend σ) (config : Config) (d : Disk) (backend : σ) :
    Except CompilationError CompilationResult × Disk × σ :=
  match Session.create config d with
  | .error e => (.error e, d, backend)
  | .ok s =>
    match s.loadSymbols (s.backend run) d backend with
    | (.error e, _, d, backend) => (.error e, d, backend)
    | (.ok (), s, d, backend) =>
      match s.readProgram d with
      | .error e => (.error e, d, backend)
      | .ok (m, s) =>
        let (result, d) :=
          if s.diagnostics.hasErrors then ({ diagnostics := s.diagnostics }, d)
          else s.generate m d
        (.ok { result with
            synthesizedClasses := (s.synthesis.map (·.classes)).getD 0
            skippedTypes := (s.synthesis.map (·.skipped.length)).getD 0 }, d, backend)

end KotlinBackend
