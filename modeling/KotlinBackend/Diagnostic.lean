/-!
# Diagnostics

What a compilation has to tell about the program and its surroundings. Diagnostics are kept in the
order in which they were reported.
-/

namespace KotlinBackend

inductive Severity where
  | error
  | warning
  | info
  deriving DecidableEq, Repr

def Severity.word : Severity → String
  | error => "error"
  | warning => "warning"
  | info => "info"

inductive Reporter where
  | configuration
  | metadata
  | synthesis
  | frontend
  | lowering
  | codeGenerator
  | writer
  deriving DecidableEq, Repr

def Reporter.words : List (String × Reporter) :=
  [("Configuration", configuration), ("Metadata", metadata), ("Synthesis", synthesis),
    ("Frontend", frontend), ("Lowering", lowering), ("CodeGenerator", codeGenerator),
    ("Writer", writer)]

def Reporter.word : Reporter → String
  | configuration => "Configuration"
  | metadata => "Metadata"
  | synthesis => "Synthesis"
  | frontend => "Frontend"
  | lowering => "Lowering"
  | codeGenerator => "CodeGenerator"
  | writer => "Writer"

structure Diagnostic where
  severity : Severity
  reporter : Reporter
  message : String
  deriving DecidableEq, Repr

def Diagnostic.isError (d : Diagnostic) : Bool := d.severity == .error

def Diagnostic.text (d : Diagnostic) : String :=
  d.severity.word ++ "[" ++ d.reporter.word ++ "]: " ++ d.message

structure Diagnostics where
  entries : List Diagnostic := []
  deriving DecidableEq, Repr, Inhabited

namespace Diagnostics

def report (ds : Diagnostics) (severity : Severity) (reporter : Reporter) (message : String) :
    Diagnostics :=
  ⟨ds.entries ++ [⟨severity, reporter, message⟩]⟩

def error (ds : Diagnostics) (reporter : Reporter) (message : String) : Diagnostics :=
  ds.report .error reporter message

def warning (ds : Diagnostics) (reporter : Reporter) (message : String) : Diagnostics :=
  ds.report .warning reporter message

def info (ds : Diagnostics) (reporter : Reporter) (message : String) : Diagnostics :=
  ds.report .info reporter message

/-- Reports the same kind of thing for several messages. -/
def reportAll (ds : Diagnostics) (severity : Severity) (reporter : Reporter)
    (messages : List String) : Diagnostics :=
  messages.foldl (·.report severity reporter ·) ds

def hasErrors (ds : Diagnostics) : Bool := ds.entries.any Diagnostic.isError

def errorCount (ds : Diagnostics) : Nat := ds.entries.countP Diagnostic.isError

/-- What was reported after the first few entries. -/
def since (ds : Diagnostics) (mark : Nat) : List Diagnostic := ds.entries.drop mark

def texts (ds : Diagnostics) : List String := ds.entries.map Diagnostic.text

end Diagnostics

end KotlinBackend
