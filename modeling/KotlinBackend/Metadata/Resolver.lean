import KotlinBackend.Data.OrderedMap
import KotlinBackend.Metadata.Cache

/-!
# Resolving binaries

A backend describes a binary when it is asked to. A resolver asks it at most once for each binary:
it remembers what it has resolved, and it looks into a cache before it asks. Paths with the same
components are the same binary.
-/

namespace KotlinBackend.Metadata

/-- What answers for a binary, given the files, the search path and the path of the binary. It has a
state of its own. -/
abbrev Backend (σ : Type) := Disk → String → Path → σ → Except ResolutionError String × σ

def joinSearchPath (paths : List Path) : String := ";".intercalate (paths.map (·.text))

structure Resolver where
  binaries : List Path
  cache : Option Cache := none
  resolved : OrderedMap (List Path.Component) Assembly := ∅

def Resolver.searchPath (r : Resolver) : String := joinSearchPath r.binaries

/-- A resolver at work, with the files and the state of the backend. -/
structure Resolution (σ : Type) where
  resolver : Resolver
  disk : Disk
  backend : σ

namespace Resolution

variable {σ : Type}

def remember (s : Resolution σ) (target : Path) (assembly : Assembly) : Resolution σ :=
  { s with
    resolver := { s.resolver with
      resolved := s.resolver.resolved.insert target.components assembly } }

def keep (s : Resolution σ) (target : Path) (raw : String) :
    Except ResolutionError (Resolution σ) :=
  match s.resolver.cache with
  | none => .ok s
  | some cache => do
    let disk ← cache.store s.disk target raw
    .ok { s with disk }

/-- Takes a reply: it is decoded, kept and remembered. -/
def accept (s : Resolution σ) (target : Path) (raw : String) :
    Except ResolutionError (Assembly × Resolution σ) := do
  let assembly ← decodeReply target raw
  let s ← s.keep target raw
  .ok (assembly, s.remember target assembly)

def ask (invoke : Backend σ) (s : Resolution σ) (target : Path) :
    Except ResolutionError Assembly × Resolution σ :=
  let (reply, backend) := invoke s.disk s.resolver.searchPath target s.backend
  let s := { s with backend }
  match reply >>= s.accept target with
  | .ok (assembly, s) => (.ok assembly, s)
  | .error e => (.error e, s)

def resolve (invoke : Backend σ) (s : Resolution σ) (target : Path) :
    Except ResolutionError Assembly × Resolution σ :=
  match s.resolver.resolved.get? target.components with
  | some assembly => (.ok assembly, s)
  | none =>
    match s.resolver.cache.bind (·.load s.disk target) with
    | some assembly => (.ok assembly, s.remember target assembly)
    | none => s.ask invoke target

/-- The assemblies of some binaries, up to the first one that cannot be resolved. -/
def resolveEach (invoke : Backend σ) (s : Resolution σ) :
    List Path → Except ResolutionError (List Assembly) × Resolution σ
  | [] => (.ok [], s)
  | target :: rest =>
    match s.resolve invoke target with
    | (.error e, s) => (.error e, s)
    | (.ok assembly, s) =>
      match s.resolveEach invoke rest with
      | (.error e, s) => (.error e, s)
      | (.ok assemblies, s) => (.ok (assembly :: assemblies), s)

/-- The assemblies of all binaries by their names; of two with one name the later counts, in the
place of the earlier. -/
def resolveAll (invoke : Backend σ) (s : Resolution σ) :
    Except ResolutionError (OrderedMap String Assembly) × Resolution σ :=
  match s.resolveEach invoke s.resolver.binaries with
  | (.error e, s) => (.error e, s)
  | (.ok assemblies, s) => (.ok (.ofList (assemblies.map fun a => (a.name, a))), s)

end Resolution

def Resolver.create (d : Disk) (binaries : List Path) (directory : Option Path) :
    Except ResolutionError (Resolver × Disk) :=
  match directory with
  | none => .ok ({ binaries }, d)
  | some directory => do
    let (cache, d) ← Cache.create d directory
    .ok ({ binaries, cache := some cache }, d)

/-- The assembly of one binary, by a resolver for this purpose alone. -/
def resolveOnce (invoke : Backend σ) (d : Disk) (backend : σ) (binaries : List Path)
    (directory : Option Path) (target : Path) : Except ResolutionError Assembly × Disk × σ :=
  match Resolver.create d binaries directory with
  | .error e => (.error e, d, backend)
  | .ok (resolver, disk) =>
    let (result, s) := Resolution.resolve invoke { resolver, disk, backend } target
    (result, s.disk, s.backend)

end KotlinBackend.Metadata
