import KotlinBackend.Data.Except
import KotlinBackend.Metadata.Resolver

/-!
# What a resolver remembers

A session is a list of requests for one binary or for all of them. Every request is taken apart into
lookups of one binary, each with the state in which it is made, and the lookups of a session form a
run: nothing changes between two of them. What one lookup has found is remembered in every later
state of the run. Nothing is assumed about the backend, which has a state of its own.
-/

namespace KotlinBackend.Metadata

inductive Request where
  | one (target : Path)
  | all

/-- A question for the assembly of one binary, with the state in which it is asked. -/
structure Lookup (σ : Type) where
  state : Resolution σ
  target : Path

namespace Lookup

variable {σ : Type} (invoke : Backend σ) (l : Lookup σ)

def answer : Except ResolutionError Assembly := (l.state.resolve invoke l.target).1

def next : Resolution σ := (l.state.resolve invoke l.target).2

end Lookup

namespace Resolution

variable {σ : Type}

/-- The lookups that are made for some binaries; one that fails is the last. -/
def lookups (invoke : Backend σ) : List Path → Resolution σ → List (Lookup σ)
  | [], _ => []
  | target :: rest, s =>
    ⟨s, target⟩ :: match s.resolve invoke target with
      | (.error _, _) => []
      | (.ok _, s) => lookups invoke rest s

def requestLookups (invoke : Backend σ) (s : Resolution σ) : Request → List (Lookup σ)
  | .one target => [⟨s, target⟩]
  | .all => lookups invoke s.resolver.binaries s

def perform (invoke : Backend σ) (s : Resolution σ) : Request → Resolution σ
  | .one target => (s.resolve invoke target).2
  | .all => (s.resolveAll invoke).2

/-- The lookups of a session. -/
def sessionLookups (invoke : Backend σ) : List Request → Resolution σ → List (Lookup σ)
  | [], _ => []
  | request :: rest, s =>
    s.requestLookups invoke request ++ sessionLookups invoke rest (s.perform invoke request)

/-- A state comes from another by some lookups, one after another. -/
inductive Run (invoke : Backend σ) : Resolution σ → List (Lookup σ) → Resolution σ → Prop
  | done (s : Resolution σ) : Run invoke s [] s
  | look {s s' : Resolution σ} {rest : List (Lookup σ)} (target : Path)
      (h : Run invoke (Lookup.next invoke ⟨s, target⟩) rest s') :
      Run invoke s (⟨s, target⟩ :: rest) s'

section Runs

variable {invoke : Backend σ} {s s' s'' : Resolution σ} {ls ls' : List (Lookup σ)}

theorem Run.append (h : Run invoke s ls s') (h' : Run invoke s' ls' s'') :
    Run invoke s (ls ++ ls') s'' := by
  induction h with
  | done => exact h'
  | look target _ ih => exact .look target (ih h')

theorem run_resolveEach (targets : List Path) (s : Resolution σ) :
    Run invoke s (lookups invoke targets s) (s.resolveEach invoke targets).2 := by
  induction targets generalizing s with
  | nil => exact .done s
  | cons target rest ih =>
    rw [lookups, resolveEach]
    cases hResolve : s.resolve invoke target with
    | mk answer next =>
      have hNext : Lookup.next invoke ⟨s, target⟩ = next := congrArg Prod.snd hResolve
      cases answer with
      | error e =>
        apply Run.look
        rw [hNext]
        exact .done next
      | ok assembly =>
        apply Run.look
        rw [hNext]
        have hRest := ih next
        dsimp only
        cases hEach : next.resolveEach invoke rest with
        | mk answers last =>
          rw [hEach] at hRest
          cases answers <;> exact hRest

theorem run_perform (s : Resolution σ) (request : Request) :
    Run invoke s (s.requestLookups invoke request) (s.perform invoke request) := by
  cases request with
  | one target => exact .look target (.done _)
  | all =>
    have hRun : Run invoke s _ _ := run_resolveEach s.resolver.binaries s
    rw [perform, resolveAll]
    cases hEach : s.resolveEach invoke s.resolver.binaries with
    | mk answers last =>
      rw [hEach] at hRun
      cases answers <;> exact hRun

theorem run_session (requests : List Request) (s : Resolution σ) :
    Run invoke s (sessionLookups invoke requests s) (requests.foldl (perform invoke) s) := by
  induction requests generalizing s with
  | nil => exact .done s
  | cons request rest ih => exact (run_perform s request).append (ih _)

end Runs

/-- The assembly of a binary is known without asking. -/
def Remembers (s : Resolution σ) (target : Path) (assembly : Assembly) : Prop :=
  s.resolver.resolved.get? target.components = some assembly

section Memo

variable {invoke : Backend σ} {s s' : Resolution σ} {target other : Path} {assembly : Assembly}

theorem resolve_of_remembers (h : s.Remembers target assembly) (invoke : Backend σ) :
    s.resolve invoke target = (.ok assembly, s) := by
  rw [resolve, show s.resolver.resolved.get? target.components = some assembly from h]

theorem remembers_remember (s : Resolution σ) (target : Path) (assembly : Assembly) :
    (s.remember target assembly).Remembers target assembly := by
  rw [Remembers, remember, OrderedMap.insert, OrderedMap.get?_alter, if_pos (beq_self_eq_true _)]

theorem Remembers.remember (h : s.Remembers target assembly)
    (hNew : s.resolver.resolved.get? other.components = none) (found : Assembly) :
    (s.remember other found).Remembers target assembly := by
  have hOther : target.components ≠ other.components := by
    intro hEq
    rw [Remembers, hEq, hNew] at h
    cases h
  rw [Remembers, Resolution.remember, OrderedMap.insert, OrderedMap.get?_alter,
    if_neg (by simpa using hOther)]
  exact h

theorem keep_eq_ok {raw : String} (h : s.keep target raw = .ok s') :
    ∃ disk, s' = { s with disk } := by
  rw [keep] at h
  cases hCache : s.resolver.cache with
  | none =>
    rw [hCache] at h
    cases h
    exact ⟨s.disk, rfl⟩
  | some cache =>
    rw [hCache] at h
    obtain ⟨disk, -, hDisk⟩ := bind_eq_ok h
    cases hDisk
    exact ⟨disk, rfl⟩

/-- A reply that is accepted is remembered; only the files can change besides. -/
theorem accept_eq_ok {raw : String} (h : s.accept target raw = .ok (assembly, s')) :
    ∃ disk, s' = { s with disk }.remember target assembly := by
  obtain ⟨found, -, h⟩ := bind_eq_ok h
  obtain ⟨kept, hKeep, h⟩ := bind_eq_ok h
  obtain ⟨disk, rfl⟩ := keep_eq_ok hKeep
  cases h
  exact ⟨disk, rfl⟩

/-- All that a lookup can do: it finds what is remembered and changes nothing, it finds something
new and remembers it, or it fails, and then only the backend is in another state. -/
theorem resolve_cases (invoke : Backend σ) (s : Resolution σ) (target : Path) :
    (∃ assembly, s.Remembers target assembly ∧ s.resolve invoke target = (.ok assembly, s)) ∨
    (s.resolver.resolved.get? target.components = none ∧
      ((∃ assembly disk backend, s.resolve invoke target =
          (.ok assembly, { s with disk, backend }.remember target assembly)) ∨
        ∃ e backend, s.resolve invoke target = (.error e, { s with backend }))) := by
  cases hMemo : s.resolver.resolved.get? target.components with
  | some assembly => exact .inl ⟨assembly, hMemo, resolve_of_remembers hMemo invoke⟩
  | none =>
    refine .inr ⟨rfl, ?_⟩
    rw [resolve, hMemo]
    dsimp only
    cases s.resolver.cache.bind (·.load s.disk target) with
    | some assembly => exact .inl ⟨assembly, s.disk, s.backend, rfl⟩
    | none =>
      dsimp only
      rw [ask]
      obtain ⟨reply, backend⟩ := invoke s.disk s.resolver.searchPath target s.backend
      dsimp only
      cases hAccept : (reply >>= { s with backend }.accept target) with
      | error e => exact .inr ⟨e, backend, rfl⟩
      | ok found =>
        obtain ⟨assembly, s'⟩ := found
        cases reply with
        | error e => cases hAccept
        | ok raw =>
          obtain ⟨disk, rfl⟩ := accept_eq_ok hAccept
          exact .inl ⟨assembly, disk, backend, rfl⟩

theorem Remembers.resolve (h : s.Remembers target assembly) (invoke : Backend σ) (other : Path) :
    (s.resolve invoke other).2.Remembers target assembly := by
  obtain ⟨found, -, hResolve⟩ |
      ⟨hNew, ⟨found, disk, backend, hResolve⟩ | ⟨e, backend, hResolve⟩⟩ :=
    resolve_cases invoke s other
  · rw [hResolve]
    exact h
  · rw [hResolve]
    exact Remembers.remember (s := { s with disk, backend }) h hNew found
  · rw [hResolve]
    exact h

theorem remembers_of_resolve (h : (s.resolve invoke target).1 = .ok assembly) :
    (s.resolve invoke target).2.Remembers target assembly := by
  obtain ⟨found, hFound, hResolve⟩ |
      ⟨-, ⟨found, disk, backend, hResolve⟩ | ⟨e, backend, hResolve⟩⟩ :=
    resolve_cases invoke s target
  · rw [hResolve] at h ⊢
    cases h
    exact hFound
  · rw [hResolve] at h ⊢
    cases h
    exact remembers_remember _ target _
  · rw [hResolve] at h
    cases h

theorem unchanged_of_resolve_error {e : ResolutionError}
    (h : (s.resolve invoke target).1 = .error e) :
    (s.resolve invoke target).2.resolver = s.resolver ∧
      (s.resolve invoke target).2.disk = s.disk := by
  obtain ⟨found, -, hResolve⟩ |
      ⟨-, ⟨found, disk, backend, hResolve⟩ | ⟨_, backend, hResolve⟩⟩ :=
    resolve_cases invoke s target
  · rw [hResolve] at h
    cases h
  · rw [hResolve] at h
    cases h
  · rw [hResolve]
    exact ⟨rfl, rfl⟩

end Memo

section Runs

variable {invoke : Backend σ} {s s' : Resolution σ} {ls : List (Lookup σ)} {target : Path}
  {assembly : Assembly}

theorem Run.remembers (hRun : Run invoke s ls s') (h : s.Remembers target assembly) :
    ∀ l ∈ ls, l.state.Remembers target assembly := by
  induction hRun with
  | done => exact List.forall_mem_nil _
  | look other _ ih =>
    intro l hl
    rcases List.mem_cons.mp hl with rfl | hl
    · exact h
    · exact ih (h.resolve invoke other) l hl

theorem Run.pairwise (hRun : Run invoke s ls s') :
    ls.Pairwise fun first later => ∀ assembly, first.answer invoke = .ok assembly →
      later.state.Remembers first.target assembly := by
  induction hRun with
  | done => exact .nil
  | look target hRest ih =>
    refine .cons ?_ ih
    intro later hLater assembly hAnswer
    exact hRest.remembers (remembers_of_resolve hAnswer) later hLater

end Runs

/-- What a session does is a run of lookups. Of two lookups of the same binary the later one gives
what the earlier one has found, whatever the backend would say, and a lookup that fails changes
neither the memo nor any file. -/
theorem binaries_resolved_once (invoke : Backend σ) (s : Resolution σ) (requests : List Request) :
    Run invoke s (sessionLookups invoke requests s) (requests.foldl (perform invoke) s) ∧
    ((sessionLookups invoke requests s).Pairwise fun first later =>
      ∀ assembly, first.answer invoke = .ok assembly → later.target.same first.target = true →
        ∀ other : Backend σ, later.state.resolve other later.target = (.ok assembly, later.state)) ∧
    ∀ l ∈ sessionLookups invoke requests s, ∀ e, l.answer invoke = .error e →
      (l.next invoke).resolver = l.state.resolver ∧ (l.next invoke).disk = l.state.disk := by
  have hRun : Run invoke s _ _ := run_session requests s
  refine ⟨hRun, ?_, ?_⟩
  · refine hRun.pairwise.imp ?_
    intro first later h assembly hAnswer hSame other
    have hComponents : later.target.components = first.target.components := by
      simpa [Path.same] using hSame
    apply resolve_of_remembers
    rw [Remembers, hComponents]
    exact h assembly hAnswer
  · intro l _ e hAnswer
    exact unchanged_of_resolve_error hAnswer

/-- A backend that gives a library another name each time, and knows no other binaries. -/
def fickleBackend : Backend Nat := fun _ _ target calls =>
  if target.text = "refs/Lib.dll" then
    (.ok ("\x7b\"name\": \"Lib" ++ toString calls ++ "\"\x7d"), calls + 1)
  else (.ok "", calls + 1)

def freshSession : Resolution Nat where
  resolver := { binaries := [⟨"refs/Lib.dll"⟩] }
  disk := .empty
  backend := 0

def libraryKnown : Resolution Nat := (freshSession.resolveAll fickleBackend).2

def readmeRefused : Resolution Nat := (libraryKnown.resolve fickleBackend ⟨"refs/Readme"⟩).2

theorem library_resolved_once :
    ∃ assembly e, (freshSession.resolve fickleBackend ⟨"refs/Lib.dll"⟩).1 = .ok assembly ∧
      (libraryKnown.resolve fickleBackend ⟨"refs/Readme"⟩).1 = .error e ∧
      readmeRefused.resolver = libraryKnown.resolver ∧ readmeRefused.disk = libraryKnown.disk ∧
      readmeRefused.resolve fickleBackend ⟨"refs//Lib.dll"⟩ = (.ok assembly, readmeRefused) := by
  obtain ⟨-, hOnce, hFailed⟩ := binaries_resolved_once fickleBackend freshSession
    [.all, .one ⟨"refs/Readme"⟩, .one ⟨"refs//Lib.dll"⟩]
  have hName : (freshSession.resolve fickleBackend ⟨"refs/Lib.dll"⟩).1.map (·.name) =
      .ok "Lib0" := by decide +kernel
  obtain ⟨assembly, hLibrary, -⟩ := of_map_eq_ok hName
  have hFault : (libraryKnown.resolve fickleBackend ⟨"refs/Readme"⟩).1.map (·.name) =
      .error (.undecodable ⟨"refs/Readme"⟩ "EOF while parsing a value at line 1 column 0" "") := by
    decide +kernel
  have hReadme := of_map_eq_error hFault
  have hUnchanged := hFailed ⟨libraryKnown, ⟨"refs/Readme"⟩⟩
    (List.mem_append_right _ List.mem_cons_self) _ hReadme
  have hSame : Path.same ⟨"refs//Lib.dll"⟩ ⟨"refs/Lib.dll"⟩ = true := by decide
  have hAgain := (List.pairwise_cons.mp hOnce).1 ⟨readmeRefused, ⟨"refs//Lib.dll"⟩⟩
    (List.mem_append_right _ (List.mem_cons_of_mem _ List.mem_cons_self)) _ hLibrary hSame
    fickleBackend
  exact ⟨assembly, _, hLibrary, hReadme, hUnchanged.1, hUnchanged.2, hAgain⟩

end Resolution

end KotlinBackend.Metadata
