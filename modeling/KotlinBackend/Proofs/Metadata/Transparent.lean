import KotlinBackend.Proofs.Metadata.Remembered
import KotlinBackend.Proofs.Storage.Directory

/-!
# When a cache shows

Sessions that follow one another share the files of a cache, and each has a memo of its own. If the
backend always says the same about a binary, then a session that uses the cache can only differ from
one that does not where two binaries have one entry. The entry of a binary is named after the last
part of its path, so this happens, and the condition that is proved here is exact.
-/

namespace KotlinBackend.Metadata

/-- What the reply for a binary amounts to. -/
def outcome (reply : Path → Except ResolutionError String) (target : Path) :
    Except ResolutionError Assembly :=
  reply target >>= decodeReply target

/-- The answers for some binaries, one after another; one that fails ends nothing. -/
def Resolution.answers (invoke : Backend σ) :
    List Path → Resolution σ → List (Except ResolutionError Assembly)
  | [], _ => []
  | target :: rest, s =>
    (s.resolve invoke target).1 :: answers invoke rest (s.resolve invoke target).2

def Resolution.after (invoke : Backend σ) (targets : List Path) (s : Resolution σ) :
    Resolution σ :=
  targets.foldl (fun s target => (s.resolve invoke target).2) s

/-- The answers of sessions that follow one another, with a cache in a directory or without one.
Each session has a new resolver and finds the files that the last one has left. -/
def sessionAnswers (invoke : Backend σ) (binaries : List Path) (directory : Option Path) :
    List (List Path) → Disk → σ →
      List (Except ResolutionError (List (Except ResolutionError Assembly)))
  | [], _, _ => []
  | targets :: rest, d, backend =>
    match Resolver.create d binaries directory with
    | .error e => .error e :: sessionAnswers invoke binaries directory rest d backend
    | .ok (resolver, disk) =>
      let s : Resolution σ := { resolver, disk, backend }
      .ok (s.answers invoke targets) ::
        sessionAnswers invoke binaries directory rest (s.after invoke targets).disk
          (s.after invoke targets).backend

theorem slash_not_mem_of_mem_steps {p : Path} {text : String}
    (h : Path.Component.name text ∈ p.steps) : '/' ∉ text.toList := by
  have hPiece {pieces : List String} (hPieces : pieces ⊆ Text.pieces '/' p.text)
      (h : Path.Component.name text ∈ pieces.filterMap Path.step?) : '/' ∉ text.toList := by
    obtain ⟨piece, hMem, hStep⟩ := List.mem_filterMap.mp h
    obtain rfl : piece = text := by
      rw [Path.step?] at hStep
      split at hStep
      · cases hStep
      · split at hStep
        · cases hStep
        · split at hStep
          · cases hStep
          · cases hStep
            rfl
    obtain ⟨chars, hChars, rfl⟩ := List.mem_map.mp (hPieces hMem)
    rw [String.toList_ofList]
    exact Text.not_mem_of_mem_splitOn hChars
  rw [Path.steps] at h
  split at h
  · rename_i rest hPieces
    rcases List.mem_append.mp h with h | h
    · split at h <;> simp at h
    · exact hPiece (hPieces ▸ List.subset_cons_self _ _) h
  · exact hPiece (List.Subset.refl _) h

theorem slash_not_mem_fileName {p : Path} {name : String} (h : p.fileName? = some name) :
    '/' ∉ name.toList := by
  have hMem : Path.Component.name name ∈ p.components := by
    rw [Path.fileName?] at h
    split at h
    · rename_i hLast
      cases h
      exact List.mem_of_getLast? hLast
    · cases h
  apply slash_not_mem_of_mem_steps (p := p)
  rw [Path.components] at hMem
  split at hMem
  · rename_i hSteps
    rw [hSteps]
    rcases List.mem_cons.mp hMem with hHere | hMem
    · cases hHere
    · exact List.mem_cons_of_mem _ (List.mem_filter.mp hMem).1
  · exact (List.mem_filter.mp hMem).1

theorem isEntryName_entryName (binary : Path) : IsEntryName (Cache.entryName binary) := by
  have hEnding : ∀ name : String, '/' ∉ name.toList → IsEntryName (name ++ ".resolved") := by
    intro name hName
    constructor
    · rw [String.toList_append, List.mem_append]
      exact not_or.mpr ⟨hName, by decide⟩
    · have hLength : (".resolved" : String).length = 9 := by decide
      rw [String.length_append]
      omega
  apply hEnding
  split
  · rename_i hName
    exact slash_not_mem_fileName hName
  · rw [String.toList_map, List.mem_map]
    rintro ⟨c, -, hc⟩
    split at hc
    · exact absurd hc (by decide)
    · rename_i hNot
      exact hNot (.inl hc)

/-- The assembly in a kept reply. -/
def keptAssembly? (raw : String) : Option Assembly := (Json.decodeText Assembly.decode raw).toOption

theorem decodeReply_eq_ok_iff {binary : Path} {raw : String} {assembly : Assembly} :
    decodeReply binary raw = .ok assembly ↔ keptAssembly? raw = some assembly := by
  rw [decodeReply, keptAssembly?]
  cases Json.decodeText Assembly.decode raw <;> simp [Except.toOption]

/-- The directory of a cache holds replies only, given by the names of their files. -/
def Cache.Keeps (c : Cache) (d : Disk) (content : String → Option String) : Prop :=
  ∃ location, d.Holds c.directory location content ∧
    ∀ name, (content name).isSome → Disk.refusal? c.directory name = none

section Entries

variable {c : Cache} {d : Disk} {content : String → Option String}

theorem Cache.Keeps.load (h : c.Keeps d content) (target : Path) :
    c.load d target = (content (Cache.entryName target)).bind keptAssembly? := by
  obtain ⟨location, hHolds, hUsable⟩ := h
  have hRead := hHolds.read (isEntryName_entryName target)
  rw [Cache.load, Cache.entryPath, hRead]
  cases hContent : content (Cache.entryName target) with
  | none => cases Disk.refusal? c.directory (Cache.entryName target) <;> rfl
  | some raw =>
    rw [hUsable _ (by simp [hContent])]
    simp only [Option.elim_none, Option.elim_some]
    change (decodeReply target raw).toOption = keptAssembly? raw
    rw [decodeReply, keptAssembly?]
    cases Json.decodeText Assembly.decode raw <;> rfl

theorem Cache.Keeps.store (h : c.Keeps d content) {target : Path} (raw : String)
    (hUsable : Disk.refusal? c.directory (Cache.entryName target) = none) :
    ∃ disk, c.store d target raw = .ok disk ∧
      c.Keeps disk (Disk.withFile content (Cache.entryName target) raw) := by
  obtain ⟨location, hHolds, hOthers⟩ := h
  obtain ⟨e, hRefused, -⟩ | ⟨-, disk, hWrite, hWritten⟩ :=
    hHolds.write (isEntryName_entryName target) raw
  · rw [hUsable] at hRefused
    cases hRefused
  · refine ⟨disk, ?_, location, hWritten, ?_⟩
    · unfold Cache.store Cache.entryPath
      rw [hWrite]
    · intro name hName
      by_cases hEq : name = Cache.entryName target
      · rw [hEq, hUsable]
      · rw [Disk.withFile, if_neg hEq] at hName
        exact hOthers name hName

end Entries

/-- The backend says the same about a binary whenever it is asked. -/
def Backend.Repeats (invoke : Backend σ) (reply : Path → Except ResolutionError String) : Prop :=
  ∀ d searchPath target backend, (invoke d searchPath target backend).1 = reply target

/-- A reply that can be used can also be kept. -/
def Cache.Admits (c : Cache) (reply : Path → Except ResolutionError String) (target : Path) :
    Prop :=
  ∀ assembly, outcome reply target = .ok assembly →
    Disk.refusal? c.directory (Cache.entryName target) = none

namespace Resolution

section Lookups

variable {σ : Type} {invoke : Backend σ} {reply : Path → Except ResolutionError String}
  {s : Resolution σ} {target : Path}

theorem ask_of_error {e : ResolutionError} (hReply : invoke.Repeats reply)
    (h : outcome reply target = .error e) :
    ∃ backend, s.ask invoke target = (.error e, { s with backend }) := by
  have hAsked := hReply s.disk s.resolver.searchPath target s.backend
  cases hInvoke : invoke s.disk s.resolver.searchPath target s.backend with
  | mk answer backend =>
    obtain rfl : answer = reply target := by simpa [hInvoke] using hAsked
    refine ⟨backend, ?_⟩
    have hRefused : (reply target >>= { s with backend }.accept target) = .error e := by
      cases hRaw : reply target with
      | error cause =>
        rw [outcome, hRaw] at h
        exact congrArg Except.error (Except.error.inj h)
      | ok raw =>
        rw [outcome, hRaw] at h
        have hDecode : decodeReply target raw = .error e := h
        change { s with backend }.accept target raw = .error e
        rw [accept, hDecode]
        rfl
    rw [ask, hInvoke]
    simp only [hRefused]

theorem ask_of_ok {assembly : Assembly} {P : String → Disk → Prop} (hReply : invoke.Repeats reply)
    (h : outcome reply target = .ok assembly)
    (hKeep : ∀ (raw : String) (backend : σ), reply target = .ok raw →
      ∃ disk, P raw disk ∧ { s with backend }.keep target raw = .ok { s with disk, backend }) :
    ∃ raw disk backend, reply target = .ok raw ∧ keptAssembly? raw = some assembly ∧ P raw disk ∧
      s.ask invoke target = (.ok assembly, { s with disk, backend }.remember target assembly) := by
  have hAsked := hReply s.disk s.resolver.searchPath target s.backend
  obtain ⟨raw, hRaw, hDecode⟩ := bind_eq_ok h
  cases hInvoke : invoke s.disk s.resolver.searchPath target s.backend with
  | mk answer backend =>
    obtain rfl : answer = reply target := by simpa [hInvoke] using hAsked
    obtain ⟨disk, hDisk, hKept⟩ := hKeep raw backend hRaw
    refine ⟨raw, disk, backend, hRaw, decodeReply_eq_ok_iff.mp hDecode, hDisk, ?_⟩
    have hAccept : (reply target >>= { s with backend }.accept target) =
        .ok (assembly, { s with disk, backend }.remember target assembly) := by
      rw [hRaw]
      change { s with backend }.accept target raw = _
      rw [accept, hDecode]
      change ({ s with backend }.keep target raw >>= _) = _
      rw [hKept]
      rfl
    rw [ask, hInvoke]
    simp only [hAccept]

theorem resolve_of_plain (hReply : invoke.Repeats reply) (hCache : s.resolver.cache = none)
    (hNew : s.resolver.resolved.get? target.components = none) :
    (∃ e backend, outcome reply target = .error e ∧
      s.resolve invoke target = (.error e, { s with backend })) ∨
    ∃ assembly backend, outcome reply target = .ok assembly ∧
      s.resolve invoke target = (.ok assembly, { s with backend }.remember target assembly) := by
  have hResolve : s.resolve invoke target = s.ask invoke target := by
    rw [resolve, hNew, hCache]
    rfl
  rw [hResolve]
  cases hOutcome : outcome reply target with
  | error e =>
    obtain ⟨backend, hAsk⟩ := ask_of_error (s := s) hReply hOutcome
    exact .inl ⟨e, backend, rfl, hAsk⟩
  | ok assembly =>
    obtain ⟨_, _, backend, -, -, rfl, hAsk⟩ :=
      ask_of_ok (P := fun _ disk => disk = s.disk) hReply hOutcome fun raw backend _ =>
        ⟨s.disk, rfl, by rw [keep, hCache]⟩
    exact .inr ⟨assembly, backend, rfl, hAsk⟩

/-- All that a lookup in a cache can do for a binary that is new to the session. -/
theorem resolve_of_cached {c : Cache} {content : String → Option String}
    (hReply : invoke.Repeats reply) (hCache : s.resolver.cache = some c)
    (hKeeps : c.Keeps s.disk content) (hAdmits : c.Admits reply target)
    (hNew : s.resolver.resolved.get? target.components = none) :
    (∃ assembly, (content (Cache.entryName target)).bind keptAssembly? = some assembly ∧
      s.resolve invoke target = (.ok assembly, s.remember target assembly)) ∨
    ((content (Cache.entryName target)).bind keptAssembly? = none ∧
      ((∃ e backend, outcome reply target = .error e ∧
          s.resolve invoke target = (.error e, { s with backend })) ∨
        ∃ assembly raw disk backend, outcome reply target = .ok assembly ∧
          reply target = .ok raw ∧ keptAssembly? raw = some assembly ∧
          c.Keeps disk (Disk.withFile content (Cache.entryName target) raw) ∧
          s.resolve invoke target =
            (.ok assembly, { s with disk, backend }.remember target assembly))) := by
  have hLoad : s.resolver.cache.bind (·.load s.disk target) =
      (content (Cache.entryName target)).bind keptAssembly? := by
    rw [hCache, Option.bind_some]
    exact hKeeps.load target
  rw [resolve, hNew, hLoad]
  cases hKept : (content (Cache.entryName target)).bind keptAssembly? with
  | some assembly => exact .inl ⟨assembly, rfl, rfl⟩
  | none =>
    refine .inr ⟨rfl, ?_⟩
    cases hOutcome : outcome reply target with
    | error e =>
      obtain ⟨backend, hAsk⟩ := ask_of_error (s := s) hReply hOutcome
      exact .inl ⟨e, backend, rfl, hAsk⟩
    | ok assembly =>
      obtain ⟨raw, disk, backend, hRaw, hDecode, hDisk, hAsk⟩ :=
        ask_of_ok (s := s)
          (P := fun raw disk => c.Keeps disk (Disk.withFile content (Cache.entryName target) raw))
          hReply hOutcome fun raw backend _ => by
            obtain ⟨disk, hStore, hDisk⟩ := hKeeps.store raw (hAdmits assembly hOutcome)
            refine ⟨disk, hDisk, ?_⟩
            rw [keep, hCache]
            simp only [hStore]
            rfl
      exact .inr ⟨assembly, raw, disk, backend, rfl, hRaw, hDecode, hDisk, hAsk⟩

end Lookups

/-- Two resolvers that have resolved the same, one with a cache and one without. -/
structure Alike (c : Cache) (content : String → Option String) (s plain : Resolution σ) : Prop where
  cached : s.resolver.cache = some c
  uncached : plain.resolver.cache = none
  memo : s.resolver.resolved = plain.resolver.resolved
  keeps : c.Keeps s.disk content

/-- Whatever a cache keeps is the usable reply for one of some binaries. -/
def Recorded (reply : Path → Except ResolutionError String) (seen : List Path)
    (content : String → Option String) : Prop :=
  ∀ name raw assembly, content name = some raw → keptAssembly? raw = some assembly →
    ∃ target ∈ seen, Cache.entryName target = name ∧ outcome reply target = .ok assembly

/-- What is kept for the earlier of two binaries serves the later one as well. -/
def Serves (reply : Path → Except ResolutionError String) (earlier later : Path) : Prop :=
  Cache.entryName earlier = Cache.entryName later →
    ∀ assembly, outcome reply earlier = .ok assembly → outcome reply later = .ok assembly

section Histories

variable {σ : Type} {invoke : Backend σ} {reply : Path → Except ResolutionError String}
  {c : Cache} {content : String → Option String} {s plain : Resolution σ} {seen : List Path}

theorem Recorded.mono {more : List Path} (h : Recorded reply seen content) (hMore : seen ⊆ more) :
    Recorded reply more content := by
  intro name raw assembly hRaw hDecode
  obtain ⟨target, hTarget, hName, hOutcome⟩ := h name raw assembly hRaw hDecode
  exact ⟨target, hMore hTarget, hName, hOutcome⟩

theorem Recorded.withFile {target : Path} {raw : String} {assembly : Assembly}
    (h : Recorded reply seen content) (hOutcome : outcome reply target = .ok assembly)
    (hDecode : keptAssembly? raw = some assembly) :
    Recorded reply (seen ++ [target])
      (Disk.withFile content (Cache.entryName target) raw) := by
  intro name kept found hKept hFound
  rw [Disk.withFile] at hKept
  split at hKept
  · rename_i hName
    cases hKept
    rw [hDecode] at hFound
    cases hFound
    exact ⟨target, List.mem_append_right _ List.mem_cons_self, hName.symm, hOutcome⟩
  · exact h.mono (List.subset_append_left _ _) name kept found hKept hFound

theorem Alike.remember {s' plain' : Resolution σ} {content' : String → Option String}
    (h : Alike c content s plain) (hCached : s'.resolver = s.resolver)
    (hUncached : plain'.resolver = plain.resolver) (hKeeps : c.Keeps s'.disk content')
    {target : Path} {assembly : Assembly} :
    Alike c content' (s'.remember target assembly) (plain'.remember target assembly) where
  cached := (congrArg Resolver.cache hCached).trans h.cached
  uncached := (congrArg Resolver.cache hUncached).trans h.uncached
  memo := by
    have hMemo : s'.resolver.resolved = plain'.resolver.resolved := by
      rw [hCached, hUncached, h.memo]
    exact congrArg (·.insert target.components assembly) hMemo
  keeps := hKeeps

/-- One lookup gives the same with and without the cache, if what is kept serves it. -/
theorem Alike.resolve (h : Alike c content s plain) (hReply : invoke.Repeats reply) {target : Path}
    (hAdmits : c.Admits reply target) (hRecorded : Recorded reply seen content)
    (hServes : ∀ earlier ∈ seen, Serves reply earlier target) :
    (s.resolve invoke target).1 = (plain.resolve invoke target).1 ∧
      ∃ content', Recorded reply (seen ++ [target]) content' ∧
        Alike c content' (s.resolve invoke target).2 (plain.resolve invoke target).2 := by
  have hSeen : Recorded reply (seen ++ [target]) content :=
    hRecorded.mono (List.subset_append_left _ _)
  cases hMemo : s.resolver.resolved.get? target.components with
  | some assembly =>
    have hPlain : plain.Remembers target assembly := by
      rw [Remembers, ← h.memo]
      exact hMemo
    rw [resolve_of_remembers (show s.Remembers target assembly from hMemo),
      resolve_of_remembers hPlain]
    exact ⟨rfl, content, hSeen, h⟩
  | none =>
    have hPlain := resolve_of_plain hReply h.uncached (h.memo ▸ hMemo)
    obtain ⟨assembly, hKept, hResolve⟩ | ⟨-, ⟨e, backend, hOutcome, hResolve⟩ |
        ⟨assembly, raw, disk, backend, hOutcome, hRaw, hDecode, hDisk, hResolve⟩⟩ :=
      resolve_of_cached hReply h.cached h.keeps hAdmits hMemo
    · -- The entry was written for an earlier binary, and it serves this one.
      obtain ⟨raw, hRaw, hDecode⟩ := Option.bind_eq_some_iff.mp hKept
      obtain ⟨earlier, hEarlier, hName, hOutcome⟩ := hRecorded _ raw assembly hRaw hDecode
      have hSame := hServes earlier hEarlier hName assembly hOutcome
      obtain ⟨e, backend, hOther, -⟩ | ⟨found, backend, hFound, hUncached⟩ := hPlain
      · rw [hSame] at hOther
        cases hOther
      · rw [hSame] at hFound
        cases hFound
        rw [hResolve, hUncached]
        refine ⟨rfl, content, hSeen, ?_⟩
        apply h.remember
        · rfl
        · rfl
        · exact h.keeps
    · obtain ⟨e', backend', hOther, hUncached⟩ | ⟨found, backend', hFound, -⟩ := hPlain
      · rw [hOutcome] at hOther
        cases hOther
        rw [hResolve, hUncached]
        exact ⟨rfl, content, hSeen, h.cached, h.uncached, h.memo, h.keeps⟩
      · rw [hOutcome] at hFound
        cases hFound
    · obtain ⟨e, backend', hOther, -⟩ | ⟨found, backend', hFound, hUncached⟩ := hPlain
      · rw [hOutcome] at hOther
        cases hOther
      · rw [hOutcome] at hFound
        cases hFound
        rw [hResolve, hUncached]
        refine ⟨rfl, _, hRecorded.withFile hOutcome hDecode, ?_⟩
        apply h.remember
        · rfl
        · rfl
        · exact hDisk

/-- A session gives the same with and without the cache, if what was kept before and what it keeps
itself serves all that follows. -/
theorem Alike.answers (hReply : invoke.Repeats reply) {targets : List Path}
    (hAdmits : ∀ target ∈ targets, c.Admits reply target)
    (hServes : (seen ++ targets).Pairwise (Serves reply)) (h : Alike c content s plain)
    (hRecorded : Recorded reply seen content) :
    s.answers invoke targets = plain.answers invoke targets ∧
      ∃ content', Recorded reply (seen ++ targets) content' ∧
        Alike c content' (s.after invoke targets) (plain.after invoke targets) := by
  induction targets generalizing seen content s plain with
  | nil => exact ⟨rfl, content, by simpa using hRecorded, h⟩
  | cons target rest ih =>
    have hEarlier : ∀ earlier ∈ seen, Serves reply earlier target := fun earlier hMem =>
      (List.pairwise_append.mp hServes).2.2 earlier hMem target List.mem_cons_self
    obtain ⟨hFirst, content', hRecorded', h'⟩ :=
      h.resolve hReply (hAdmits target List.mem_cons_self) hRecorded hEarlier
    obtain ⟨hRest, content'', hRecorded'', h''⟩ :=
      ih (fun t ht => hAdmits t (List.mem_cons_of_mem _ ht)) (by simpa using hServes) h' hRecorded'
    refine ⟨?_, content'', by simpa using hRecorded'', h''⟩
    rw [Resolution.answers, Resolution.answers, hFirst, hRest]

end Histories

end Resolution

/-- A resolver at the start of a session. -/
def freshResolution (binaries : List Path) (cache : Option Cache) (disk : Disk) (backend : σ) :
    Resolution σ :=
  { resolver := { binaries, cache }, disk, backend }

section Sessions

open Resolution

variable {σ : Type} {invoke : Backend σ} {reply : Path → Except ResolutionError String}
  {c : Cache} {content : String → Option String} {d made : Disk} {seen : List Path}
  {binaries : List Path}

theorem Cache.Keeps.create {first : Disk} (h : c.Keeps d content)
    (hMade : Cache.create first c.directory = .ok (c, made)) :
    Cache.create d c.directory = .ok (c, d) := by
  obtain ⟨location, hHolds, -⟩ := h
  rw [Cache.create] at hMade ⊢
  split at hMade
  · rename_i hPath
    rw [hHolds.makePath hPath]
  · cases hMade

theorem sessionAnswers_cached (hMade : Cache.create d c.directory = .ok (c, made))
    (targets : List Path) (rest : List (List Path)) (backend : σ) :
    sessionAnswers invoke binaries (some c.directory) (targets :: rest) d backend =
      .ok ((freshResolution binaries (some c) made backend).answers invoke targets) ::
        sessionAnswers invoke binaries (some c.directory) rest
          ((freshResolution binaries (some c) made backend).after invoke targets).disk
          ((freshResolution binaries (some c) made backend).after invoke targets).backend := by
  have hCreate : Resolver.create d binaries (some c.directory) =
      .ok ({ binaries, cache := some c }, made) := by
    rw [Resolver.create, hMade]
    rfl
  rw [sessionAnswers, hCreate]
  rfl

theorem sessionAnswers_uncached (targets : List Path) (rest : List (List Path)) (disk : Disk)
    (backend : σ) :
    sessionAnswers invoke binaries none (targets :: rest) disk backend =
      .ok ((freshResolution binaries none disk backend).answers invoke targets) ::
        sessionAnswers invoke binaries none rest
          ((freshResolution binaries none disk backend).after invoke targets).disk
          ((freshResolution binaries none disk backend).after invoke targets).backend :=
  rfl

theorem alike_fresh (hKeeps : c.Keeps made content) (disk : Disk) (backend backend' : σ) :
    Alike c content (freshResolution binaries (some c) made backend)
      (freshResolution binaries none disk backend') :=
  ⟨rfl, rfl, rfl, hKeeps⟩

theorem sessionAnswers_eq_of_serves (hReply : invoke.Repeats reply) {sessions : List (List Path)}
    (hAdmits : ∀ target ∈ sessions.flatten, c.Admits reply target)
    (hServes : (seen ++ sessions.flatten).Pairwise (Serves reply))
    (hMade : Cache.create d c.directory = .ok (c, made)) (hKeeps : c.Keeps made content)
    (hRecorded : Recorded reply seen content) (disk : Disk) (backend backend' : σ) :
    sessionAnswers invoke binaries (some c.directory) sessions d backend =
      sessionAnswers invoke binaries none sessions disk backend' := by
  induction sessions generalizing seen content d made disk backend backend' with
  | nil => rfl
  | cons targets rest ih =>
    rw [List.flatten_cons] at hAdmits hServes
    rw [← List.append_assoc] at hServes
    obtain ⟨hAnswers, content', hRecorded', hAlike⟩ :=
      (alike_fresh hKeeps disk backend backend').answers hReply
        (fun t ht => hAdmits t (List.mem_append_left _ ht))
        (List.pairwise_append.mp hServes).1 hRecorded
    have hRest := ih (fun t ht => hAdmits t (List.mem_append_right _ ht)) hServes
      (hAlike.keeps.create hMade) hAlike.keeps hRecorded'
    rw [sessionAnswers_cached hMade, sessionAnswers_uncached, hAnswers, hRest]

/-- Every binary among some finds what the reply for it amounts to. -/
def Answered (reply : Path → Except ResolutionError String) (seen : List Path)
    (content : String → Option String) : Prop :=
  ∀ target ∈ seen, ∀ assembly, outcome reply target = .ok assembly →
    (content (Cache.entryName target)).bind keptAssembly? = some assembly

theorem Answered.snoc {target : Path} {content' : String → Option String}
    (h : Answered reply seen content)
    (hKept : ∀ name, ((content name).bind keptAssembly?).isSome → content' name = content name)
    (hTarget : ∀ assembly, outcome reply target = .ok assembly →
      (content' (Cache.entryName target)).bind keptAssembly? = some assembly) :
    Answered reply (seen ++ [target]) content' := by
  intro other hOther assembly hOutcome
  rcases List.mem_append.mp hOther with hOther | hOther
  · have hOld := h other hOther assembly hOutcome
    rw [hKept _ (by rw [hOld]; rfl)]
    exact hOld
  · rw [List.mem_singleton.mp hOther] at hOutcome ⊢
    exact hTarget assembly hOutcome

/-- If a new resolver with the cache gives what the reply amounts to, then everything that was kept
before serves this binary, and from now on this binary is among those that find their reply. -/
theorem Answered.resolve (h : Answered reply seen content) (hReply : invoke.Repeats reply)
    {target : Path} (hAdmits : c.Admits reply target) (hKeeps : c.Keeps made content)
    (backend : σ)
    (hSame : ((freshResolution binaries (some c) made backend).resolve invoke target).1 =
      outcome reply target) :
    (∀ earlier ∈ seen, Serves reply earlier target) ∧
      ∃ content', Answered reply (seen ++ [target]) content' ∧
        c.Keeps ((freshResolution binaries (some c) made backend).resolve invoke target).2.disk
          content' := by
  have hServes {assembly : Assembly} (earlier : Path) (hEarlier : earlier ∈ seen)
      (hName : Cache.entryName earlier = Cache.entryName target)
      (hOutcome : outcome reply earlier = .ok assembly) :
      (content (Cache.entryName target)).bind keptAssembly? = some assembly :=
    hName ▸ h earlier hEarlier assembly hOutcome
  obtain ⟨found, hKept, hResolve⟩ | ⟨hKept, hAsked⟩ :=
    resolve_of_cached (s := freshResolution binaries (some c) made backend) hReply rfl hKeeps
      hAdmits rfl
  · rw [hResolve] at hSame ⊢
    refine ⟨?_, content, h.snoc (fun _ _ => rfl) ?_, hKeeps⟩
    · intro earlier hEarlier hName assembly hOutcome
      have hLoaded := hServes earlier hEarlier hName hOutcome
      rw [hKept] at hLoaded
      cases hLoaded
      exact hSame.symm
    · intro assembly hOutcome
      rw [hOutcome] at hSame
      cases hSame
      exact hKept
  · have hNone : ∀ earlier ∈ seen, Serves reply earlier target := by
      intro earlier hEarlier hName assembly hOutcome
      have hLoaded := hServes earlier hEarlier hName hOutcome
      rw [hKept] at hLoaded
      cases hLoaded
    refine ⟨hNone, ?_⟩
    obtain ⟨e, backend', hOutcome, hResolve⟩ |
        ⟨assembly, raw, disk, backend', hOutcome, hRaw, hDecode, hDisk, hResolve⟩ := hAsked
    · rw [hResolve]
      refine ⟨content, h.snoc (fun _ _ => rfl) ?_, hKeeps⟩
      intro assembly hOther
      rw [hOutcome] at hOther
      cases hOther
    · rw [hResolve]
      refine ⟨_, h.snoc ?_ ?_, hDisk⟩
      · intro name hName
        rw [Disk.withFile, if_neg]
        rintro rfl
        rw [hKept] at hName
        cases hName
      · intro other hOther
        rw [hOutcome] at hOther
        cases hOther
        rw [Disk.withFile, if_pos rfl]
        exact hDecode

theorem fresh_resolve_eq_outcome (hReply : invoke.Repeats reply) (binaries : List Path)
    (disk : Disk) (backend : σ) (target : Path) :
    ((freshResolution binaries none disk backend).resolve invoke target).1 =
      outcome reply target := by
  obtain ⟨e, backend', hOutcome, hResolve⟩ | ⟨assembly, backend', hOutcome, hResolve⟩ :=
    resolve_of_plain (s := freshResolution binaries none disk backend) hReply rfl rfl
  · rw [hResolve, hOutcome]
  · rw [hResolve, hOutcome]

theorem serves_of_sessionAnswers_eq (hReply : invoke.Repeats reply) {targets : List Path}
    (hAdmits : ∀ target ∈ targets, c.Admits reply target)
    (hMade : Cache.create d c.directory = .ok (c, made)) (hKeeps : c.Keeps made content)
    (hAnswered : Answered reply seen content) {disk : Disk} {backend backend' : σ}
    (h : sessionAnswers invoke binaries (some c.directory) (targets.map ([·])) d backend =
      sessionAnswers invoke binaries none (targets.map ([·])) disk backend') :
    (∀ earlier ∈ seen, ∀ later ∈ targets, Serves reply earlier later) ∧
      targets.Pairwise (Serves reply) := by
  induction targets generalizing seen content d made disk backend backend' with
  | nil => exact ⟨fun _ _ => List.forall_mem_nil _, .nil⟩
  | cons target rest ih =>
    rw [List.map_cons, sessionAnswers_cached hMade, sessionAnswers_uncached] at h
    obtain ⟨hFirst, hRest⟩ := List.cons.inj h
    have hSame : ((freshResolution binaries (some c) made backend).resolve invoke target).1 =
        outcome reply target := by
      rw [← fresh_resolve_eq_outcome hReply binaries disk backend' target]
      exact (List.cons.inj (Except.ok.inj hFirst)).1
    rw [after, List.foldl_cons, List.foldl_nil] at hRest
    obtain ⟨hServes, content', hAnswered', hKeeps'⟩ :=
      hAnswered.resolve hReply (hAdmits target List.mem_cons_self) hKeeps backend hSame
    obtain ⟨hLater, hPairwise⟩ :=
      ih (fun t ht => hAdmits t (List.mem_cons_of_mem _ ht)) (hKeeps'.create hMade) hKeeps'
        hAnswered' hRest
    refine ⟨?_, .cons ?_ hPairwise⟩
    · intro earlier hEarlier later hMem
      rcases List.mem_cons.mp hMem with rfl | hMem
      · exact hServes earlier hEarlier
      · exact hLater earlier (List.mem_append_left _ hEarlier) later hMem
    · intro later hMem
      exact hLater target (List.mem_append_right _ List.mem_cons_self) later hMem

theorem Cache.keeps_nothing (hMade : Cache.create d c.directory = .ok (c, made))
    (hEmpty : made.HoldsNothing c.directory) : c.Keeps made fun _ => none := by
  rw [Cache.create] at hMade
  split at hMade
  · rename_i hPath
    cases hMade
    obtain ⟨location, hHolds⟩ := Disk.holds_of_makePath hPath hEmpty
    exact ⟨location, hHolds, by simp⟩
  · cases hMade

theorem Cache.Keeps.admits (h : c.Keeps made content) {target : Path}
    (hWrites : ∀ raw assembly, reply target = .ok raw → decodeReply target raw = .ok assembly →
      ∃ written, c.store made target raw = .ok written) :
    c.Admits reply target := by
  intro assembly hOutcome
  obtain ⟨raw, hRaw, hDecode⟩ := bind_eq_ok hOutcome
  obtain ⟨written, hStore⟩ := hWrites raw assembly hRaw hDecode
  obtain ⟨location, hHolds, -⟩ := h
  obtain ⟨e, -, hWrite⟩ | ⟨hUsable, -⟩ := hHolds.write (isEntryName_entryName target) raw
  · unfold Cache.store Cache.entryPath at hStore
    rw [hWrite] at hStore
    cases hStore
  · exact hUsable

end Sessions

/-- Some binaries are resolved in this order by sessions that share a cache, which is empty at first
and never refuses a reply. However they are spread over sessions, the answers are those without the
cache, if and only if of any two of them that have one entry the earlier serves the later. -/
theorem cache_transparent_iff {σ : Type} {invoke : Backend σ}
    {reply : Path → Except ResolutionError String} (hReply : invoke.Repeats reply)
    (binaries : List Path) {c : Cache} {d made : Disk}
    (hMade : Cache.create d c.directory = .ok (c, made)) (hEmpty : made.HoldsNothing c.directory)
    {targets : List Path}
    (hWrites : ∀ target ∈ targets, ∀ raw assembly, reply target = .ok raw →
      decodeReply target raw = .ok assembly → ∃ written, c.store made target raw = .ok written)
    (backend : σ) :
    (∀ sessions : List (List Path), sessions.flatten = targets →
      sessionAnswers invoke binaries (some c.directory) sessions d backend =
        sessionAnswers invoke binaries none sessions d backend) ↔
    targets.Pairwise fun earlier later => Cache.entryName earlier = Cache.entryName later →
      ∀ assembly, outcome reply earlier = .ok assembly → outcome reply later = .ok assembly := by
  have hKeeps := Cache.keeps_nothing hMade hEmpty
  have hAdmits : ∀ target ∈ targets, c.Admits reply target := fun target hTarget =>
    hKeeps.admits (hWrites target hTarget)
  constructor
  · intro h
    have hFlatten : (targets.map ([·])).flatten = targets := List.flatMap_singleton' targets
    have hAnswered : Answered reply [] fun _ => none := List.forall_mem_nil _
    exact (serves_of_sessionAnswers_eq hReply hAdmits hMade hKeeps hAnswered
      (h _ hFlatten)).2
  · rintro hServes sessions rfl
    have hRecorded : Resolution.Recorded reply [] fun _ => none := by
      intro name raw assembly hRaw
      cases hRaw
    have hAll : ([] ++ sessions.flatten).Pairwise (Resolution.Serves reply) := hServes
    exact sessionAnswers_eq_of_serves hReply hAdmits hAll hMade hKeeps hRecorded d backend backend

/-- Two libraries of one name in two directories, and a third one. -/
def libraryReply (target : Path) : Except ResolutionError String :=
  if target.text = "a/Lib.dll" then .ok "\x7b\"name\": \"A\"\x7d"
  else if target.text = "b/Lib.dll" then .ok "\x7b\"name\": \"B\"\x7d"
  else if target.text = "a/Base.dll" then .ok "\x7b\"name\": \"Base\"\x7d"
  else .error (.failed target (some 4) "")

def libraryBackend : Backend Unit := fun _ _ target backend => (libraryReply target, backend)

def answeredNames (answers : List (Except ResolutionError
    (List (Except ResolutionError Assembly)))) :
    List (Except ResolutionError (List (Except ResolutionError String))) :=
  answers.map fun session => session.map fun names => names.map fun answer => answer.map (·.name)

theorem twin_library_answered :
    answeredNames (sessionAnswers libraryBackend [] (some ⟨"cache"⟩)
      [[⟨"a/Lib.dll"⟩], [⟨"b/Lib.dll"⟩]] .empty ()) = [.ok [.ok "A"], .ok [.ok "A"]] ∧
    answeredNames (sessionAnswers libraryBackend [] none
      [[⟨"a/Lib.dll"⟩], [⟨"b/Lib.dll"⟩]] .empty ()) = [.ok [.ok "A"], .ok [.ok "B"]] := by
  decide +kernel

/-- The disk on which the directory of a cache is all there is. -/
def cacheDisk : Disk := ⟨⟨[(["cache"], .directory)]⟩⟩

theorem distinct_libraries_answered :
    Cache.create .empty ⟨"cache"⟩ = .ok (⟨⟨"cache"⟩⟩, cacheDisk) ∧
    cacheDisk.HoldsNothing ⟨"cache"⟩ ∧
    sessionAnswers libraryBackend [] (some ⟨"cache"⟩)
        [[⟨"a/Lib.dll"⟩, ⟨"a/Base.dll"⟩], [⟨"a/Lib.dll"⟩, ⟨"a/Gone.dll"⟩]] .empty () =
      sessionAnswers libraryBackend [] none
        [[⟨"a/Lib.dll"⟩, ⟨"a/Base.dll"⟩], [⟨"a/Lib.dll"⟩, ⟨"a/Gone.dll"⟩]] .empty () := by
  have hMade : Cache.create .empty ⟨"cache"⟩ = .ok (⟨⟨"cache"⟩⟩, cacheDisk) := by rfl
  have hEmpty : cacheDisk.HoldsNothing ⟨"cache"⟩ := by
    have hWalk : cacheDisk.walk [] (Path.mk "cache").steps = .ok ["cache"] := by decide
    intro location hLocation name
    rw [hWalk] at hLocation
    cases hLocation
    exact OrderedMap.lookup_rest [] (by simp)
  have hKeeps := Cache.keeps_nothing (c := ⟨⟨"cache"⟩⟩) hMade hEmpty
  have hReply : libraryBackend.Repeats libraryReply := fun _ _ _ _ => rfl
  have hUsable : ∀ target ∈ [⟨"a/Lib.dll"⟩, ⟨"a/Base.dll"⟩, ⟨"a/Lib.dll"⟩, ⟨"a/Gone.dll"⟩],
      Disk.refusal? ⟨"cache"⟩ (Cache.entryName target) = none := by decide
  have hNames : [⟨"a/Lib.dll"⟩, ⟨"a/Base.dll"⟩, ⟨"a/Lib.dll"⟩, ⟨"a/Gone.dll"⟩].Pairwise
      fun first second => Cache.entryName first = Cache.entryName second → first = second := by
    decide
  refine ⟨hMade, hEmpty, ?_⟩
  refine (cache_transparent_iff hReply [] (c := ⟨⟨"cache"⟩⟩) hMade hEmpty ?_ ()).mpr ?_ _ rfl
  · intro target hTarget raw assembly _ _
    obtain ⟨written, hStore, -⟩ := hKeeps.store raw (hUsable target hTarget)
    exact ⟨written, hStore⟩
  · refine hNames.imp ?_
    intro first second hEq hName assembly hOutcome
    rw [← hEq hName]
    exact hOutcome

end KotlinBackend.Metadata
