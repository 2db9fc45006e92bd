import KotlinBackend.Data.Except
import KotlinBackend.Storage.Disk

/-!
# What a directory holds

A name in a directory is one step behind the steps of the directory, and writing a file never moves
what a path leads to. So a directory of files is a function from names to contents: reading looks it
up, and writing changes it at one name.
-/

namespace KotlinBackend

/-- A text that is a name in a directory. -/
structure IsEntryName (text : String) : Prop where
  noSlash : '/' ∉ text.toList
  long : 2 < text.length

section Names

variable {text : String}

theorem IsEntryName.step_eq (h : IsEntryName text) : Path.step? text = some (.name text) := by
  have hLong := h.long
  have hEmpty : text ≠ "" := by rintro rfl; exact absurd hLong (by decide)
  have hHere : text ≠ "." := by rintro rfl; exact absurd hLong (by decide)
  have hUp : text ≠ ".." := by rintro rfl; exact absurd hLong (by decide)
  simp [Path.step?, hEmpty, hHere, hUp]

theorem IsEntryName.ne_empty (h : IsEntryName text) : text ≠ "" := by
  rintro rfl
  exact absurd h.long (by decide)

theorem IsEntryName.pieces (h : IsEntryName text) : Text.pieces '/' text = [text] := by
  rw [Text.pieces, Text.splitOn_of_not_mem h.noSlash, List.map_singleton, String.ofList_toList]

theorem IsEntryName.steps (h : IsEntryName text) : (Path.mk text).steps = [.name text] := by
  simp [Path.steps, h.pieces, h.step_eq, h.ne_empty]

theorem IsEntryName.components (h : IsEntryName text) :
    (Path.mk text).components = [.name text] := by
  simp [Path.components, h.steps]

theorem IsEntryName.same_iff {a b : String} (ha : IsEntryName a) (hb : IsEntryName b) :
    (Path.mk a).same ⟨b⟩ = true ↔ a = b := by
  simp [Path.same, ha.components, hb.components]

end Names

namespace Path

/-- The steps of some pieces that other pieces follow. -/
def openingSteps : List String → List Component
  | "" :: rest => .root :: rest.filterMap step?
  | pieces => pieces.filterMap step?

theorem openingSteps_of_ne {first : String} (h : first ≠ "") (rest : List String) :
    openingSteps (first :: rest) = (first :: rest).filterMap step? := by
  rw [openingSteps]
  intro others hHead
  exact h (List.cons.inj hHead).1

/-- The steps of a path with a slash, from the pieces before the last slash. -/
theorem steps_slash (before : String) {last : String} (h : '/' ∉ last.toList) :
    (Path.mk (before ++ "/" ++ last)).steps =
      openingSteps (Text.pieces '/' before) ++ (step? last).toList := by
  have hPieces : Text.pieces '/' (before ++ "/" ++ last) = Text.pieces '/' before ++ [last] := by
    have hLists : (before ++ "/" ++ last).toList = before.toList ++ '/' :: last.toList := by simp
    rw [Text.pieces, hLists, Text.splitOn_append, List.map_append, Text.splitOn_of_not_mem h,
      List.map_singleton, String.ofList_toList, Text.pieces]
  have hNeNil : Text.pieces '/' before ≠ [] := by
    simpa [Text.pieces] using Text.splitOn_ne_nil '/' before.toList
  have hLast : [last].filterMap step? = (step? last).toList := by
    cases hStep : step? last <;> simp [hStep]
  obtain ⟨first, rest, hBefore⟩ := List.exists_cons_of_ne_nil hNeNil
  rw [hBefore] at hPieces
  rw [steps, hPieces, hBefore]
  by_cases hFirst : first = ""
  · subst hFirst
    simp [openingSteps, hLast]
  · rw [openingSteps_of_ne hFirst]
    split
    · rename_i hHead
      exact absurd (List.cons.inj hHead).1 hFirst
    · rw [List.filterMap_append, hLast]

theorem steps_eq_openingSteps {p : Path} (h : p.text ≠ "") :
    p.steps = openingSteps (Text.pieces '/' p.text) := by
  have hNotSingle : Text.pieces '/' p.text ≠ [""] := by
    intro hPieces
    have hText := Text.intercalate_pieces '/' p.text
    rw [hPieces] at hText
    exact h (hText.symm.trans (by decide))
  rw [steps]
  split
  · rename_i rest hPieces
    rw [hPieces] at hNotSingle ⊢
    rw [openingSteps, if_neg]
    · rfl
    · intro hRest
      rw [List.isEmpty_iff.mp hRest] at hNotSingle
      exact hNotSingle rfl
  · rename_i hPieces
    rw [openingSteps]
    exact hPieces

/-- The steps of a name in a directory. -/
theorem steps_join (directory : Path) {name : String} (h : IsEntryName name) :
    (directory.join ⟨name⟩).steps = directory.steps ++ [.name name] := by
  have hStart : Text.startsWith "/" name = false := by
    rw [Bool.eq_false_iff, ne_eq, Text.startsWith_iff]
    rintro ⟨rest, hRest⟩
    exact h.noSlash (hRest ▸ List.mem_cons_self)
  obtain ⟨text⟩ := directory
  by_cases hEmpty : text = ""
  · subst hEmpty
    have hNone : (Path.mk "").steps = [] := by decide
    rw [hNone, List.nil_append, ← h.steps]
    simp [join, isEmpty]
  · by_cases hSlash : Text.endsWith "/" text = true
    · obtain ⟨before, hBefore⟩ := Text.endsWith_iff.mp hSlash
      obtain rfl : text = String.ofList before ++ "/" ++ "" := by
        apply String.toList_injective
        simpa using hBefore.symm
      have hJoin : (Path.mk (String.ofList before ++ "/" ++ "")).join ⟨name⟩ =
          ⟨String.ofList before ++ "/" ++ name⟩ := by
        simp [join, isEmpty, hStart, String.append_empty ▸ hSlash]
      rw [hJoin, steps_slash _ h.noSlash, steps_slash _ (by decide), h.step_eq]
      simp [step?]
    · have hJoin : (Path.mk text).join ⟨name⟩ = ⟨text ++ "/" ++ name⟩ := by
        simp [join, isEmpty, hEmpty, hStart, hSlash]
      rw [hJoin, steps_slash _ h.noSlash, steps_eq_openingSteps hEmpty, h.step_eq]
      rfl

theorem endsInSlash_join (directory : Path) {name : String} (h : IsEntryName name) :
    (directory.join ⟨name⟩).endsInSlash = false := by
  have hEnds (before : String) : Text.endsWith "/" (before ++ name) = false := by
    rw [Bool.eq_false_iff, ne_eq, Text.endsWith_iff]
    intro hSuffix
    have hName : name.toList ≠ [] := by simpa using h.ne_empty
    have hLast : (before ++ name).toList.getLast? = name.toList.getLast? := by
      rw [String.toList_append, List.getLast?_append_of_ne_nil _ hName]
    obtain ⟨rest, hRest⟩ := hSuffix
    rw [← hRest, List.getLast?_append_of_ne_nil _ (by decide)] at hLast
    exact h.noSlash (List.mem_of_getLast? hLast.symm)
  rw [endsInSlash, join]
  split
  · simpa using hEnds ""
  · split
    · exact hEnds _
    · exact hEnds _

theorem isEmpty_join (directory : Path) {name : String} (h : name ≠ "") :
    (directory.join ⟨name⟩).isEmpty = false := by
  rw [isEmpty, join]
  split
  · simpa using h
  · split <;> simp [h]

end Path

namespace Disk

variable {d : Disk} {location other : Location} {entry : DiskEntry}

theorem walk_snoc (d : Disk) (location : Location) (steps : List Path.Component)
    (last : Path.Component) :
    d.walk location (steps ++ [last]) = (do
      let next ← d.walk location steps
      d.walk next [last]) := by
  induction steps generalizing location with
  | nil => rfl
  | cons step rest ih =>
    rw [List.cons_append, walk, walk]
    split
    · rfl
    · rfl
    · cases hStep : takeStep location step with
      | error e => rfl
      | ok next => exact ih next

theorem walk_name (hDirectory : d.entryAt? location = some .directory) (name : String) :
    d.walk location [.name name] =
      if nameLimit < name.utf8ByteSize then .error .nameTooLong else .ok (location ++ [name]) := by
  rw [walk, hDirectory]
  simp only [takeStep]
  split <;> rfl

theorem entryAt?_insert_of_ne (h : location ≠ other) :
    (Disk.mk (d.entries.insert other entry)).entryAt? location = d.entryAt? location := by
  have hGet : (d.entries.insert other entry).get? location = d.entries.get? location := by
    rw [OrderedMap.insert, OrderedMap.get?_alter, if_neg (by simpa using h)]
  rw [entryAt?, entryAt?, hGet]

/-- Nothing that is put where no directory is changes the way of a path. -/
theorem walk_insert (hOther : d.entryAt? other ≠ some .directory) {steps : List Path.Component}
    {first : Location} (h : d.walk first steps = .ok location) :
    (Disk.mk (d.entries.insert other entry)).walk first steps = .ok location := by
  induction steps generalizing first with
  | nil => exact h
  | cons step rest ih =>
    rw [walk] at h ⊢
    cases hFirst : d.entryAt? first with
    | none =>
      rw [hFirst] at h
      cases h
    | some found =>
      cases found with
      | file content =>
        rw [hFirst] at h
        cases h
      | directory =>
        have hNe : first ≠ other := by
          rintro rfl
          exact hOther hFirst
        rw [entryAt?_insert_of_ne hNe, hFirst]
        rw [hFirst] at h
        obtain ⟨next, hStep, hRest⟩ := bind_eq_ok h
        dsimp only
        rw [hStep]
        exact ih hRest

/-- The location of a name in a directory is never one that is always there. -/
theorem entryAt?_snoc {name : String} (h : IsEntryName name) (d : Disk) (location : Location) :
    d.entryAt? (location ++ [name]) = d.entries.get? (location ++ [name]) := by
  have hUp : (name == "..") = false := by
    rw [beq_eq_false_iff_ne]
    rintro rfl
    exact absurd h.long (by decide)
  have hRoot : (location ++ [name] == ["/"]) = false := by
    rw [beq_eq_false_iff_ne]
    intro hEq
    have hLast := congrArg List.getLast? hEq
    rw [List.getLast?_append_of_ne_nil _ (by simp)] at hLast
    obtain rfl : name = "/" := by simpa using hLast
    exact absurd h.long (by decide)
  rw [entryAt?, List.all_append, hRoot]
  simp [hUp]

/-- A directory holds files only, given by their names. -/
structure Holds (d : Disk) (directory : Path) (location : Location)
    (content : String → Option String) : Prop where
  leads : d.walk [] directory.steps = .ok location
  isDirectory : d.entryAt? location = some .directory
  files : ∀ name, d.entries.get? (location ++ [name]) = (content name).map .file

/-- Why a name in a directory can never be used. -/
def refusal? (directory : Path) (name : String) : Option StorageError :=
  let text := (directory.join ⟨name⟩).text
  if text.toList.contains '\x00' then some .badName
  else if pathLimit ≤ text.utf8ByteSize then some .nameTooLong
  else if nameLimit < name.utf8ByteSize then some .nameTooLong
  else none

section Holding

variable {directory : Path} {content : String → Option String} {name : String}

theorem Holds.locate (h : d.Holds directory location content) (hName : IsEntryName name) :
    d.locate (directory.join ⟨name⟩) =
      (refusal? directory name).elim (.ok (location ++ [name])) .error := by
  rw [Disk.locate, Path.isEmpty_join directory hName.ne_empty, refusal?]
  split
  · rfl
  · simp only [Bool.false_eq_true, if_false]
    split
    · rfl
    · rw [Path.steps_join directory hName, walk_snoc, h.leads]
      refine (walk_name h.isDirectory name).trans ?_
      split <;> rfl

theorem Holds.read (h : d.Holds directory location content) (hName : IsEntryName name) :
    d.read (directory.join ⟨name⟩) =
      (refusal? directory name).elim ((content name).elim (.error .notFound) .ok) .error := by
  rw [Disk.read, h.locate hName]
  cases refusal? directory name with
  | some e => rfl
  | none =>
    simp only [Option.elim_none, bind, Except.bind, entryAt?_snoc hName, h.files,
      Path.endsInSlash_join directory hName]
    cases content name <;> rfl

/-- The files after one of them is written. -/
def withFile (content : String → Option String) (name text : String) : String → Option String :=
  fun other => if other = name then some text else content other

theorem Holds.write (h : d.Holds directory location content) (hName : IsEntryName name)
    (text : String) :
    (∃ e, refusal? directory name = some e ∧ d.write (directory.join ⟨name⟩) text = .error e) ∨
    (refusal? directory name = none ∧ ∃ written,
      d.write (directory.join ⟨name⟩) text = .ok written ∧
        written.Holds directory location (withFile content name text)) := by
  cases hRefusal : refusal? directory name with
  | some e =>
    refine .inl ⟨e, rfl, ?_⟩
    rw [Disk.write, h.locate hName, hRefusal]
    rfl
  | none =>
    have hFree : d.entryAt? (location ++ [name]) ≠ some .directory := by
      rw [entryAt?_snoc hName, h.files]
      cases content name <;> simp
    refine .inr ⟨rfl, ⟨d.entries.insert (location ++ [name]) (.file text)⟩, ?_,
      walk_insert hFree h.leads, ?_, ?_⟩
    · rw [Disk.write, h.locate hName, hRefusal]
      simp [bind, Except.bind, Path.endsInSlash_join directory hName, hFree]
    · rw [entryAt?_insert_of_ne (by simp)]
      exact h.isDirectory
    · intro other
      rw [OrderedMap.insert, OrderedMap.get?_alter, withFile]
      by_cases hOther : other = name
      · simp [hOther]
      · simp [hOther, h.files]

end Holding

section Making

variable {made : Disk} {directory : Path}

theorem leads_of_makeDirectory {steps : List Path.Component}
    (h : d.makeDirectory steps = .ok made) :
    ∃ location, made.walk [] steps = .ok location ∧
      made.entryAt? location = some .directory := by
  obtain ⟨location, hWalk, h⟩ := bind_eq_ok h
  cases hEntry : d.entryAt? location with
  | some found =>
    rw [hEntry] at h
    cases h
  | none =>
    rw [hEntry] at h
    cases h
    refine ⟨location, walk_insert (by simp [hEntry]) hWalk, ?_⟩
    rw [entryAt?] at hEntry ⊢
    split at hEntry
    · cases hEntry
    · rename_i hCommon
      rw [if_neg hCommon, OrderedMap.insert, OrderedMap.get?_alter, beq_self_eq_true]
      rfl

theorem leads_of_ensureDirectory {steps : List Path.Component}
    (h : d.ensureDirectory steps = .ok made) :
    ∃ location, made.walk [] steps = .ok location ∧
      made.entryAt? location = some .directory := by
  rw [ensureDirectory] at h
  split at h
  · rename_i hMade
    cases h
    exact leads_of_makeDirectory hMade
  · split at h
    · rename_i hLeads
      cases h
      rw [leadsToDirectory] at hLeads
      split at hLeads
      · rename_i location hWalk
        exact ⟨location, hWalk, by simpa using hLeads⟩
      · cases hLeads
    · cases h

/-- A directory that has been made is there. -/
theorem leads_of_makePath (h : d.makePath directory = .ok made) :
    ∃ location, made.walk [] directory.steps = .ok location ∧
      made.entryAt? location = some .directory := by
  rw [makePath] at h
  split at h
  · cases h
  · split at h
    · cases h
    · split at h
      · obtain ⟨before, -, h⟩ := bind_eq_ok h
        exact leads_of_ensureDirectory h
      · exact leads_of_ensureDirectory h

/-- There is nothing in a directory. -/
def HoldsNothing (d : Disk) (directory : Path) : Prop :=
  ∀ location, d.walk [] directory.steps = .ok location →
    ∀ name, d.entries.get? (location ++ [name]) = none

theorem holds_of_makePath (h : d.makePath directory = .ok made)
    (hNothing : made.HoldsNothing directory) :
    ∃ location, made.Holds directory location fun _ => none := by
  obtain ⟨location, hWalk, hDirectory⟩ := leads_of_makePath h
  exact ⟨location, hWalk, hDirectory, hNothing location hWalk⟩

/-- Making a directory again changes nothing. -/
theorem Holds.makePath {first : Disk} {content : String → Option String}
    (h : d.Holds directory location content) (hMade : first.makePath directory = .ok made) :
    d.makePath directory = .ok d := by
  have hExists : d.makeDirectory directory.steps = .error .alreadyExists := by
    rw [makeDirectory, h.leads]
    simp [bind, Except.bind, h.isDirectory]
  have hLeads : d.leadsToDirectory directory.steps = true := by
    rw [leadsToDirectory, h.leads]
    simp [h.isDirectory]
  have hEnsure : d.ensureDirectory directory.steps = .ok d := by
    rw [ensureDirectory, hExists]
    simp [hLeads]
  rw [Disk.makePath] at hMade ⊢
  split at hMade
  · cases hMade
  · split at hMade
    · cases hMade
    · rename_i hNul hLength
      rw [if_neg hNul, if_neg hLength, hExists]
      exact hEnsure

end Making

end Disk

end KotlinBackend
