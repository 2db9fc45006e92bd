/-!
# Cutting text at a separator

All cuts are defined on lists of characters, where each is a plain recursion; the versions on
strings only wrap them.
-/

namespace KotlinBackend.Text

/-- The pieces of a text between the occurrences of a separator. There is always at least one. -/
def splitOn (separator : Char) : List Char → List (List Char)
  | [] => [[]]
  | c :: rest =>
    if c = separator then [] :: splitOn separator rest
    else match splitOn separator rest with
      | [] => [[c]]
      | piece :: pieces => (c :: piece) :: pieces

theorem splitOn_of_not_mem {separator : Char} {text : List Char} (h : separator ∉ text) :
    splitOn separator text = [text] := by
  induction text with
  | nil => rfl
  | cons c rest ih =>
    obtain ⟨hc, hRest⟩ := not_or.mp (mt List.mem_cons.mpr h)
    rw [splitOn, if_neg (Ne.symm hc), ih hRest]

theorem splitOn_ne_nil (separator : Char) (text : List Char) : splitOn separator text ≠ [] := by
  cases text with
  | nil => exact List.cons_ne_nil _ _
  | cons c rest =>
    rw [splitOn]
    split
    · exact List.cons_ne_nil _ _
    · split <;> exact List.cons_ne_nil _ _

theorem splitOn_append (separator : Char) (before after : List Char) :
    splitOn separator (before ++ separator :: after) =
      splitOn separator before ++ splitOn separator after := by
  induction before with
  | nil => simp [splitOn]
  | cons c rest ih =>
    rw [List.cons_append, splitOn, splitOn]
    split
    · rw [ih, List.cons_append]
    · rw [ih]
      cases hRest : splitOn separator rest with
      | nil => exact absurd hRest (splitOn_ne_nil separator rest)
      | cons piece pieces => rfl

theorem splitOn_eq_list_splitOn (separator : Char) (text : List Char) :
    splitOn separator text = text.splitOn separator := by
  induction text with
  | nil => rfl
  | cons c rest ih =>
    rw [splitOn, List.splitOn_cons_eq_if_modifyHead]
    by_cases hc : c = separator
    · rw [if_pos hc, if_pos (by simpa using hc), ih]
    · rw [if_neg hc, if_neg (by simpa using hc), ← ih]
      cases hRest : splitOn separator rest with
      | nil => exact absurd hRest (splitOn_ne_nil separator rest)
      | cons piece pieces => rfl

theorem not_mem_of_mem_splitOn {separator : Char} {text piece : List Char}
    (h : piece ∈ splitOn separator text) : separator ∉ piece := by
  induction text generalizing piece with
  | nil =>
    rw [List.mem_singleton.mp h]
    exact List.not_mem_nil
  | cons c rest ih =>
    rw [splitOn] at h
    split at h
    · rcases List.mem_cons.mp h with rfl | h
      · exact List.not_mem_nil
      · exact ih h
    · rename_i hc
      cases hRest : splitOn separator rest with
      | nil => exact absurd hRest (splitOn_ne_nil separator rest)
      | cons first others =>
        rw [hRest] at h ih
        rcases List.mem_cons.mp h with rfl | h
        · intro hMem
          rcases List.mem_cons.mp hMem with hEq | hMem
          · exact hc hEq.symm
          · exact ih List.mem_cons_self hMem
        · exact ih (List.mem_cons_of_mem _ h)

def splitFirst (separator : Char) : List Char → Option (List Char × List Char)
  | [] => none
  | c :: rest =>
    if c = separator then some ([], rest)
    else (splitFirst separator rest).map fun (before, after) => (c :: before, after)

theorem splitFirst_of_not_mem {separator : Char} {text : List Char} (h : separator ∉ text) :
    splitFirst separator text = none := by
  induction text with
  | nil => rfl
  | cons c rest ih =>
    obtain ⟨hc, hRest⟩ := not_or.mp (mt List.mem_cons.mpr h)
    rw [splitFirst, if_neg (Ne.symm hc), ih hRest, Option.map_none]

theorem splitFirst_append {separator : Char} {before : List Char} (after : List Char)
    (h : separator ∉ before) :
    splitFirst separator (before ++ separator :: after) = some (before, after) := by
  induction before with
  | nil => exact if_pos rfl
  | cons c rest ih =>
    obtain ⟨hc, hRest⟩ := not_or.mp (mt List.mem_cons.mpr h)
    rw [List.cons_append, splitFirst, if_neg (Ne.symm hc), ih hRest, Option.map_some]

def splitLast (separator : Char) : List Char → Option (List Char × List Char)
  | [] => none
  | c :: rest =>
    match splitLast separator rest with
    | some (before, after) => some (c :: before, after)
    | none => if c = separator then some ([], rest) else none

theorem eq_append_of_splitLast {separator : Char} {text before after : List Char}
    (h : splitLast separator text = some (before, after)) :
    text = before ++ separator :: after ∧ separator ∉ after := by
  induction text generalizing before after with
  | nil => simp [splitLast] at h
  | cons c rest ih =>
    simp only [splitLast] at h
    cases hr : splitLast separator rest with
    | some parts =>
      obtain ⟨b, a⟩ := parts
      rw [hr] at h
      obtain ⟨rfl, rfl⟩ : c :: b = before ∧ a = after := by simpa using h
      obtain ⟨ht, ha⟩ := ih hr
      exact ⟨by simp [ht], ha⟩
    | none =>
      rw [hr] at h
      by_cases hc : c = separator
      · simp only [hc, if_true, Option.some.injEq, Prod.mk.injEq] at h
        obtain ⟨rfl, rfl⟩ := h
        refine ⟨by simp [hc], ?_⟩
        intro hmem
        have hsome : ∀ t : List Char, separator ∈ t → (splitLast separator t).isSome := by
          intro t
          induction t with
          | nil => simp
          | cons d t iht =>
            intro hd
            simp only [splitLast]
            split
            · rfl
            · rename_i hn
              rcases List.mem_cons.mp hd with rfl | ht
              · simp
              · simp [hn] at iht
                exact absurd ht iht
        simpa [hr] using hsome _ hmem
      · simp [hc] at h

theorem splitLast_of_not_mem {separator : Char} {text : List Char} (h : separator ∉ text) :
    splitLast separator text = none := by
  induction text with
  | nil => rfl
  | cons c rest ih =>
    obtain ⟨hc, hRest⟩ := not_or.mp (mt List.mem_cons.mpr h)
    rw [splitLast, ih hRest]
    exact if_neg (Ne.symm hc)

theorem splitLast_append {separator : Char} {after : List Char} (before : List Char)
    (h : separator ∉ after) :
    splitLast separator (before ++ separator :: after) = some (before, after) := by
  induction before with
  | nil =>
    rw [List.nil_append, splitLast, splitLast_of_not_mem h]
    exact if_pos rfl
  | cons c rest ih => rw [List.cons_append, splitLast, ih]

def pieces (separator : Char) (text : String) : List String :=
  (splitOn separator text.toList).map String.ofList

def cutLast (separator : Char) (text : String) : Option (String × String) :=
  (splitLast separator text.toList).map fun (before, after) =>
    (String.ofList before, String.ofList after)

theorem intercalate_pieces (separator : Char) (text : String) :
    (String.singleton separator).intercalate (pieces separator text) = text := by
  apply String.toList_injective
  rw [String.toList_intercalate, pieces, splitOn_eq_list_splitOn, List.map_map]
  have hId : String.toList ∘ String.ofList = id := funext fun _ => String.toList_ofList
  rw [hId, List.map_id, String.toList_singleton, List.intercalate_splitOn]

theorem pieces_intercalate {separator : Char} {parts : List String} (hParts : parts ≠ [])
    (h : ∀ part ∈ parts, separator ∉ part.toList) :
    pieces separator ((String.singleton separator).intercalate parts) = parts := by
  have hLists : ∀ part ∈ parts.map String.toList, separator ∉ part := by
    simpa using h
  rw [pieces, splitOn_eq_list_splitOn, String.toList_intercalate, String.toList_singleton,
    List.splitOn_intercalate separator hLists (by simpa using hParts), List.map_map]
  have hId : String.ofList ∘ String.toList = id := funext fun _ => String.ofList_toList
  rw [hId, List.map_id]

theorem cutLast_eq_some_iff {separator : Char} {text before after : String} :
    cutLast separator text = some (before, after) ↔
      text = before ++ String.singleton separator ++ after ∧ separator ∉ after.toList := by
  constructor
  · intro h
    obtain ⟨⟨b, a⟩, hSplit, hParts⟩ := Option.map_eq_some_iff.mp h
    obtain ⟨rfl, rfl⟩ := Prod.mk.inj hParts
    obtain ⟨hText, hAfter⟩ := eq_append_of_splitLast hSplit
    refine ⟨String.toList_injective ?_, by simpa using hAfter⟩
    simp [hText]
  · rintro ⟨rfl, hAfter⟩
    rw [cutLast]
    simp [splitLast_append before.toList hAfter]

def cutFirst (separator : Char) (text : String) : Option (String × String) :=
  (splitFirst separator text.toList).map fun (before, after) =>
    (String.ofList before, String.ofList after)

def dropStart? : (beginning text : List Char) → Option (List Char)
  | [], text => some text
  | _ :: _, [] => none
  | b :: beginning, c :: text => if b = c then dropStart? beginning text else none

def dropEnding? (ending text : List Char) : Option (List Char) :=
  (dropStart? ending.reverse text.reverse).map List.reverse

theorem dropStart?_append (beginning rest : List Char) :
    dropStart? beginning (beginning ++ rest) = some rest := by
  induction beginning with
  | nil => rfl
  | cons b beginning ih => simpa [dropStart?] using ih

theorem dropEnding?_append (before ending : List Char) :
    dropEnding? ending (before ++ ending) = some before := by
  rw [dropEnding?, List.reverse_append, dropStart?_append, Option.map_some, List.reverse_reverse]

theorem dropStart?_eq_some_iff {beginning text rest : List Char} :
    dropStart? beginning text = some rest ↔ text = beginning ++ rest := by
  constructor
  · intro h
    induction beginning generalizing text with
    | nil => exact Option.some.inj h
    | cons b beginning ih =>
      cases text with
      | nil => cases h
      | cons c text =>
        rw [dropStart?] at h
        split at h
        · rename_i hc
          rw [hc, ih h, List.cons_append]
        · cases h
  · rintro rfl
    exact dropStart?_append beginning rest

theorem dropEnding?_eq_some_iff {ending text rest : List Char} :
    dropEnding? ending text = some rest ↔ text = rest ++ ending := by
  constructor
  · intro h
    obtain ⟨before, hBefore, rfl⟩ := Option.map_eq_some_iff.mp h
    rw [← List.reverse_inj, dropStart?_eq_some_iff.mp hBefore]
    simp
  · rintro rfl
    exact dropEnding?_append rest ending

def startsWith (beginning text : String) : Bool :=
  (dropStart? beginning.toList text.toList).isSome

def endsWith (ending text : String) : Bool :=
  (dropEnding? ending.toList text.toList).isSome

theorem startsWith_iff {beginning text : String} :
    startsWith beginning text = true ↔ beginning.toList <+: text.toList := by
  rw [startsWith, Option.isSome_iff_exists]
  exact exists_congr fun rest => dropStart?_eq_some_iff.trans eq_comm

theorem endsWith_iff {ending text : String} :
    endsWith ending text = true ↔ ending.toList <:+ text.toList := by
  rw [endsWith, Option.isSome_iff_exists]
  exact exists_congr fun rest => dropEnding?_eq_some_iff.trans eq_comm

def replicate (count : Nat) (text : String) : String :=
  String.ofList (List.replicate count text.toList).flatten

end KotlinBackend.Text
