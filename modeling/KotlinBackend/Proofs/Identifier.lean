import KotlinBackend.Name.CallableId

/-!
# The text of identifiers

A text is accepted as an identifier exactly if it is the text of that identifier and none of the
names in the identifier contains what separates it from its neighbours. The package of a class is
not restricted: it may contain slashes, since only the last slash ends it.
-/

namespace KotlinBackend

/-- Reading accepts the texts of the values that can be written, each as that value, and nothing
else. -/
structure HasExactText (parse : String → Except ε α) (text : α → String) (writable : α → Prop) :
    Prop where
  text_of_parse : ∀ s a, parse s = .ok a → text a = s
  parse_text : ∀ a, writable a → parse (text a) = .ok a
  parsed_iff : ∀ a, (∃ s, parse s = .ok a) ↔ writable a
  text_injective : ∀ a b, writable a → writable b → text a = text b → a = b

theorem HasExactText.of_parse_iff {parse : String → Except ε α} {text : α → String}
    {writable : α → Prop} (h : ∀ s a, parse s = .ok a ↔ writable a ∧ text a = s) :
    HasExactText parse text writable where
  text_of_parse s a hParse := ((h s a).mp hParse).2
  parse_text a hWritable := (h (text a) a).mpr ⟨hWritable, rfl⟩
  parsed_iff a := by
    constructor
    · rintro ⟨s, hParse⟩
      exact ((h s a).mp hParse).1
    · intro hWritable
      exact ⟨text a, (h (text a) a).mpr ⟨hWritable, rfl⟩⟩
  text_injective a b ha hb hText := by
    have hParseA := (h (text b) a).mpr ⟨ha, hText⟩
    have hParseB := (h (text b) b).mpr ⟨hb, rfl⟩
    exact Except.ok.inj (hParseA.symm.trans hParseB)

structure ClassId.Writable (id : ClassId) : Prop where
  names_ne_nil : id.names ≠ []
  noEmpty : "" ∉ id.names
  noDot : ∀ name ∈ id.names, '.' ∉ name.toList
  noSlash : ∀ name ∈ id.names, '/' ∉ name.toList

/-- A member is in the package of its class, so that only the class restricts it. -/
def Owner.Writable : Owner → Prop
  | inPackage name => '/' ∉ name.text.toList
  | inClass id => id.Writable

structure CallableId.Writable (id : CallableId) : Prop where
  name_ne_empty : id.name ≠ ""
  noHash : '#' ∉ id.name.toList
  owner : id.owner.Writable

/-- Joining names adds dots and nothing else. -/
theorem mem_intercalate_dot {c : Char} (hc : c ≠ '.') (names : List String) :
    c ∈ (".".intercalate names).toList ↔ ∃ name ∈ names, c ∈ name.toList := by
  induction names with
  | nil => simp
  | cons name rest ih =>
    cases rest with
    | nil => simp
    | cons next others =>
      rw [String.intercalate_cons_cons, String.toList_append, String.toList_append,
        List.mem_append, List.mem_append, ih]
      simp [hc]

theorem ClassId.parse_eq_ok_iff {s : String} {id : ClassId} :
    ClassId.parse s = .ok id ↔ id.Writable ∧ id.text = s := by
  constructor
  · intro h
    rw [ClassId.parse] at h
    split at h
    · cases h
    rename_i package relative hCut
    obtain ⟨rfl, hSlash⟩ := Text.cutLast_eq_some_iff.mp hCut
    have hJoined : ".".intercalate (Text.pieces '.' relative) = relative :=
      Text.intercalate_pieces '.' relative
    dsimp only at h
    split at h
    · cases h
    rename_i hEmpty
    cases h
    refine ⟨⟨?_, by simpa using hEmpty, ?_, ?_⟩, ?_⟩
    · simp [Text.pieces, Text.splitOn_ne_nil]
    · intro name hName
      obtain ⟨piece, hPiece, rfl⟩ := List.mem_map.mp hName
      simpa using Text.not_mem_of_mem_splitOn hPiece
    · intro name hName hMem
      apply hSlash
      rw [← hJoined, mem_intercalate_dot (by decide)]
      exact ⟨name, hName, hMem⟩
    · exact congrArg (package ++ "/" ++ ·) hJoined
  · rintro ⟨h, rfl⟩
    have hSlash : '/' ∉ id.relativeName.toList := by
      intro hMem
      obtain ⟨name, hName, hMem⟩ := (mem_intercalate_dot (by decide) id.names).mp hMem
      exact h.noSlash name hName hMem
    have hCut : Text.cutLast '/' id.text = some (id.package.text, id.relativeName) :=
      Text.cutLast_eq_some_iff.mpr ⟨rfl, hSlash⟩
    have hPieces : Text.pieces '.' id.relativeName = id.names :=
      Text.pieces_intercalate h.names_ne_nil h.noDot
    rw [ClassId.parse, hCut]
    dsimp only
    rw [hPieces, if_neg (by simpa using h.noEmpty)]

theorem ClassId.slash_mem_text (id : ClassId) : '/' ∈ id.text.toList := by
  simp [ClassId.text]

theorem CallableId.parse_eq_ok_iff {s : String} {id : CallableId} :
    CallableId.parse s = .ok id ↔ id.Writable ∧ id.text = s := by
  constructor
  · intro h
    rw [CallableId.parse] at h
    split at h
    · cases h
    rename_i owner name hCut
    obtain ⟨rfl, hHash⟩ := Text.cutLast_eq_some_iff.mp hCut
    split at h
    · cases h
    rename_i hName
    have hName : name ≠ "" := by simpa using hName
    split at h
    · cases hParse : ClassId.parse owner with
      | error e =>
        rw [hParse] at h
        cases h
      | ok holder =>
        rw [hParse] at h
        cases h
        obtain ⟨hHolder, rfl⟩ := ClassId.parse_eq_ok_iff.mp hParse
        exact ⟨⟨hName, hHash, hHolder⟩, rfl⟩
    · rename_i hSlash
      have hSlash : '/' ∉ owner.toList := by simpa using hSlash
      cases h
      exact ⟨⟨hName, hHash, hSlash⟩, rfl⟩
  · rintro ⟨h, rfl⟩
    obtain ⟨owner, name⟩ := id
    have hCut : Text.cutLast '#' (CallableId.text ⟨owner, name⟩) = some (owner.text, name) :=
      Text.cutLast_eq_some_iff.mpr ⟨rfl, h.noHash⟩
    rw [CallableId.parse, hCut]
    dsimp only
    rw [if_neg (by simpa using h.name_ne_empty)]
    cases owner with
    | inPackage package =>
      have hSlash : '/' ∉ package.text.toList := h.owner
      rw [Owner.text, if_neg (by simpa using hSlash)]
      rfl
    | inClass holder =>
      have hParse : ClassId.parse holder.text = .ok holder :=
        ClassId.parse_eq_ok_iff.mpr ⟨h.owner, rfl⟩
      rw [Owner.text, if_pos (by simpa using holder.slash_mem_text), hParse]
      rfl

theorem identifiers_have_exact_text :
    HasExactText ClassId.parse ClassId.text ClassId.Writable ∧
      HasExactText CallableId.parse CallableId.text CallableId.Writable :=
  ⟨.of_parse_iff fun _ _ => ClassId.parse_eq_ok_iff,
    .of_parse_iff fun _ _ => CallableId.parse_eq_ok_iff⟩

end KotlinBackend
