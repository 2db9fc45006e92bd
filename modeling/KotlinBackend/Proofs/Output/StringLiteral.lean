import KotlinBackend.Json.Reader
import KotlinBackend.Output.Layout
import KotlinBackend.Output.Literal

/-!
# Reading string literals and templates

A reader goes through the text between two quotes from left to right. It understands the escapes of
a literal and, in a template, doubled braces and the openings of holes. A literal is read as the
string it was written for. A template is read as its texts with its holes between them, as long as
the code in no hole starts with a brace: the opening brace of the hole would be read as half of a
doubled one.
-/

namespace KotlinBackend.Output

/-- The characters that a backslash and another character stand for. -/
def shortEscapes : List (Char × Char) :=
  [('"', '"'), ('\\', '\\'), ('n', '\n'), ('r', '\r'), ('t', '\t'), ('0', '\x00')]

/-- The number that hexadecimal digits stand for. -/
def hexCode? (digits : List Char) : Option Nat :=
  (digits.mapM Json.hexValue?).map (List.foldl (fun n digit => 16 * n + digit) 0)

/-- The character of four hexadecimal digits, and what follows them. -/
def readCode (text : List Char) : Option (Char × List Char) :=
  match hexCode? (text.take 4) with
  | some code =>
    if (text.take 4).length = 4 ∧ code.isValidChar then some (Char.ofNat code, text.drop 4)
    else none
  | none => none

/-- The character of an escape after its backslash, and what follows it. -/
def readEscape : List Char → Option (Char × List Char)
  | [] => none
  | c :: rest =>
    if c = 'u' then readCode rest else (shortEscapes.lookup c).map fun char => (char, rest)

/-- What is met in the text of a literal or a template. -/
inductive Item where
  | char (c : Char)
  /-- A quote that is not escaped. -/
  | quote
  /-- The brace that opens a hole. -/
  | hole

/-- The first item of a text and what follows it. There is none in front of a control character, a
faulty escape or, in a template, a closing brace that is not doubled. -/
def readItem (isTemplate : Bool) : List Char → Option (Item × List Char)
  | [] => none
  | c :: rest =>
    if c = '"' then some (.quote, rest)
    else if c = '\\' then (readEscape rest).map fun (char, rest) => (.char char, rest)
    else if isTemplate ∧ c = '{' then
      if rest.head? = some '{' then some (.char '{', rest.tail) else some (.hole, rest)
    else if isTemplate ∧ c = '}' then
      if rest.head? = some '}' then some (.char '}', rest.tail) else none
    else if Text.isControl c then none
    else some (.char c, rest)

theorem length_readEscape {text rest : List Char} {c : Char}
    (h : readEscape text = some (c, rest)) :
    rest.length < text.length := by
  cases text with
  | nil => cases h
  | cons e tail =>
    rw [readEscape] at h
    split at h
    · rw [readCode] at h
      split at h
      · split at h
        · obtain ⟨-, rfl⟩ := Prod.mk.inj (Option.some.inj h)
          rw [List.length_drop, List.length_cons]
          omega
        · cases h
      · cases h
    · obtain ⟨char, -, hChar⟩ := Option.map_eq_some_iff.mp h
      obtain ⟨-, rfl⟩ := Prod.mk.inj hChar
      exact Nat.lt_succ_self _

theorem length_readItem {isTemplate : Bool} {text rest : List Char} {item : Item}
    (h : readItem isTemplate text = some (item, rest)) : rest.length < text.length := by
  cases text with
  | nil => cases h
  | cons c tail =>
    have hTail : tail.length < (c :: tail).length := Nat.lt_succ_self _
    have hShorter : tail.tail.length < (c :: tail).length := by
      rw [List.length_tail]
      omega
    rw [readItem] at h
    split at h
    · cases h
      exact hTail
    split at h
    · obtain ⟨⟨char, after⟩, hEscape, hItem⟩ := Option.map_eq_some_iff.mp h
      cases hItem
      exact Nat.lt_trans (length_readEscape hEscape) hTail
    split at h
    · split at h <;> cases h
      · exact hShorter
      · exact hTail
    split at h
    · split at h <;> cases h
      exact hShorter
    split at h <;> cases h
    exact hTail

/-- The characters up to a quote or a hole, what ends them, and what follows. -/
def readText (isTemplate : Bool) (text : List Char) : Option (List Char × Item × List Char) :=
  match _h : readItem isTemplate text with
  | none => none
  | some (.char c, rest) =>
    (readText isTemplate rest).map fun (chars, stop) => (c :: chars, stop)
  | some (.quote, rest) => some ([], .quote, rest)
  | some (.hole, rest) => some ([], .hole, rest)
termination_by text.length
decreasing_by exact length_readItem _h

/-- The string of a literal. Its closing quote is the last character. -/
def readLiteral (text : String) : Option String := do
  let body ← Text.dropStart? ['"'] text.toList
  match readText false body with
  | some (chars, .quote, []) => some (String.ofList chars)
  | _ => none

/-- The texts of a template after its opening quote, when the code in its holes is known. -/
def readPieces : (codes : List String) → (text : List Char) → Option (List String)
  | [], text =>
    match readText true text with
    | some (chars, .quote, []) => some [String.ofList chars]
    | _ => none
  | code :: codes, text =>
    match readText true text with
    | some (chars, .hole, rest) =>
      ((Text.dropStart? (code.toList ++ ['}']) rest).bind (readPieces codes)).map
        (String.ofList chars :: ·)
    | _ => none

/-- The texts of a template before, between and behind holes with the given code. -/
def readTemplate (codes : List String) (text : String) : Option (List String) := do
  let body ← Text.dropStart? ['$', '"'] text.toList
  readPieces codes body

section Text

variable {isTemplate : Bool} {text rest : List Char}

theorem readText_of_char {c : Char} (h : readItem isTemplate text = some (.char c, rest)) :
    readText isTemplate text =
      (readText isTemplate rest).map fun (chars, stop) => (c :: chars, stop) := by
  rw [readText]
  split <;> simp_all

theorem readText_of_quote (h : readItem isTemplate text = some (.quote, rest)) :
    readText isTemplate text = some ([], .quote, rest) := by
  rw [readText]
  split <;> simp_all

theorem readText_of_hole (h : readItem isTemplate text = some (.hole, rest)) :
    readText isTemplate text = some ([], .hole, rest) := by
  rw [readText]
  split <;> simp_all

end Text

theorem hexValue?_digitChar :
    ∀ d < 16, Json.hexValue? (Nat.digitChar d) = some d ∧
      Text.isControl (Nat.digitChar d) = false := by
  decide +kernel

theorem fourHexDigits_eq {n : Nat} (h : n < 0x100) :
    fourHexDigits n = ['0', '0', Nat.digitChar (n / 16), Nat.digitChar (n % 16)] := by
  rw [fourHexDigits, Text.hexDigits]
  by_cases hSmall : n < 16
  · rw [Nat.toDigits_of_lt_base hSmall, Nat.div_eq_of_lt hSmall, Nat.mod_eq_of_lt hSmall]
    rfl
  · have hTens : n / 16 < 16 := by omega
    rw [Nat.toDigits_of_base_le (by decide) (Nat.le_of_not_lt hSmall),
      Nat.toDigits_of_lt_base hTens]
    rfl

/-- The digits of a small number are read as the number. -/
theorem hexCode?_fourHexDigits {n : Nat} (h : n < 0x100) :
    hexCode? (fourHexDigits n) = some n := by
  have hZero : Json.hexValue? '0' = some 0 := (hexValue?_digitChar 0 (by decide)).1
  have hTens := (hexValue?_digitChar (n / 16) (by omega)).1
  have hOnes := (hexValue?_digitChar (n % 16) (by omega)).1
  rw [hexCode?, fourHexDigits_eq h]
  simp only [List.mapM_cons, List.mapM_nil, hZero, hTens, hOnes]
  have hSum : 16 * (16 * (16 * (16 * 0 + 0) + 0) + n / 16) + n % 16 = n := by omega
  exact congrArg some hSum

theorem isControl_fourHexDigits {n : Nat} (h : n < 0x100) :
    ∀ digit ∈ fourHexDigits n, Text.isControl digit = false := by
  have hZero : Text.isControl '0' = false := by decide
  have hTens := (hexValue?_digitChar (n / 16) (by omega)).2
  have hOnes := (hexValue?_digitChar (n % 16) (by omega)).2
  rw [fourHexDigits_eq h]
  simp only [List.forall_mem_cons]
  exact ⟨hZero, hZero, hTens, hOnes, List.forall_mem_nil _⟩

theorem toNat_lt_of_isControl {c : Char} (h : Text.isControl c = true) : c.toNat < 0x100 := by
  simp only [Text.isControl, Bool.or_eq_true, Bool.and_eq_true, decide_eq_true_eq] at h
  omega

theorem readCode_fourHexDigits {c : Char} (h : Text.isControl c = true) (rest : List Char) :
    readCode (fourHexDigits c.toNat ++ rest) = some (c, rest) := by
  have hSmall := toNat_lt_of_isControl h
  have hLength : (fourHexDigits c.toNat).length = 4 := by
    rw [fourHexDigits_eq hSmall]
    rfl
  have hTake : (fourHexDigits c.toNat ++ rest).take 4 = fourHexDigits c.toNat :=
    List.take_left' hLength
  have hDrop : (fourHexDigits c.toNat ++ rest).drop 4 = rest := List.drop_left' hLength
  have hValid : c.toNat.isValidChar := c.valid
  simp only [readCode, hTake, hexCode?_fourHexDigits hSmall]
  rw [if_pos ⟨hLength, hValid⟩, hDrop, Char.ofNat_toNat]

theorem shortEscapes_spec :
    ∀ entry ∈ shortEscapes, escapeChar entry.2 = ['\\', entry.1] ∧ entry.1 ≠ 'u' ∧
      shortEscapes.lookup entry.1 = some entry.2 ∧ Text.isControl entry.1 = false := by
  decide

/-- How a character is written: by a short escape, by its number, or as itself. -/
theorem escapeChar_cases (c : Char) :
    (∃ e, (e, c) ∈ shortEscapes ∧ escapeChar c = ['\\', e]) ∨
    (Text.isControl c = true ∧ escapeChar c = '\\' :: 'u' :: fourHexDigits c.toNat) ∨
    (c ≠ '"' ∧ c ≠ '\\' ∧ Text.isControl c = false ∧ escapeChar c = [c]) := by
  by_cases hShort : ∃ e, (e, c) ∈ shortEscapes
  · obtain ⟨e, he⟩ := hShort
    exact .inl ⟨e, he, (shortEscapes_spec _ he).1⟩
  · have hOther : ∀ entry ∈ shortEscapes, c ≠ entry.2 := by
      rintro ⟨e, _⟩ he rfl
      exact hShort ⟨e, he⟩
    simp only [shortEscapes, List.forall_mem_cons] at hOther
    obtain ⟨hQuote, hBackslash, hLine, hReturn, hTab, hNull, -⟩ := hOther
    have hLong : escapeChar c =
        if Text.isControl c then '\\' :: 'u' :: fourHexDigits c.toNat else [c] := by
      rw [escapeChar, if_neg hQuote, if_neg hBackslash, if_neg hLine, if_neg hReturn,
        if_neg hTab, if_neg hNull]
    cases hControl : Text.isControl c with
    | true => exact .inr (.inl ⟨rfl, by rw [hLong, if_pos hControl]⟩)
    | false =>
      exact .inr (.inr ⟨hQuote, hBackslash, rfl,
        by rw [hLong, if_neg (Bool.eq_false_iff.mp hControl)]⟩)

theorem readItem_escapeChar {isTemplate : Bool} {c : Char}
    (hBraces : isTemplate = true → c ≠ '{' ∧ c ≠ '}') (rest : List Char) :
    readItem isTemplate (escapeChar c ++ rest) = some (.char c, rest) := by
  have hEscape (tail : List Char) : readItem isTemplate ('\\' :: tail) =
      (readEscape tail).map fun (char, rest) => (.char char, rest) := rfl
  rcases escapeChar_cases c with ⟨e, hShort, hc⟩ | ⟨hControl, hc⟩ |
    ⟨hQuote, hBackslash, hControl, hc⟩
  · obtain ⟨-, hCode, hLookup, -⟩ := shortEscapes_spec _ hShort
    rw [hc, List.cons_append, hEscape, List.singleton_append, readEscape, if_neg hCode, hLookup]
    rfl
  · rw [hc, List.cons_append, hEscape, List.cons_append, readEscape, if_pos rfl,
      readCode_fourHexDigits hControl]
    rfl
  · have hOpen : ¬ (isTemplate = true ∧ c = '{') := fun h => (hBraces h.1).1 h.2
    have hClose : ¬ (isTemplate = true ∧ c = '}') := fun h => (hBraces h.1).2 h.2
    rw [hc, List.singleton_append, readItem, if_neg hQuote, if_neg hBackslash, if_neg hOpen,
      if_neg hClose, if_neg (Bool.eq_false_iff.mp hControl)]

theorem readItem_escapeTemplateChar (c : Char) (rest : List Char) :
    readItem true (escapeTemplateChar c ++ rest) = some (.char c, rest) := by
  rw [escapeTemplateChar]
  split
  · rename_i hc
    subst hc
    rfl
  split
  · rename_i hc
    subst hc
    rfl
  · rename_i hOpen hClose
    exact readItem_escapeChar (fun _ => ⟨hOpen, hClose⟩) rest

theorem isControl_escapeChar (c : Char) : ∀ d ∈ escapeChar c, Text.isControl d = false := by
  have hBackslash : Text.isControl '\\' = false := by decide
  rcases escapeChar_cases c with ⟨e, hShort, hc⟩ | ⟨hControl, hc⟩ | ⟨-, -, hControl, hc⟩
  · obtain ⟨-, -, -, hLetter⟩ := shortEscapes_spec _ hShort
    rw [hc]
    exact List.forall_mem_cons.mpr ⟨hBackslash, List.forall_mem_singleton.mpr hLetter⟩
  · have hDigits := isControl_fourHexDigits (toNat_lt_of_isControl hControl)
    rw [hc]
    exact List.forall_mem_cons.mpr
      ⟨hBackslash, List.forall_mem_cons.mpr ⟨by decide, hDigits⟩⟩
  · rw [hc]
    exact List.forall_mem_singleton.mpr hControl

/-- Reading goes through escaped characters to what follows them. -/
theorem readText_flatMap {isTemplate : Bool} {write : Char → List Char}
    (h : ∀ c rest, readItem isTemplate (write c ++ rest) = some (.char c, rest))
    (chars rest : List Char) :
    readText isTemplate (chars.flatMap write ++ rest) =
      (readText isTemplate rest).map fun (more, stop) => (chars ++ more, stop) := by
  induction chars with
  | nil => simp
  | cons c tail ih =>
    rw [List.flatMap_cons, List.append_assoc, readText_of_char (h c _), ih, Option.map_map]
    rfl

theorem readText_quote (isTemplate : Bool) (rest : List Char) :
    readText isTemplate ('"' :: rest) = some ([], .quote, rest) :=
  readText_of_quote rfl

theorem toList_literal_string (s : String) :
    (literal (.string s)).toList = '"' :: (s.toList.flatMap escapeChar ++ ['"']) := by
  simp [literal, escape]

theorem readLiteral_string (s : String) : readLiteral (literal (.string s)) = some s := by
  have hChar (c : Char) (rest : List Char) :
      readItem false (escapeChar c ++ rest) = some (.char c, rest) :=
    readItem_escapeChar (fun h => absurd h Bool.false_ne_true) rest
  have hBody : readText false (s.toList.flatMap escapeChar ++ ['"']) =
      some (s.toList, .quote, []) := by
    rw [readText_flatMap hChar, readText_quote]
    simp
  have hStart : Text.dropStart? ['"'] (literal (.string s)).toList =
      some (s.toList.flatMap escapeChar ++ ['"']) := by
    rw [toList_literal_string]
    exact Text.dropStart?_append ['"'] _
  simp [readLiteral, hStart, hBody]

theorem isControl_literal_string (s : String) :
    ∀ c ∈ (literal (.string s)).toList, Text.isControl c = false := by
  have hQuote : Text.isControl '"' = false := by decide
  rw [toList_literal_string, List.forall_mem_cons]
  refine ⟨hQuote, fun c hc => ?_⟩
  rcases List.mem_append.mp hc with hc | hc
  · obtain ⟨d, -, hc⟩ := List.mem_flatMap.mp hc
    exact isControl_escapeChar d c hc
  · rw [List.mem_singleton.mp hc, hQuote]

namespace Part

/-- The code in the holes of a template. -/
def codes : List Part → List String
  | [] => []
  | .text _ :: rest => codes rest
  | .hole code :: rest => code.onOneLine :: codes rest

/-- The texts of a template before, between and behind its holes. -/
def pieces : List Part → List String
  | [] => [""]
  | .text content :: rest => (pieces rest).modifyHead (content ++ ·)
  | .hole _ :: rest => "" :: pieces rest

end Part

/-- Characters that are read before others belong to the first text. -/
theorem readPieces_of_readText {text rest : List Char} {content : String}
    (h : readText true text =
      (readText true rest).map fun (more, stop) => (content.toList ++ more, stop))
    (codes : List String) :
    readPieces codes text = (readPieces codes rest).map (List.modifyHead (content ++ ·)) := by
  cases hRest : readText true rest with
  | none => cases codes <;> simp [readPieces, h, hRest]
  | some found =>
    obtain ⟨more, stop, after⟩ := found
    cases codes with
    | nil =>
      cases stop with
      | char | hole => simp [readPieces, h, hRest]
      | quote => cases after <;> simp [readPieces, h, hRest, String.ofList_append]
    | cons code codes =>
      cases stop with
      | char | quote => simp [readPieces, h, hRest]
      | hole =>
        simp only [readPieces, h, hRest, Option.map_some, Option.map_map, String.ofList_append,
          String.ofList_toList]
        rfl

theorem readPieces_escapeTemplate (codes : List String) (content : String) (rest : List Char) :
    readPieces codes ((escapeTemplate content).toList ++ rest) =
      (readPieces codes rest).map (List.modifyHead (content ++ ·)) := by
  apply readPieces_of_readText
  rw [escapeTemplate, String.toList_ofList, readText_flatMap readItem_escapeTemplateChar]

/-- Two braces are read as one, also where the first of them was to open a hole. -/
theorem readPieces_doubled (codes : List String) (rest : List Char) :
    readPieces codes ('{' :: '{' :: rest) =
      (readPieces codes rest).map (List.modifyHead ("\x7b" ++ ·)) := by
  apply readPieces_of_readText
  rw [readText_of_char (rfl : readItem true ('{' :: '{' :: rest) = some (.char '{', rest))]
  rfl

theorem readPieces_hole {code : String} (h : code.toList.head? ≠ some '{') (codes : List String)
    (rest : List Char) :
    readPieces (code :: codes) ('{' :: (code.toList ++ '}' :: rest)) =
      (readPieces codes rest).map ("" :: ·) := by
  have hHead : (code.toList ++ '}' :: rest).head? ≠ some '{' := by
    cases hCode : code.toList with
    | nil => simp
    | cons c tail => simpa [hCode] using h
  have hItem : readItem true ('{' :: (code.toList ++ '}' :: rest)) =
      some (.hole, code.toList ++ '}' :: rest) := by
    rw [readItem, if_neg (by decide), if_neg (by decide), if_pos ⟨rfl, rfl⟩, if_neg hHead]
  have hDrop : Text.dropStart? (code.toList ++ ['}']) (code.toList ++ '}' :: rest) = some rest := by
    have hAppend := Text.dropStart?_append (code.toList ++ ['}']) rest
    rwa [List.append_assoc] at hAppend
  simp only [readPieces, readText_of_hole hItem, hDrop]
  rfl

theorem modifyHead_append_injective (content : String) :
    Function.Injective (List.modifyHead (content ++ ·)) := by
  intro texts texts' h
  cases texts with
  | nil =>
    cases texts' with
    | nil => rfl
    | cons first rest => cases h
  | cons first rest =>
    cases texts' with
    | nil => cases h
    | cons first' rest' =>
      obtain ⟨hFirst, rfl⟩ := List.cons.inj h
      rw [String.append_right_inj content |>.mp hFirst]

/-- A first text that starts with a brace is not empty. -/
theorem modifyHead_brace_ne (texts rest : List String) :
    texts.modifyHead ("\x7b" ++ ·) ≠ "" :: rest := by
  intro h
  cases texts with
  | nil => cases h
  | cons first others =>
    have hFirst : "\x7b" ++ first = "" := (List.cons.inj h).1
    have hChars := congrArg String.toList hFirst
    rw [String.toList_append] at hChars
    exact List.cons_ne_nil _ _ hChars

/-- A template is read as its texts exactly if no code in a hole starts with a brace. -/
theorem readPieces_eq_pieces_iff (parts : List Part) :
    readPieces (Part.codes parts) ((Part.allOnOneLine parts).toList ++ ['"']) =
        some (Part.pieces parts) ↔
      ∀ code ∈ Part.codes parts, code.toList.head? ≠ some '{' := by
  induction parts with
  | nil => simp [Part.codes, Part.allOnOneLine, readPieces, readText_quote, Part.pieces]
  | cons part rest ih =>
    cases part with
    | text content =>
      rw [Part.codes, Part.allOnOneLine, Part.onOneLine, String.toList_append, List.append_assoc,
        readPieces_escapeTemplate, Part.pieces, ← ih, ← Option.map_some,
        (Option.map_injective (modifyHead_append_injective content)).eq_iff]
    | hole code =>
      have hText : (Part.allOnOneLine (.hole code :: rest)).toList ++ ['"'] =
          '{' :: (code.onOneLine.toList ++ '}' :: ((Part.allOnOneLine rest).toList ++ ['"'])) := by
        simp [Part.allOnOneLine, Part.onOneLine]
      rw [hText, Part.codes, Part.pieces, List.forall_mem_cons]
      by_cases hBrace : code.onOneLine.toList.head? = some '{'
      · refine iff_of_false (fun hRead => ?_) fun hCodes => hCodes.1 hBrace
        -- The brace of the hole and that of the code are read as one, in the text before the hole.
        obtain ⟨tail, hCode⟩ := List.head?_eq_some_iff.mp hBrace
        rw [hCode, List.cons_append, readPieces_doubled] at hRead
        obtain ⟨texts, -, hTexts⟩ := Option.map_eq_some_iff.mp hRead
        exact modifyHead_brace_ne texts _ hTexts
      · have hInjective : Function.Injective fun texts : List String => "" :: texts :=
          fun _ _ h => (List.cons.inj h).2
        rw [readPieces_hole hBrace, ← Option.map_some, (Option.map_injective hInjective).eq_iff, ih]
        exact (and_iff_right hBrace).symm

theorem readTemplate_interpolation (codes : List String) (parts : List Part) :
    readTemplate codes (Code.interpolation parts).onOneLine =
      readPieces codes ((Part.allOnOneLine parts).toList ++ ['"']) := by
  have hStart : Text.dropStart? ['$', '"'] (Code.interpolation parts).onOneLine.toList =
      some ((Part.allOnOneLine parts).toList ++ ['"']) := by
    rw [Code.onOneLine, String.toList_append, String.toList_append, List.append_assoc]
    exact Text.dropStart?_append ['$', '"'] _
  rw [readTemplate, hStart]
  rfl

/-- A string literal has no control characters and is read as its string. A template is read as its
texts, with its holes between them, exactly if the code in no hole starts with a brace. -/
theorem literals_and_templates_read_back :
    (∀ s : String, readLiteral (literal (.string s)) = some s ∧
      ∀ c ∈ (literal (.string s)).toList, Text.isControl c = false) ∧
    ∀ parts : List Part,
      readTemplate (Part.codes parts) (Code.interpolation parts).onOneLine =
          some (Part.pieces parts) ↔
        ∀ code ∈ Part.codes parts, code.toList.head? ≠ some '{' := by
  refine ⟨fun s => ⟨readLiteral_string s, isControl_literal_string s⟩, fun parts => ?_⟩
  rw [readTemplate_interpolation]
  exact readPieces_eq_pieces_iff parts

/-- A hole whose code starts with a brace is read as text: the template could as well have been
written for this text. -/
theorem readTemplate_bracedHole :
    let parts : List Part := [.hole (.text "\x7bx\x7d")]
    (Code.interpolation parts).onOneLine = "$\"\x7b\x7bx\x7d\x7d\"" ∧
      readTemplate [] (Code.interpolation parts).onOneLine = some ["\x7bx\x7d"] ∧
      readTemplate (Part.codes parts) (Code.interpolation parts).onOneLine ≠
        some (Part.pieces parts) := by
  intro parts
  have hSame : (Code.interpolation parts).onOneLine =
      (Code.interpolation [.text "\x7bx\x7d"]).onOneLine := by decide
  refine ⟨by decide, ?_, fun hRead => ?_⟩
  · rw [hSame, readTemplate_interpolation]
    exact (readPieces_eq_pieces_iff [.text "\x7bx\x7d"]).mpr (List.forall_mem_nil _)
  · rw [readTemplate_interpolation] at hRead
    exact (readPieces_eq_pieces_iff parts).mp hRead "\x7bx\x7d" (by decide) rfl

end KotlinBackend.Output
