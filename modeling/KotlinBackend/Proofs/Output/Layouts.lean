import KotlinBackend.Output.Layout

/-!
# The two layouts of an output tree

Written on one line or in indented lines, a tree without conditionals says the same: the two texts
differ in white space only. A conditional is an expression in one layout and a statement in the
other, so it is left out here.
-/

namespace KotlinBackend.Output

mutual

/-- No conditional occurs in a tree. -/
def Code.isUnconditional : Code → Bool
  | .nothing => true
  | .text _ => true
  | .multiline _ => true
  | .list items _ => Code.areUnconditional items
  | .interpolation parts => Part.areUnconditional parts
  | .block header body => header.isUnconditional && Code.areUnconditional body
  | .conditional .. => false

def Code.areUnconditional : List Code → Bool
  | [] => true
  | code :: rest => code.isUnconditional && Code.areUnconditional rest

def Part.isUnconditional : Part → Bool
  | .text _ => true
  | .hole code => code.isUnconditional

def Part.areUnconditional : List Part → Bool
  | [] => true
  | part :: rest => part.isUnconditional && Part.areUnconditional rest

end

/-- A text without its white space. -/
def withoutBlanks (text : String) : String :=
  String.ofList (text.toList.filter (!Text.isBlank ·))

theorem withoutBlanks_append (s t : String) :
    withoutBlanks (s ++ t) = withoutBlanks s ++ withoutBlanks t := by
  rw [withoutBlanks, String.toList_append, List.filter_append, String.ofList_append]
  rfl

theorem withoutBlanks_of_blank {s : String} (h : Text.isBlankText s = true) :
    withoutBlanks s = "" := by
  have hNone : s.toList.filter (!Text.isBlank ·) = [] := by
    simpa [Text.isBlankText] using h
  rw [withoutBlanks, hNone, String.ofList_nil]

/-- What some texts say, one after the other. -/
def content (texts : List String) : String := String.join (texts.map withoutBlanks)

@[simp] theorem content_nil : content [] = "" := rfl

@[simp] theorem content_cons (text : String) (rest : List String) :
    content (text :: rest) = withoutBlanks text ++ content rest := by
  rw [content, List.map_cons, String.join_cons]
  rfl

@[simp] theorem content_append (texts texts' : List String) :
    content (texts ++ texts') = content texts ++ content texts' := by
  rw [content, List.map_append, String.join_append]
  rfl

theorem withoutBlanks_intercalate {separator : String}
    (h : Text.isBlankText separator = true) (texts : List String) :
    withoutBlanks (separator.intercalate texts) = content texts := by
  induction texts with
  | nil => rw [String.intercalate_nil, withoutBlanks_of_blank rfl, content_nil]
  | cons text rest ih =>
    cases rest with
    | nil => rw [String.intercalate_singleton, content_cons, content_nil, String.append_empty]
    | cons next rest =>
      rw [String.intercalate_cons_cons, withoutBlanks_append, withoutBlanks_append,
        withoutBlanks_of_blank h, String.append_empty, ih, content_cons text]

section Lines

variable {indent : String}

theorem isBlankText_replicate (hIndent : Text.isBlankText indent = true) (depth : Nat) :
    Text.isBlankText (Text.replicate depth indent) = true := by
  have hChars : ∀ c ∈ indent.toList, Text.isBlank c = true := List.all_eq_true.mp hIndent
  rw [Text.isBlankText, Text.replicate, String.toList_ofList, List.all_eq_true]
  intro c hc
  obtain ⟨copy, hCopy, hMem⟩ := List.mem_flatten.mp hc
  rw [List.eq_of_mem_replicate hCopy] at hMem
  exact hChars c hMem

theorem withoutBlanks_lineAt (hIndent : Text.isBlankText indent = true) (depth : Nat)
    (text : String) :
    withoutBlanks (lineAt indent depth text) = withoutBlanks text := by
  rw [lineAt]
  split
  · rename_i hEmpty
    rw [String.isEmpty_iff.mp hEmpty]
  · rw [withoutBlanks_append, withoutBlanks_of_blank (isBlankText_replicate hIndent depth),
      String.empty_append]

theorem content_map_lineAt (hIndent : Text.isBlankText indent = true) (depth : Nat)
    (texts : List String) :
    content (texts.map (lineAt indent depth)) = content texts := by
  induction texts with
  | nil => rfl
  | cons text rest ih =>
    rw [List.map_cons, content_cons, content_cons, withoutBlanks_lineAt hIndent, ih]

theorem content_bracedLines (hIndent : Text.isBlankText indent = true) (depth : Nat)
    (lines : List String) :
    content (bracedLines indent depth lines) =
      withoutBlanks "\x7b" ++ (content lines ++ withoutBlanks "\x7d") := by
  rw [bracedLines, content_cons, content_append, content_cons, content_nil, String.append_empty,
    withoutBlanks_lineAt hIndent, withoutBlanks_lineAt hIndent]

theorem content_paragraphGap (first : Bool) : content (paragraphGap first) = "" := by
  cases first with
  | true => rfl
  | false => rw [paragraphGap, if_neg Bool.false_ne_true, content_cons, content_nil]; rfl

mutual

/-- The lines of a tree say what the tree says on one line, at any depth. -/
theorem Code.content_lines (hIndent : Text.isBlankText indent = true) (depth : Nat) (code : Code)
    (h : code.isUnconditional = true) :
    content (code.lines indent depth) = withoutBlanks code.onOneLine := by
  have hBlank : Text.isBlankText " " = true := by decide
  match code with
  | .nothing => rfl
  | .text line =>
    rw [Code.lines, content_cons, content_nil, String.append_empty, withoutBlanks_lineAt hIndent,
      Code.onOneLine]
  | .multiline texts =>
    rw [Code.lines, content_map_lineAt hIndent, Code.onOneLine, withoutBlanks_intercalate hBlank]
  | .list items (.inline separator) | .interpolation parts =>
    rw [Code.lines, content_cons, content_nil, String.append_empty, withoutBlanks_lineAt hIndent]
  | .list items .lines =>
    rw [Code.lines, Code.content_linesOfItems hIndent depth items h, Code.onOneLine,
      withoutBlanks_intercalate hBlank]
  | .list items .paragraphs =>
    rw [Code.lines, Code.content_linesOfParagraphs hIndent depth true items h, Code.onOneLine,
      withoutBlanks_intercalate hBlank]
  | .block header body =>
    obtain ⟨-, hBody⟩ := Bool.and_eq_true_iff.mp h
    have hHeader : content (if header.onOneLine.isEmpty then []
          else [lineAt indent depth header.onOneLine]) =
        content (if header.onOneLine.isEmpty then [] else [header.onOneLine]) := by
      split
      · rfl
      · rw [content_cons, content_cons, withoutBlanks_lineAt hIndent]
    rw [Code.lines, content_append, hHeader, content_bracedLines hIndent,
      Code.content_linesOfItems hIndent (depth + 1) body hBody, Code.onOneLine,
      withoutBlanks_intercalate hBlank, content_append, content_cons, content_append, content_cons,
      content_nil, String.append_empty]
  | .conditional .. => cases h

theorem Code.content_linesOfItems (hIndent : Text.isBlankText indent = true) (depth : Nat)
    (items : List Code) (h : Code.areUnconditional items = true) :
    content (Code.linesOfItems indent depth items) = content (Code.itemsOnOneLine items) := by
  match items with
  | [] => rfl
  | item :: rest =>
    obtain ⟨hItem, hRest⟩ := Bool.and_eq_true_iff.mp h
    rw [Code.linesOfItems, content_append, Code.content_lines hIndent depth item hItem,
      Code.content_linesOfItems hIndent depth rest hRest, Code.itemsOnOneLine]
    split
    -- On one line an item without code is left out; it has no lines either.
    · rename_i hNothing
      cases item <;> cases hNothing
      rfl
    · rw [content_cons]

theorem Code.content_linesOfParagraphs (hIndent : Text.isBlankText indent = true) (depth : Nat)
    (first : Bool) (items : List Code) (h : Code.areUnconditional items = true) :
    content (Code.linesOfParagraphs indent depth first items) =
      content (Code.itemsOnOneLine items) := by
  match items with
  | [] => rfl
  | item :: rest =>
    obtain ⟨hItem, hRest⟩ := Bool.and_eq_true_iff.mp h
    rw [Code.linesOfParagraphs, Code.itemsOnOneLine]
    split
    · exact Code.content_linesOfParagraphs hIndent depth first rest hRest
    · rw [content_append, content_append, content_paragraphGap, String.empty_append,
        Code.content_lines hIndent depth item hItem,
        Code.content_linesOfParagraphs hIndent depth false rest hRest, content_cons]

end

end Lines

/-- Without white space, the two layouts of a tree without conditionals are the same text. -/
theorem withoutBlanks_layout (code : Code) (h : code.isUnconditional = true) (indent : String)
    (hIndent : Text.isBlankText indent = true) :
    withoutBlanks (code.layout indent) = withoutBlanks code.onOneLine := by
  have hBreak : Text.isBlankText "\n" = true := by decide
  have hLines := Code.content_lines hIndent 0 code h
  rw [← withoutBlanks_intercalate hBreak] at hLines
  rw [Code.layout]
  split
  · rename_i hEmpty
    rw [← hLines, String.isEmpty_iff.mp hEmpty]
  · rw [withoutBlanks_append, withoutBlanks_of_blank hBreak, String.append_empty, hLines]

/-- A class with a property on one line and a constructor in lines. -/
def rectangleClass : Code :=
  .block (.words ["public", "sealed", "class", "Rectangle"])
    [.paragraphs
      [.glue [.block (.text "public double height") [.text "get;"]], .nothing,
        .block (.text "public Rectangle()") [.statement (.text "this.height = 1.0")],
        .block .nothing [.multiline ["// size", ""], .statement (.interpolation
          [.text "area \x7b", .hole (.text "r.area")])]]]

theorem withoutBlanks_layout_rectangleClass :
    rectangleClass.isUnconditional = true ∧ Text.isBlankText "\t" = true ∧
      withoutBlanks (rectangleClass.layout "\t") = withoutBlanks rectangleClass.onOneLine := by
  have hUnconditional : rectangleClass.isUnconditional = true := by decide
  have hIndent : Text.isBlankText "\t" = true := by decide
  exact ⟨hUnconditional, hIndent, withoutBlanks_layout rectangleClass hUnconditional "\t" hIndent⟩

end KotlinBackend.Output
