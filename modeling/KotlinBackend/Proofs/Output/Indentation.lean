import KotlinBackend.Proofs.Output.Layouts

/-!
# Depth and indentation

Writing a tree deeper only moves its lines to the right: each line that is not empty gets the indent
once more for every level. A conditional that continues another one is written at its own depth
first and then loses the white space it starts with, so the law needs an indent that is white space.
-/

namespace KotlinBackend.Text

theorem replicate_add (m n : Nat) (text : String) :
    replicate (m + n) text = replicate m text ++ replicate n text := by
  rw [replicate, ← List.replicate_append_replicate, List.flatten_append, String.ofList_append]
  rfl

theorem trimStart_append {blank : String} (h : isBlankText blank = true) (text : String) :
    trimStart (blank ++ text) = trimStart text := by
  rw [trimStart, String.toList_append, List.dropWhile_append_of_pos (List.all_eq_true.mp h)]
  rfl

end KotlinBackend.Text

namespace KotlinBackend.Output

section Lines

variable {indent : String}

theorem lineAt_of_ne_empty (depth : Nat) {text : String} (h : text ≠ "") :
    lineAt indent depth text = Text.replicate depth indent ++ text :=
  if_neg (by simpa using h)

theorem lineAt_lineAt (outer inner : Nat) (text : String) :
    lineAt indent outer (lineAt indent inner text) = lineAt indent (outer + inner) text := by
  by_cases hText : text = ""
  · rw [hText]
    rfl
  · have hLine : Text.replicate inner indent ++ text ≠ "" := by simp [hText]
    rw [lineAt_of_ne_empty inner hText, lineAt_of_ne_empty outer hLine,
      lineAt_of_ne_empty (outer + inner) hText, Text.replicate_add, String.append_assoc]

theorem map_bracedLines (outer inner : Nat) (lines : List String) :
    (bracedLines indent inner lines).map (lineAt indent outer) =
      bracedLines indent (outer + inner) (lines.map (lineAt indent outer)) := by
  simp only [bracedLines, List.map_cons, List.map_append, List.map_nil, lineAt_lineAt]

theorem map_paragraphGap (depth : Nat) (first : Bool) :
    (paragraphGap first).map (lineAt indent depth) = paragraphGap first := by
  cases first <;> rfl

theorem trimStart_condition (condition : Code) :
    Text.trimStart ("if (" ++ condition.onOneLine ++ ")") =
      "if (" ++ condition.onOneLine ++ ")" := by
  have hChars : ("if (" ++ condition.onOneLine ++ ")").toList =
      'i' :: ("f (" ++ condition.onOneLine ++ ")").toList := by
    simp
  rw [Text.trimStart, hChars, List.dropWhile_cons_of_neg (by decide), ← hChars,
    String.ofList_toList]

theorem chainedLines_lineAt (hIndent : Text.isBlankText indent = true) (depth : Nat)
    {text : String} (hText : text ≠ "") (hTrim : Text.trimStart text = text)
    (rest : List String) :
    chainedLines indent depth (lineAt indent depth text :: rest) =
      lineAt indent depth ("else " ++ text) :: rest := by
  have hElse : "else " ++ text ≠ "" := by simp [hText]
  rw [chainedLines, lineAt_of_ne_empty depth hText, lineAt_of_ne_empty depth hElse,
    Text.trimStart_append (isBlankText_replicate hIndent depth), hTrim, String.append_assoc]

/-- Trimming and indenting again changes nothing but the first word of a chained conditional. -/
theorem linesOfElse_conditional (hIndent : Text.isBlankText indent = true) (depth : Nat)
    (condition thenBranch : Code) (elseBranch : Option Code) :
    Code.linesOfElse indent depth (some (.conditional condition thenBranch elseBranch)) =
      lineAt indent depth ("else if (" ++ condition.onOneLine ++ ")") ::
        ((Code.conditional condition thenBranch elseBranch).lines indent depth).tail := by
  have hText : "if (" ++ condition.onOneLine ++ ")" ≠ "" := by simp
  have hElse : "else if (" ++ condition.onOneLine ++ ")" =
      "else " ++ ("if (" ++ condition.onOneLine ++ ")") := by
    rw [← String.append_assoc, ← String.append_assoc]
    rfl
  have hKind : (Code.conditional condition thenBranch elseBranch).isConditional = true := rfl
  rw [Code.linesOfElse, if_pos hKind, Code.lines, List.tail_cons,
    chainedLines_lineAt hIndent depth hText (trimStart_condition condition), hElse]

theorem lines_chain (hIndent : Text.isBlankText indent = true) (depth : Nat)
    (condition thenBranch next nextBranch : Code) (rest : Option Code) :
    (Code.conditional condition thenBranch (some (.conditional next nextBranch rest))).lines
        indent depth =
      (Code.conditional condition thenBranch none).lines indent depth ++
        lineAt indent depth ("else if (" ++ next.onOneLine ++ ")") ::
          ((Code.conditional next nextBranch rest).lines indent depth).tail := by
  have hFirst : (Code.conditional condition thenBranch none).lines indent depth =
      lineAt indent depth ("if (" ++ condition.onOneLine ++ ")") ::
        bracedLines indent depth (thenBranch.lines indent (depth + 1)) := by
    rw [Code.lines, Code.linesOfElse, List.append_nil]
  rw [hFirst, Code.lines, linesOfElse_conditional hIndent, List.cons_append]

theorem exists_of_isConditional {code : Code} (h : code.isConditional = true) :
    ∃ condition thenBranch elseBranch, code = .conditional condition thenBranch elseBranch := by
  cases code with
  | conditional condition thenBranch elseBranch => exact ⟨_, _, _, rfl⟩
  | _ => cases h

mutual

theorem Code.lines_add (hIndent : Text.isBlankText indent = true) (outer inner : Nat)
    (code : Code) :
    code.lines indent (outer + inner) = (code.lines indent inner).map (lineAt indent outer) := by
  match code with
  | .nothing => rfl
  | .text content => simp only [Code.lines, List.map_cons, List.map_nil, lineAt_lineAt]
  | .multiline texts =>
    rw [Code.lines, Code.lines, List.map_map]
    exact List.map_congr_left fun text _ => (lineAt_lineAt outer inner text).symm
  | .list items (.inline separator) | .interpolation parts =>
    simp only [Code.lines, List.map_cons, List.map_nil, lineAt_lineAt]
  | .list items .lines => rw [Code.lines, Code.lines, Code.linesOfItems_add hIndent outer inner]
  | .list items .paragraphs =>
    rw [Code.lines, Code.lines, Code.linesOfParagraphs_add hIndent outer inner]
  | .block header body =>
    rw [Code.lines, Code.lines, Nat.add_assoc, Code.linesOfItems_add hIndent outer (inner + 1),
      List.map_append, map_bracedLines]
    congr 1
    split
    · rfl
    · rw [List.map_cons, List.map_nil, lineAt_lineAt]
  | .conditional condition thenBranch elseBranch =>
    rw [Code.lines, Code.lines, Nat.add_assoc, thenBranch.lines_add hIndent outer (inner + 1),
      Code.linesOfElse_add hIndent outer inner, List.map_cons, List.map_append, map_bracedLines,
      lineAt_lineAt]

theorem Code.linesOfItems_add (hIndent : Text.isBlankText indent = true) (outer inner : Nat)
    (items : List Code) :
    Code.linesOfItems indent (outer + inner) items =
      (Code.linesOfItems indent inner items).map (lineAt indent outer) := by
  match items with
  | [] => rfl
  | item :: rest =>
    rw [Code.linesOfItems, Code.linesOfItems, List.map_append, item.lines_add hIndent outer inner,
      Code.linesOfItems_add hIndent outer inner rest]

theorem Code.linesOfParagraphs_add (hIndent : Text.isBlankText indent = true) (outer inner : Nat)
    (first : Bool) (items : List Code) :
    Code.linesOfParagraphs indent (outer + inner) first items =
      (Code.linesOfParagraphs indent inner first items).map (lineAt indent outer) := by
  match items with
  | [] => rfl
  | item :: rest =>
    rw [Code.linesOfParagraphs, Code.linesOfParagraphs]
    split
    · exact Code.linesOfParagraphs_add hIndent outer inner first rest
    · rw [List.map_append, List.map_append, map_paragraphGap, item.lines_add hIndent outer inner,
        Code.linesOfParagraphs_add hIndent outer inner false rest]

theorem Code.linesOfElse_add (hIndent : Text.isBlankText indent = true) (outer inner : Nat)
    (elseBranch : Option Code) :
    Code.linesOfElse indent (outer + inner) elseBranch =
      (Code.linesOfElse indent inner elseBranch).map (lineAt indent outer) := by
  match elseBranch with
  | none => rfl
  | some branch =>
    -- The lines of a chained conditional are those that it has on its own, but for the first one.
    have hChained := branch.lines_add hIndent outer inner
    have hBraced := branch.lines_add hIndent outer (inner + 1)
    by_cases hKind : branch.isConditional = true
    · obtain ⟨condition, thenBranch, elseBranch, rfl⟩ := exists_of_isConditional hKind
      rw [linesOfElse_conditional hIndent, linesOfElse_conditional hIndent, hChained,
        List.map_cons, List.map_tail, lineAt_lineAt]
    · rw [Code.linesOfElse, Code.linesOfElse, if_neg hKind, if_neg hKind, Nat.add_assoc, hBraced,
        List.map_cons, map_bracedLines, lineAt_lineAt]

end

end Lines

/-- At a depth, a tree has the lines that it has at depth zero, with the indent in front of those
that are not empty. In a chain, a conditional has its own lines, with an `else` in the first. -/
theorem Code.lines_indented (indent : String) (hIndent : Text.isBlankText indent = true)
    (depth : Nat) :
    (∀ code : Code, code.lines indent depth =
        (code.lines indent 0).map fun line =>
          if line = "" then "" else Text.replicate depth indent ++ line) ∧
      ∀ (condition thenBranch next nextBranch : Code) (rest : Option Code),
        (Code.conditional condition thenBranch (some (.conditional next nextBranch rest))).lines
            indent depth =
          (Code.conditional condition thenBranch none).lines indent depth ++
            (Text.replicate depth indent ++ ("else if (" ++ next.onOneLine ++ ")")) ::
              ((Code.conditional next nextBranch rest).lines indent depth).tail := by
  refine ⟨fun code => ?_, fun condition thenBranch next nextBranch rest => ?_⟩
  · rw [← Nat.add_zero depth, code.lines_add hIndent depth 0, Nat.add_zero]
    refine List.map_congr_left fun line _ => ?_
    by_cases hLine : line = ""
    · rw [hLine]
      rfl
    · rw [lineAt_of_ne_empty depth hLine, if_neg hLine]
  · have hNext : "else if (" ++ next.onOneLine ++ ")" ≠ "" := by simp
    rw [lines_chain hIndent, lineAt_of_ne_empty depth hNext]

/-- The sign of a number, by a chain of two conditionals in a block with an empty line. -/
def signChain : Code :=
  .block (.text "static int sign(int x)")
    [.multiline ["// -1, 0 or 1", ""],
      .conditional (.text "x < 0") (.text "return -1;")
        (some (.conditional (.text "x > 0") (.text "return 1;") (some (.text "return 0;"))))]

theorem lines_indented_signChain :
    Text.isBlankText "\t" = true ∧
      signChain.lines "\t" 2 =
        (signChain.lines "\t" 0).map (fun line =>
          if line = "" then "" else Text.replicate 2 "\t" ++ line) :=
  have hIndent : Text.isBlankText "\t" = true := by decide
  ⟨hIndent, (Code.lines_indented "\t" hIndent 2).1 signChain⟩

/-- An indent that is not white space stays in front of the condition of a chained conditional. -/
example :
    signChain.lines "-" 1 ≠
      (signChain.lines "-" 0).map fun line =>
        if line = "" then "" else Text.replicate 1 "-" ++ line := by
  decide +kernel

end KotlinBackend.Output
