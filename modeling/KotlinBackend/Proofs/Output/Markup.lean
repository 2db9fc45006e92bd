import KotlinBackend.Output.Tagged

/-!
# Markup

The tagged text of an output tree is the text of a markup tree: a tree of elements, some of which
hold a text instead of other elements. A markup tree can be read off its text, wherever the text
stands, and the tags in it are properly nested.
-/

namespace KotlinBackend.Output

/-- Elements that hold a text. -/
inductive Label where
  | text
  | line
  | part
  deriving DecidableEq, Repr

/-- Elements that hold other elements. -/
inductive Container where
  | multiline
  | list (join : Join)
  | interpolation
  | block
  | header
  | body
  | conditional
  | condition
  | thenBranch
  | elseBranch
  deriving DecidableEq, Repr

inductive Markup where
  | nothing
  | leaf (label : Label) (text : String)
  | element (container : Container) (children : List Markup)

def Label.name : Label → String
  | text => "Text"
  | line => "Line"
  | part => "Part"

def Container.name : Container → String
  | multiline => "Multiline"
  | list _ => "List"
  | interpolation => "Interpolation"
  | block => "Block"
  | header => "Header"
  | body => "Body"
  | conditional => "If"
  | condition => "Condition"
  | thenBranch => "Then"
  | elseBranch => "Else"

/-- What stands in the opening tag of a container. -/
def Container.opening : Container → String
  | list join => "List join=\"" ++ join.attribute ++ "\""
  | container => container.name

theorem Container.opening_list (join : Join) :
    (list join).opening = "List join=\"" ++ join.attribute ++ "\"" := rfl

/-- The blanks before a line at a depth. -/
def pad (depth : Nat) : List Char := (Text.replicate depth "  ").toList

/-- The rest of a closing tag after its bracket, with the line end. -/
def closing (name : String) : List Char := '/' :: (name.toList ++ ['>', '\n'])

mutual

/-- The text of a markup tree at a depth. -/
def Markup.chars (depth : Nat) : Markup → List Char
  | .nothing => pad depth ++ '<' :: ("None/".toList ++ ['>', '\n'])
  | .leaf label text =>
    pad depth ++ '<' :: (label.name.toList ++ '>' ::
      ((escapeTag text).toList ++ '<' :: closing label.name))
  | .element container children =>
    pad depth ++ '<' :: (container.opening.toList ++ '>' :: '\n' ::
      (Markup.listChars (depth + 1) children ++ (pad depth ++ '<' :: closing container.name)))

def Markup.listChars (depth : Nat) : List Markup → List Char
  | [] => []
  | m :: rest => m.chars depth ++ Markup.listChars depth rest

end

mutual

/-- The markup tree of an output tree. -/
def Code.markup : Code → Markup
  | .nothing => .nothing
  | .text content => .leaf .text content
  | .multiline texts => .element .multiline (texts.map (.leaf .line))
  | .list items join => .element (.list join) (Code.markups items)
  | .interpolation parts => .element .interpolation (Part.markups parts)
  | .block header body =>
    .element .block [.element .header [header.markup], .element .body (Code.markups body)]
  | .conditional condition thenBranch elseBranch =>
    .element .conditional (.element .condition [condition.markup] ::
      .element .thenBranch [thenBranch.markup] :: Code.elseMarkups elseBranch)

def Code.markups : List Code → List Markup
  | [] => []
  | code :: rest => code.markup :: Code.markups rest

def Part.markups : List Part → List Markup
  | [] => []
  | .text content :: rest => .leaf .part content :: Part.markups rest
  | .hole code :: rest => code.markup :: Part.markups rest

def Code.elseMarkups : Option Code → List Markup
  | none => []
  | some code => [.element .elseBranch [code.markup]]

end

/-- Lines with their line ends. -/
def lineChars (lines : List String) : List Char := lines.flatMap fun line => line.toList ++ ['\n']

@[simp] theorem lineChars_nil : lineChars [] = [] := rfl

@[simp] theorem lineChars_cons (line : String) (rest : List String) :
    lineChars (line :: rest) = line.toList ++ '\n' :: lineChars rest := by
  simp [lineChars]

@[simp] theorem lineChars_append (lines lines' : List String) :
    lineChars (lines ++ lines') = lineChars lines ++ lineChars lines' := by
  simp [lineChars]

theorem toList_taggedLayout (code : Code) :
    code.taggedLayout.toList = lineChars (code.taggedLines 0) := by
  simp only [Code.taggedLayout, String.toList_join, List.flatMap_map, String.toList_append]
  rfl

theorem toList_taggedLine (depth : Nat) (text : String) :
    (taggedLine depth text).toList = pad depth ++ text.toList := by
  rw [taggedLine, String.toList_append, pad]

theorem lineChars_tagged {depth : Nat} (container : Container) {lines : List String}
    {children : List Markup} (h : lineChars lines = Markup.listChars (depth + 1) children) :
    lineChars (tagged depth container.opening container.name lines) =
      (Markup.element container children).chars depth := by
  simp [tagged, toList_taggedLine, Markup.chars, closing, h]

theorem listChars_singleton (depth : Nat) (m : Markup) :
    Markup.listChars depth [m] = m.chars depth := by
  rw [Markup.listChars, Markup.listChars, List.append_nil]

theorem lineChars_taggedSection {depth : Nat} (container : Container) {lines : List String}
    {child : Markup} (h : lineChars lines = child.chars (depth + 1)) :
    lineChars (tagged depth container.opening container.name lines) =
      (Markup.element container [child]).chars depth :=
  lineChars_tagged container (h.trans (listChars_singleton (depth + 1) child).symm)

theorem toList_taggedText (depth : Nat) (label : Label) (text : String) :
    (taggedText depth label.name text).toList ++ ['\n'] =
      (Markup.leaf label text).chars depth := by
  simp [taggedText, toList_taggedLine, Markup.chars, closing]

theorem lineChars_taggedTexts (depth : Nat) (label : Label) (texts : List String) :
    lineChars (texts.map (taggedText depth label.name)) =
      Markup.listChars depth (texts.map (.leaf label)) := by
  induction texts with
  | nil => rfl
  | cons text rest ih =>
    rw [List.map_cons, lineChars_cons, ih, List.map_cons, Markup.listChars, ← toList_taggedText,
      List.append_assoc]
    rfl

mutual

theorem Code.lineChars_taggedLines (depth : Nat) (code : Code) :
    lineChars (code.taggedLines depth) = code.markup.chars depth := by
  match code with
  | .nothing =>
    rw [Code.taggedLines, lineChars_cons, toList_taggedLine, Code.markup, Markup.chars]
    simp
  | .text content =>
    rw [Code.taggedLines, lineChars_cons, Code.markup, ← toList_taggedText]
    rfl
  | .multiline texts =>
    exact lineChars_tagged .multiline (lineChars_taggedTexts (depth + 1) .line texts)
  | .list items join =>
    exact lineChars_tagged (.list join) (Code.lineChars_taggedItems (depth + 1) items)
  | .interpolation parts =>
    exact lineChars_tagged .interpolation (Part.lineChars_taggedParts (depth + 1) parts)
  | .block header body =>
    have hHeader : lineChars (tagged (depth + 1) "Header" "Header" _) = _ :=
      lineChars_taggedSection .header (Code.lineChars_taggedLines (depth + 2) header)
    have hBody : lineChars (tagged (depth + 1) "Body" "Body" _) = _ :=
      lineChars_tagged .body (Code.lineChars_taggedItems (depth + 2) body)
    refine lineChars_tagged .block ?_
    rw [lineChars_append, hHeader, hBody, Markup.listChars, listChars_singleton]
  | .conditional condition thenBranch elseBranch =>
    have hCondition : lineChars (tagged (depth + 1) "Condition" "Condition" _) = _ :=
      lineChars_taggedSection .condition (Code.lineChars_taggedLines (depth + 2) condition)
    have hThen : lineChars (tagged (depth + 1) "Then" "Then" _) = _ :=
      lineChars_taggedSection .thenBranch (Code.lineChars_taggedLines (depth + 2) thenBranch)
    refine lineChars_tagged .conditional ?_
    rw [lineChars_append, lineChars_append, hCondition, hThen,
      Code.lineChars_taggedElse (depth + 1) elseBranch, Markup.listChars, Markup.listChars,
      List.append_assoc]

theorem Code.lineChars_taggedItems (depth : Nat) (items : List Code) :
    lineChars (Code.taggedItems depth items) = Markup.listChars depth (Code.markups items) := by
  match items with
  | [] => rfl
  | item :: rest =>
    rw [Code.taggedItems, lineChars_append, Code.lineChars_taggedLines depth item,
      Code.lineChars_taggedItems depth rest, Code.markups, Markup.listChars]

theorem Part.lineChars_taggedParts (depth : Nat) (parts : List Part) :
    lineChars (Part.taggedParts depth parts) = Markup.listChars depth (Part.markups parts) := by
  match parts with
  | [] => rfl
  | .text content :: rest =>
    rw [Part.taggedParts, lineChars_cons, Part.lineChars_taggedParts depth rest, Part.markups,
      Markup.listChars, ← toList_taggedText, List.append_assoc]
    rfl
  | .hole code :: rest =>
    rw [Part.taggedParts, lineChars_append, Code.lineChars_taggedLines depth code,
      Part.lineChars_taggedParts depth rest, Part.markups, Markup.listChars]

theorem Code.lineChars_taggedElse (depth : Nat) (elseBranch : Option Code) :
    lineChars (Code.taggedElse depth elseBranch) =
      Markup.listChars depth (Code.elseMarkups elseBranch) := by
  match elseBranch with
  | none => rfl
  | some code =>
    rw [Code.taggedElse, Code.elseMarkups, listChars_singleton]
    exact lineChars_taggedSection .elseBranch (Code.lineChars_taggedLines (depth + 1) code)

end

/-- The character of an entity after its ampersand, and what follows it. -/
def readEntity : List Char → Option (Char × List Char)
  | 'a' :: 'm' :: 'p' :: ';' :: rest => some ('&', rest)
  | 'l' :: 't' :: ';' :: rest => some ('<', rest)
  | 'g' :: 't' :: ';' :: rest => some ('>', rest)
  | 'q' :: 'u' :: 'o' :: 't' :: ';' :: rest => some ('"', rest)
  | _ => none

/-- The first character of an escaped text and what follows it. -/
def readTagChar : List Char → Option (Char × List Char)
  | [] => none
  | c :: rest => if c = '&' then readEntity rest else some (c, rest)

theorem readTagChar_escapeTagChar (c : Char) (rest : List Char) :
    readTagChar (escapeTagChar c ++ rest) = some (c, rest) := by
  rw [escapeTagChar]
  iterate 4
    split
    · rename_i hc
      subst hc
      rfl
  rename_i hAmpersand _ _ _
  rw [List.singleton_append, readTagChar, if_neg hAmpersand]

theorem flatMap_escapeTagChar_injective : Function.Injective (List.flatMap escapeTagChar) := by
  have hNonempty (c : Char) (rest : List Char) : escapeTagChar c ++ rest ≠ [] := by
    intro h
    have hRead := readTagChar_escapeTagChar c rest
    rw [h] at hRead
    cases hRead
  intro text
  induction text with
  | nil =>
    intro text' h
    cases text' with
    | nil => rfl
    | cons d rest' => exact absurd h.symm (hNonempty d _)
  | cons c rest ih =>
    intro text' h
    cases text' with
    | nil => exact absurd h (hNonempty c _)
    | cons d rest' =>
      rw [List.flatMap_cons, List.flatMap_cons] at h
      have hRead := congrArg readTagChar h
      rw [readTagChar_escapeTagChar, readTagChar_escapeTagChar] at hRead
      obtain ⟨rfl, hRest⟩ := Prod.mk.inj (Option.some.inj hRead)
      rw [ih hRest]

theorem escapeTag_injective : Function.Injective escapeTag := by
  intro text text' h
  have hChars := congrArg String.toList h
  rw [escapeTag, escapeTag, String.toList_ofList, String.toList_ofList] at hChars
  exact String.toList_injective (flatMap_escapeTagChar_injective hChars)

/-- No angle bracket occurs in a text. -/
def Unbracketed (text : List Char) : Prop := ∀ c ∈ text, c ≠ '<' ∧ c ≠ '>'

instance : DecidablePred Unbracketed := fun text => List.decidableBAll _ text

theorem Unbracketed.append {text text' : List Char} (h : Unbracketed text)
    (h' : Unbracketed text') : Unbracketed (text ++ text') := by
  intro c hc
  rcases List.mem_append.mp hc with hc | hc
  · exact h c hc
  · exact h' c hc

theorem unbracketed_escapeTagChar (c : Char) : Unbracketed (escapeTagChar c) := by
  rw [escapeTagChar]
  iterate 4
    split
    · decide
  rename_i hOpen hClose _
  exact List.forall_mem_singleton.mpr ⟨hOpen, hClose⟩

theorem unbracketed_escapeTag (text : String) : Unbracketed (escapeTag text).toList := by
  intro d hd
  rw [escapeTag, String.toList_ofList] at hd
  obtain ⟨c, -, hd⟩ := List.mem_flatMap.mp hd
  exact unbracketed_escapeTagChar c d hd

theorem unbracketed_label (label : Label) : Unbracketed label.name.toList := by
  cases label <;> decide

theorem unbracketed_name (container : Container) : Unbracketed container.name.toList := by
  cases container with
  | list join => exact (by decide : Unbracketed "List".toList)
  | _ => decide

theorem unbracketed_attribute (join : Join) : Unbracketed join.attribute.toList := by
  cases join with
  | lines | paragraphs => decide
  | inline separator =>
    rw [Join.attribute, String.toList_append]
    exact Unbracketed.append (by decide) (unbracketed_escapeTag separator)

theorem unbracketed_opening (container : Container) : Unbracketed container.opening.toList := by
  cases container with
  | list join =>
    rw [Container.opening_list, String.toList_append, String.toList_append]
    exact ((by decide : Unbracketed _).append (unbracketed_attribute join)).append (by decide)
  | _ => exact unbracketed_name _

/-- What a markup tree starts with: its kind and, for a list, how it is joined. -/
inductive Head where
  | nothing
  | leaf (label : Label)
  | element (container : Container)
  deriving DecidableEq

def Markup.head : Markup → Head
  | .nothing => .nothing
  | .leaf label _ => .leaf label
  | .element container _ => .element container

/-- What stands in the first tag. -/
def Head.tag : Head → List Char
  | nothing => "None/".toList
  | leaf label => label.name.toList
  | element container => container.opening.toList

theorem Head.tag_list (join : Join) :
    (element (.list join)).tag = ("List join=\"" ++ join.attribute ++ "\"").toList := rfl

theorem unbracketed_tag (head : Head) : Unbracketed head.tag := by
  cases head with
  | nothing => decide
  | leaf label => exact unbracketed_label label
  | element container => exact unbracketed_opening container

theorem attribute_injective : Function.Injective Join.attribute := by
  intro join join' h
  have hChars := congrArg String.toList h
  cases join with
  | inline separator =>
    cases join' with
    | inline separator' =>
      simp only [Join.attribute, String.append_right_inj] at h
      rw [escapeTag_injective h]
    | lines | paragraphs => simp [Join.attribute] at hChars
  | lines => cases join' <;> simp [Join.attribute] at hChars ⊢
  | paragraphs => cases join' <;> simp [Join.attribute] at hChars ⊢

/-- The heads whose tags have no attribute. -/
def plainHeads : List Head :=
  [.nothing, .leaf .text, .leaf .line, .leaf .part, .element .multiline, .element .interpolation,
    .element .block, .element .header, .element .body, .element .conditional, .element .condition,
    .element .thenBranch, .element .elseBranch]

theorem Head.isList_or_plain (head : Head) :
    (∃ join, head = .element (.list join)) ∨ head ∈ plainHeads := by
  cases head with
  | nothing => exact .inr (by decide)
  | leaf label => cases label <;> exact .inr (by decide)
  | element container =>
    cases container with
    | list join => exact .inl ⟨join, rfl⟩
    | _ => exact .inr (by decide)

theorem tag_plainHeads :
    (∀ head ∈ plainHeads, '"' ∉ head.tag) ∧
      ∀ head ∈ plainHeads, ∀ head' ∈ plainHeads, head.tag = head'.tag → head = head' := by
  decide +kernel

/-- The first tag says what a markup tree starts with. -/
theorem Head.tag_injective : Function.Injective Head.tag := by
  have hQuoted (join : Join) : '"' ∈ (Head.element (.list join)).tag := by
    rw [Head.tag_list, String.toList_append]
    exact List.mem_append_right _ (by decide)
  intro head head' h
  rcases head.isList_or_plain with ⟨join, rfl⟩ | hPlain <;>
    rcases head'.isList_or_plain with ⟨join', rfl⟩ | hPlain'
  · simp only [Head.tag_list, String.toList_inj, String.append_left_inj,
      String.append_right_inj] at h
    rw [attribute_injective h]
  · exact absurd (h ▸ hQuoted join) (tag_plainHeads.1 head' hPlain')
  · exact absurd (h ▸ hQuoted join') (tag_plainHeads.1 head hPlain)
  · exact tag_plainHeads.2 head hPlain head' hPlain' h

/-- A text ends before the first occurrence of a character that is not in it. -/
theorem append_cons_cancel {c : Char} {text text' rest rest' : List Char} (h : c ∉ text)
    (h' : c ∉ text') (hEq : text ++ c :: rest = text' ++ c :: rest') :
    text = text' ∧ rest = rest' := by
  induction text generalizing text' with
  | nil =>
    cases text' with
    | nil => exact ⟨rfl, (List.cons.inj hEq).2⟩
    | cons d tail' => exact absurd (List.cons.inj hEq).1 (List.ne_of_not_mem_cons h')
  | cons d tail ih =>
    cases text' with
    | nil => exact absurd (List.cons.inj hEq).1.symm (List.ne_of_not_mem_cons h)
    | cons d' tail' =>
      obtain ⟨rfl, hTail⟩ := List.cons.inj hEq
      obtain ⟨rfl, hRest⟩ :=
        ih (List.not_mem_of_not_mem_cons h) (List.not_mem_of_not_mem_cons h') hTail
      exact ⟨rfl, hRest⟩

/-- What follows the first tag of a markup tree. -/
def Markup.afterTag (depth : Nat) : Markup → List Char
  | .nothing => ['\n']
  | .leaf label text =>
    (escapeTag text).toList ++ '<' :: closing label.name
  | .element container children =>
    '\n' :: (Markup.listChars (depth + 1) children ++ (pad depth ++ '<' :: closing container.name))

theorem Markup.chars_eq (depth : Nat) (m : Markup) :
    m.chars depth = pad depth ++ '<' :: (m.head.tag ++ '>' :: m.afterTag depth) := by
  cases m <;> rfl

theorem pad_succ (depth : Nat) : pad (depth + 1) = pad depth ++ [' ', ' '] := by
  simp [pad, Text.replicate, List.replicate_succ']

/-- Two texts of markup trees at the same place start with the same tag. -/
theorem Markup.firstTag_cancel {depth : Nat} {m m' : Markup} {rest rest' : List Char}
    (h : m.chars depth ++ rest = m'.chars depth ++ rest') :
    m.head = m'.head ∧ m.afterTag depth ++ rest = m'.afterTag depth ++ rest' := by
  simp only [Markup.chars_eq, List.append_assoc, List.cons_append] at h
  have hTags := (List.cons.inj (List.append_cancel_left h)).2
  obtain ⟨hHead, hAfter⟩ := append_cons_cancel
    (fun hMem => (unbracketed_tag m.head _ hMem).2 rfl)
    (fun hMem => (unbracketed_tag m'.head _ hMem).2 rfl) hTags
  exact ⟨Head.tag_injective hHead, hAfter⟩

/-- A tree in an element stands deeper than the tag that closes the element. -/
theorem Markup.listChars_cons_ne (depth : Nat) (m : Markup) (others : List Markup)
    (text rest : List Char) :
    Markup.listChars (depth + 1) (m :: others) ++ text ≠ pad depth ++ '<' :: rest := by
  intro h
  rw [Markup.listChars, Markup.chars_eq, pad_succ] at h
  simp only [List.append_assoc, List.cons_append] at h
  -- At the same place one text has a blank and the other a bracket.
  have hBlank := (List.cons.inj (List.append_cancel_left h)).1
  exact absurd hBlank (by decide)

mutual

/-- A markup tree can be read off its text, whatever follows. -/
theorem Markup.chars_cancel (depth : Nat) : ∀ (m m' : Markup) (rest rest' : List Char),
    m.chars depth ++ rest = m'.chars depth ++ rest' → m = m' ∧ rest = rest'
  | .nothing, m', rest, rest', h => by
    obtain ⟨hHead, hAfter⟩ := Markup.firstTag_cancel h
    cases m' with
    | nothing => exact ⟨rfl, List.append_cancel_left hAfter⟩
    | leaf | element => cases hHead
  | .leaf label text, m', rest, rest', h => by
    obtain ⟨hHead, hAfter⟩ := Markup.firstTag_cancel h
    cases m' with
    | nothing | element => cases hHead
    | leaf label' text' =>
      cases hHead
      simp only [Markup.afterTag, List.append_assoc, List.cons_append] at hAfter
      -- An escaped text ends where the next tag starts.
      obtain ⟨hText, hRest⟩ := append_cons_cancel
        (fun hMem => (unbracketed_escapeTag text _ hMem).1 rfl)
        (fun hMem => (unbracketed_escapeTag text' _ hMem).1 rfl) hAfter
      rw [escapeTag_injective (String.toList_injective hText)]
      exact ⟨rfl, List.append_cancel_left hRest⟩
  | .element container children, m', rest, rest', h => by
    obtain ⟨hHead, hAfter⟩ := Markup.firstTag_cancel h
    cases m' with
    | nothing | leaf => cases hHead
    | element container' children' =>
      cases hHead
      simp only [Markup.afterTag, List.append_assoc, List.cons_append] at hAfter
      obtain ⟨rfl, hRest⟩ :=
        Markup.listChars_cancel depth children children' _ _ (List.cons.inj hAfter).2
      exact ⟨rfl, List.append_cancel_left hRest⟩

theorem Markup.listChars_cancel (depth : Nat) (ms ms' : List Markup) (rest rest' : List Char)
    (h : Markup.listChars (depth + 1) ms ++ (pad depth ++ '<' :: rest) =
      Markup.listChars (depth + 1) ms' ++ (pad depth ++ '<' :: rest')) :
    ms = ms' ∧ rest = rest' := by
  match ms with
  | [] =>
    cases ms' with
    | nil => exact ⟨rfl, (List.cons.inj (List.append_cancel_left h)).2⟩
    | cons m' others' => exact absurd h.symm (Markup.listChars_cons_ne depth m' others' _ _)
  | m :: others =>
    cases ms' with
    | nil => exact absurd h (Markup.listChars_cons_ne depth m others _ _)
    | cons m' others' =>
      rw [Markup.listChars, Markup.listChars, List.append_assoc, List.append_assoc] at h
      obtain ⟨rfl, hOthers⟩ := Markup.chars_cancel (depth + 1) m m' _ _ h
      obtain ⟨rfl, hRest⟩ := Markup.listChars_cancel depth others others' _ _ hOthers
      exact ⟨rfl, hRest⟩

end

theorem Code.markup_ne_part (code : Code) (content : String) :
    code.markup ≠ .leaf .part content := by
  cases code <;> simp [Code.markup]

mutual

theorem Code.markup_injective : ∀ code code' : Code, code.markup = code'.markup → code = code'
  | .nothing, code', h => by
    cases code' with
    | nothing => rfl
    | _ => cases h
  | .text content, code', h => by
    cases code' with
    | text content' => rw [(Markup.leaf.inj h).2]
    | _ => cases h
  | .multiline texts, code', h => by
    cases code' with
    | multiline texts' =>
      simp only [Code.markup, Markup.element.injEq, true_and] at h
      rw [(List.map_inj_right fun _ _ hLeaf => (Markup.leaf.inj hLeaf).2).mp h]
    | _ => cases h
  | .list items join, code', h => by
    cases code' with
    | list items' join' =>
      simp only [Code.markup, Markup.element.injEq, Container.list.injEq] at h
      rw [h.1, Code.markups_injective items items' h.2]
    | _ => cases h
  | .interpolation parts, code', h => by
    cases code' with
    | interpolation parts' =>
      simp only [Code.markup, Markup.element.injEq, true_and] at h
      rw [Part.markups_injective parts parts' h]
    | _ => cases h
  | .block header body, code', h => by
    cases code' with
    | block header' body' =>
      simp only [Code.markup, Markup.element.injEq, List.cons.injEq, true_and, and_true] at h
      rw [Code.markup_injective header header' h.1, Code.markups_injective body body' h.2]
    | _ => cases h
  | .conditional condition thenBranch elseBranch, code', h => by
    cases code' with
    | conditional condition' thenBranch' elseBranch' =>
      simp only [Code.markup, Markup.element.injEq, List.cons.injEq, true_and, and_true] at h
      rw [Code.markup_injective condition condition' h.1,
        Code.markup_injective thenBranch thenBranch' h.2.1,
        Code.elseMarkups_injective elseBranch elseBranch' h.2.2]
    | _ => cases h
termination_by structural code => code

theorem Code.markups_injective :
    ∀ items items' : List Code, Code.markups items = Code.markups items' → items = items'
  | [], [], _ => rfl
  | [], _ :: _, h => by cases h
  | _ :: _, [], h => by cases h
  | item :: rest, item' :: rest', h => by
    obtain ⟨hItem, hRest⟩ := List.cons.inj h
    rw [Code.markup_injective item item' hItem, Code.markups_injective rest rest' hRest]

theorem Part.markups_injective :
    ∀ parts parts' : List Part, Part.markups parts = Part.markups parts' → parts = parts'
  | [], [], _ => rfl
  | [], .text _ :: _, h => by cases h
  | [], .hole _ :: _, h => by cases h
  | .text _ :: _, [], h => by cases h
  | .hole _ :: _, [], h => by cases h
  | .text content :: rest, .text content' :: rest', h => by
    obtain ⟨hPart, hRest⟩ := List.cons.inj h
    rw [(Markup.leaf.inj hPart).2, Part.markups_injective rest rest' hRest]
  | .text content :: rest, .hole code' :: rest', h => by
    exact absurd (List.cons.inj h).1.symm (code'.markup_ne_part content)
  | .hole code :: rest, .text content' :: rest', h => by
    exact absurd (List.cons.inj h).1 (code.markup_ne_part content')
  | .hole code :: rest, .hole code' :: rest', h => by
    obtain ⟨hPart, hRest⟩ := List.cons.inj h
    rw [Code.markup_injective code code' hPart, Part.markups_injective rest rest' hRest]

theorem Code.elseMarkups_injective : ∀ elseBranch elseBranch' : Option Code,
    Code.elseMarkups elseBranch = Code.elseMarkups elseBranch' → elseBranch = elseBranch'
  | none, none, _ => rfl
  | none, some _, h => by cases h
  | some _, none, h => by cases h
  | some code, some code', h => by
    simp only [Code.elseMarkups, List.cons.injEq, Markup.element.injEq, true_and, and_true] at h
    rw [Code.markup_injective code code' h]

end

/-- What stands between two angle brackets. -/
inductive Tag where
  | opening (name : List Char)
  | closing (name : List Char)
  | single (name : List Char)
  deriving DecidableEq, Repr

/-- A tag is closing or single by a slash at its start or end. The name of an opening tag ends at
the first blank. -/
def Tag.ofChars (chars : List Char) : Tag :=
  if chars.head? = some '/' then .closing chars.tail
  else if chars.getLast? = some '/' then .single chars.dropLast
  else .opening (chars.takeWhile (· != ' '))

/-- The tags of a text, where `inside` is what was read of a tag so far. There are none if the angle
brackets do not come in pairs. -/
def scanTags : (inside : Option (List Char)) → List Char → Option (List Tag)
  | none, [] => some []
  | some _, [] => none
  | none, c :: rest =>
    if c = '<' then scanTags (some []) rest
    else if c = '>' then none
    else scanTags none rest
  | some chars, c :: rest =>
    if c = '>' then (scanTags none rest).map (Tag.ofChars chars :: ·)
    else if c = '<' then none
    else scanTags (some (chars ++ [c])) rest

/-- Every opening tag has a closing one of the same name, and the tags between them are nested. -/
inductive Nested : List Tag → Prop where
  | nil : Nested []
  | single (name : List Char) {rest : List Tag} : Nested rest → Nested (.single name :: rest)
  | element (name : List Char) {inner rest : List Tag} : Nested inner → Nested rest →
      Nested (.opening name :: (inner ++ .closing name :: rest))

theorem Nested.append {tags tags' : List Tag} (h : Nested tags) (h' : Nested tags') :
    Nested (tags ++ tags') := by
  induction h with
  | nil => exact h'
  | single name _ ih => exact .single name ih
  | element name hInner _ _ ih =>
    rw [List.cons_append, List.append_assoc, List.cons_append]
    exact .element name hInner ih

mutual

/-- The tags of a markup tree. -/
def Markup.tags : Markup → List Tag
  | .nothing => [.single "None".toList]
  | .leaf label _ => [.opening label.name.toList, .closing label.name.toList]
  | .element container children =>
    .opening container.name.toList :: (Markup.listTags children ++ [.closing container.name.toList])

def Markup.listTags : List Markup → List Tag
  | [] => []
  | m :: rest => m.tags ++ Markup.listTags rest

end

mutual

theorem Markup.nested_tags : ∀ m : Markup, Nested m.tags
  | .nothing => .single _ .nil
  | .leaf _ _ => .element _ .nil .nil
  | .element _ children => .element _ (Markup.nested_listTags children) .nil

theorem Markup.nested_listTags : ∀ ms : List Markup, Nested (Markup.listTags ms)
  | [] => .nil
  | m :: rest => by
    rw [Markup.listTags]
    exact (Markup.nested_tags m).append (Markup.nested_listTags rest)

end

theorem scanTags_text {text : List Char} (h : Unbracketed text) (rest : List Char) :
    scanTags none (text ++ rest) = scanTags none rest := by
  induction text with
  | nil => rfl
  | cons c tail ih =>
    obtain ⟨⟨hOpen, hClose⟩, hTail⟩ := List.forall_mem_cons.mp h
    rw [List.cons_append, scanTags, if_neg hOpen, if_neg hClose, ih hTail]

theorem scanTags_inside {text : List Char} (h : Unbracketed text) (chars rest : List Char) :
    scanTags (some chars) (text ++ '>' :: rest) =
      (scanTags none rest).map (Tag.ofChars (chars ++ text) :: ·) := by
  induction text generalizing chars with
  | nil => rw [List.nil_append, scanTags, if_pos rfl, List.append_nil]
  | cons c tail ih =>
    obtain ⟨⟨hOpen, hClose⟩, hTail⟩ := List.forall_mem_cons.mp h
    rw [List.cons_append, scanTags, if_neg hClose, if_neg hOpen, ih hTail, List.append_assoc,
      List.singleton_append]

theorem scanTags_tag {text : List Char} (h : Unbracketed text) (rest : List Char) :
    scanTags none ('<' :: (text ++ '>' :: rest)) =
      (scanTags none rest).map (Tag.ofChars text :: ·) :=
  scanTags_inside h [] rest

theorem unbracketed_pad (depth : Nat) : Unbracketed (pad depth) := by
  induction depth with
  | zero => decide
  | succ depth ih =>
    rw [pad_succ]
    exact ih.append (by decide)

theorem scanTags_pad (depth : Nat) (rest : List Char) :
    scanTags none (pad depth ++ rest) = scanTags none rest :=
  scanTags_text (unbracketed_pad depth) rest

theorem scanTags_lineEnd (rest : List Char) :
    scanTags none ('\n' :: rest) = scanTags none rest :=
  scanTags_text (by decide : Unbracketed ['\n']) rest

theorem scanTags_closing {name : String} (h : Unbracketed name.toList) (rest : List Char) :
    scanTags none ('<' :: (closing name ++ rest)) =
      (scanTags none rest).map (.closing name.toList :: ·) := by
  have hSlash : Unbracketed ('/' :: name.toList) := (by decide : Unbracketed ['/']).append h
  have hText : closing name ++ rest = ('/' :: name.toList) ++ '>' :: '\n' :: rest := by
    simp [closing]
  rw [hText, scanTags_tag hSlash, scanTags_lineEnd]
  rfl

theorem Tag.ofChars_label (label : Label) :
    Tag.ofChars label.name.toList = .opening label.name.toList := by
  cases label <;> decide

theorem Tag.ofChars_opening (container : Container) :
    Tag.ofChars container.opening.toList = .opening container.name.toList := by
  cases container with
  | list join =>
    rw [Container.opening_list]
    simp [Tag.ofChars, Container.name, List.getLast?_cons]
  | _ => decide

theorem Markup.scanTags_firstTag (depth : Nat) (rest : List Char) (m : Markup) :
    scanTags none (m.chars depth ++ rest) =
      (scanTags none (m.afterTag depth ++ rest)).map (Tag.ofChars m.head.tag :: ·) := by
  rw [Markup.chars_eq, List.append_assoc, scanTags_pad, List.cons_append, List.append_assoc,
    List.cons_append, scanTags_tag (unbracketed_tag m.head)]

mutual

/-- The tags in the text of a markup tree are those of the tree. -/
theorem Markup.scanTags_chars (depth : Nat) (rest : List Char) : ∀ m : Markup,
    scanTags none (m.chars depth ++ rest) = (scanTags none rest).map (m.tags ++ ·)
  | .nothing => by
    rw [Markup.scanTags_firstTag]
    exact congrArg _ (scanTags_lineEnd rest)
  | .leaf label text => by
    have hTag : Tag.ofChars (Markup.leaf label text).head.tag = .opening label.name.toList :=
      Tag.ofChars_label label
    have hAfter : scanTags none ((Markup.leaf label text).afterTag depth ++ rest) =
        (scanTags none rest).map (.closing label.name.toList :: ·) := by
      rw [Markup.afterTag, List.append_assoc, scanTags_text (unbracketed_escapeTag text),
        List.cons_append, scanTags_closing (unbracketed_label label)]
    rw [Markup.scanTags_firstTag, hTag, hAfter, Option.map_map]
    rfl
  | .element container children => by
    have hTag : Tag.ofChars (Markup.element container children).head.tag =
        .opening container.name.toList := Tag.ofChars_opening container
    have hAfter : scanTags none ((Markup.element container children).afterTag depth ++ rest) =
        (scanTags none rest).map fun tags =>
          Markup.listTags children ++ .closing container.name.toList :: tags := by
      rw [Markup.afterTag, List.cons_append, scanTags_lineEnd, List.append_assoc,
        Markup.scanTags_listChars (depth + 1) _ children, List.append_assoc, scanTags_pad,
        List.cons_append, scanTags_closing (unbracketed_name container), Option.map_map]
      rfl
    rw [Markup.scanTags_firstTag, hTag, hAfter, Option.map_map]
    simp [Function.comp_def, Markup.tags]

theorem Markup.scanTags_listChars (depth : Nat) (rest : List Char) : ∀ ms : List Markup,
    scanTags none (Markup.listChars depth ms ++ rest) =
      (scanTags none rest).map (Markup.listTags ms ++ ·)
  | [] => by simp [Markup.listChars, Markup.listTags]
  | m :: others => by
    rw [Markup.listChars, List.append_assoc, Markup.scanTags_chars depth _ m,
      Markup.scanTags_listChars depth rest others, Option.map_map, Markup.listTags]
    simp [Function.comp_def]

end

/-- Output trees with the same tagged text are the same. The tags in the text are those of the
tree, and each opening one is closed where it should be. -/
theorem taggedLayout_faithful :
    Function.Injective Code.taggedLayout ∧
      ∀ code : Code, scanTags none code.taggedLayout.toList = some code.markup.tags ∧
        Nested code.markup.tags := by
  constructor
  · intro code code' h
    have hChars := congrArg String.toList h
    rw [toList_taggedLayout, toList_taggedLayout, Code.lineChars_taggedLines,
      Code.lineChars_taggedLines] at hChars
    have hMarkup := Markup.chars_cancel 0 code.markup code'.markup [] [] (congrArg (· ++ []) hChars)
    exact Code.markup_injective code code' hMarkup.1
  · intro code
    have hScan := Markup.scanTags_chars 0 [] code.markup
    rw [List.append_nil] at hScan
    rw [toList_taggedLayout, Code.lineChars_taggedLines, hScan]
    exact ⟨by simp [scanTags], Markup.nested_tags code.markup⟩

end KotlinBackend.Output
