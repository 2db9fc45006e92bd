import KotlinBackend.Output.Declaration
import KotlinBackend.Proofs.Marker.Strings
import KotlinBackend.Proofs.Output.Formula

/-!
# How the texts of generated code start

A marker starts with the opening of a comment. If no string of a program has this opening, then no
text that is generated from names, types and literals starts with it.
-/

namespace KotlinBackend.Output

def commentOpening : List Char := ['/', '*']

/-- No comment opens inside a text. -/
def Plain (s : String) : Prop := ¬ commentOpening <:+: s.toList

/-- A text does not start with a comment. -/
def Clean (s : String) : Prop := ¬ commentOpening <+: s.toList

instance : DecidablePred Plain := fun s =>
  inferInstanceAs (Decidable (¬ commentOpening <:+: s.toList))

instance : DecidablePred Clean := fun s =>
  inferInstanceAs (Decidable (¬ commentOpening <+: s.toList))

theorem Plain.clean {s : String} (h : Plain s) : Clean s := fun hPrefix => h hPrefix.isInfix

/-- Whatever follows a text, there is no comment at its start. -/
def Settled (s : String) : Prop := ∀ t, Clean (s ++ t)

/-- A text has a first character, which does not open a comment. -/
def opens (s : String) : Bool := s.toList.head?.any (· != '/')

/-- A text has a first character, which does not belong to the opening of a comment. -/
def divides (s : String) : Bool := s.toList.head?.any fun c => c != '/' && c != '*'

section Starts

variable {s t : String}

theorem Settled.append (h : Settled s) : Settled (s ++ t) := by
  intro u
  rw [String.append_assoc]
  exact h (t ++ u)

theorem Settled.clean (h : Settled s) : Clean s := by
  have hEmpty := h ""
  rwa [String.append_empty] at hEmpty

theorem settled_of_opens (h : opens s = true) : Settled s := by
  rintro t ⟨rest, hPrefix⟩
  rw [String.toList_append] at hPrefix
  cases hChars : s.toList with
  | nil => simp [opens, hChars] at h
  | cons c others =>
    rw [hChars] at hPrefix
    obtain ⟨rfl, -⟩ := List.cons.inj hPrefix
    simp [opens, hChars] at h

theorem Clean.settled (hs : Clean s) (ht : divides t = true) : Settled (s ++ t) := by
  intro u hPrefix
  obtain ⟨first, others, hFirst, hSlash, hStar⟩ :
      ∃ c rest, t.toList = c :: rest ∧ c ≠ '/' ∧ c ≠ '*' := by
    cases hChars : t.toList with
    | nil => simp [divides, hChars] at ht
    | cons c rest => exact ⟨c, rest, rfl, by simpa [divides, hChars] using ht⟩
  -- the opening would have to end in the second text, which starts with none of its characters
  rw [String.append_assoc, String.toList_append, String.toList_append, hFirst,
    List.cons_append] at hPrefix
  cases hChars : s.toList with
  | nil =>
    rw [hChars] at hPrefix
    exact hSlash (List.cons_prefix_cons.mp hPrefix).1.symm
  | cons c rest =>
    rw [hChars] at hPrefix
    obtain ⟨rfl, hRest⟩ := List.cons_prefix_cons.mp hPrefix
    cases rest with
    | nil => exact hStar (List.cons_prefix_cons.mp hRest).1.symm
    | cons d tail =>
      obtain ⟨rfl, -⟩ := List.cons_prefix_cons.mp hRest
      exact hs (by rw [hChars]; exact ⟨tail, rfl⟩)

/-- Something that is empty or starts with a divider is put behind a text. -/
theorem Clean.append (hs : Clean s) (ht : t = "" ∨ divides t = true) : Clean (s ++ t) := by
  rcases ht with rfl | ht
  · rwa [String.append_empty]
  · exact (hs.settled ht).clean

theorem divides_append (h : divides s = true) : divides (s ++ t) = true := by
  rw [divides, String.toList_append]
  cases hChars : s.toList with
  | nil => simp [divides, hChars] at h
  | cons c rest => simpa [divides, hChars] using h

end Starts

/-- All of some strings are plain. -/
def AllPlain (strings : List String) : Prop := ∀ s ∈ strings, Plain s

instance : DecidablePred AllPlain := fun strings =>
  inferInstanceAs (Decidable (∀ s ∈ strings, Plain s))

section Strings

variable {s : String} {strings strings' : List String}

theorem AllPlain.mono (h : AllPlain strings) (hSubset : strings' ⊆ strings) : AllPlain strings' :=
  fun s hs => h s (hSubset hs)

@[simp] theorem allPlain_nil : AllPlain [] := List.forall_mem_nil _

@[simp] theorem allPlain_cons : AllPlain (s :: strings) ↔ Plain s ∧ AllPlain strings :=
  List.forall_mem_cons

@[simp] theorem allPlain_append :
    AllPlain (strings ++ strings') ↔ AllPlain strings ∧ AllPlain strings' :=
  List.forall_mem_append

theorem allPlain_flatMap {α : Type} {items : List α} {f : α → List String} :
    AllPlain (items.flatMap f) ↔ ∀ a ∈ items, AllPlain (f a) := by
  induction items with
  | nil => simp
  | cons a rest ih => simp [ih]

end Strings

theorem mem_of_lookup {α : Type} [BEq α] [LawfulBEq α] {entries : List (α × String)} {key : α}
    {name : String} (h : entries.lookup key = some name) : (key, name) ∈ entries := by
  obtain ⟨before, after, rfl, -⟩ := List.lookup_eq_some_iff.mp h
  exact List.mem_append_right _ List.mem_cons_self

theorem clean_intercalate {separator : String} {names : List String}
    (hSeparator : divides separator = true) (h : AllPlain names) :
    Clean (separator.intercalate names) := by
  cases names with
  | nil =>
    rw [String.intercalate_nil]
    decide
  | cons name rest =>
    have hName := (allPlain_cons.mp h).1.clean
    cases rest with
    | nil => exact hName
    | cons next rest =>
      rw [String.intercalate_cons_cons]
      exact (hName.settled hSeparator).append.clean

theorem clean_qualifiedName {id : ClassId} (h : AllPlain id.strings) : Clean id.qualifiedName := by
  obtain ⟨hPackage, hNames⟩ := allPlain_cons.mp h
  unfold ClassId.qualifiedName QualifiedName.qualify
  split
  · exact clean_intercalate (by decide) hNames
  · exact (hPackage.clean.settled (by decide)).append.clean

theorem clean_classBaseName {id : ClassId} (h : AllPlain id.strings) :
    Clean (classBaseName id) := by
  have hTable : ∀ entry ∈ nameTable, Clean entry.2 := by decide +kernel
  unfold classBaseName
  cases hName : nameTable.lookup id.qualifiedName with
  | none => exact clean_qualifiedName h
  | some name => exact hTable _ (mem_of_lookup hName)

theorem clean_markNullable {name : String} (nullable : Bool) (h : Clean name) :
    Clean (markNullable nullable name) := by
  unfold markNullable
  split
  · exact (h.settled (by decide)).clean
  · exact h

mutual

theorem clean_typeName (t : SourceType) (h : AllPlain t.strings) : Clean (typeName t) := by
  cases t with
  | parameter name nullable => exact (h name List.mem_cons_self).clean
  | applied id arguments nullable =>
    obtain ⟨hId, hArguments⟩ := allPlain_append.mp h
    rw [typeName]
    split
    · exact ((clean_headD_argumentNames arguments hArguments).settled (by decide)).clean
    · simp only
      split
      · exact clean_classBaseName hId
      · exact ((clean_classBaseName hId).settled (by decide)).append.append.clean

theorem clean_argumentName (a : TypeArgument) (h : AllPlain a.strings) :
    Clean (argumentName a) := by
  cases a with
  | star => decide
  | projected variance type => exact clean_markNullable _ (clean_typeName type h)

theorem clean_headD_argumentNames (arguments : List TypeArgument)
    (h : AllPlain (TypeArgument.listStrings arguments)) :
    Clean ((argumentNames arguments).headD objectName) := by
  cases arguments with
  | nil => decide
  | cons a rest => exact clean_argumentName a (allPlain_append.mp h).1

end

theorem clean_className {id : ClassId} (h : AllPlain id.strings) : Clean (className id) :=
  clean_typeName (.ofClass id) (by simpa [SourceType.ofClass, SourceType.strings,
    TypeArgument.listStrings] using h)

theorem clean_nullableName {t : SourceType} (h : AllPlain t.strings) : Clean (nullableName t) :=
  clean_markNullable _ (clean_typeName t h)

theorem clean_returnName {t : SourceType} (h : AllPlain t.strings) : Clean (returnName t) := by
  unfold returnName
  split
  · decide
  · exact clean_typeName t h

theorem clean_defaultValue (name : String) (t : SourceType) : Clean (defaultValue name t) := by
  unfold defaultValue
  split
  · decide
  · split
    · decide
    · split
      · decide
      · split
        · decide
        · split
          · exact (settled_of_opens (by decide)).append.append.append.clean
          · split <;> decide

theorem ne_slash_of_isDigit {c : Char} (h : c.isDigit = true) : (c != '/') = true := by
  rw [bne_iff_ne]
  rintro rfl
  exact absurd h (by decide)

theorem opens_digits (n : Nat) : (Nat.toDigits 10 n).head?.any (· != '/') = true := by
  obtain ⟨c, others, h⟩ := List.exists_cons_of_ne_nil (Nat.toDigits_ne_nil (n := n) (b := 10))
  have hDigit : c.isDigit = true :=
    Nat.isDigit_of_mem_toDigits (by decide) (by decide) (h ▸ List.mem_cons_self)
  rw [h]
  exact ne_slash_of_isDigit hDigit

theorem opens_natural (n : Nat) : opens (toString n) = true := by
  have hDigits : (toString n).toList = Nat.toDigits 10 n := by simp
  rw [opens, hDigits]
  exact opens_digits n

theorem opens_integer (n : Int) : opens (toString n) = true := by
  rw [opens, toList_toString]
  split
  · rfl
  · exact opens_digits _

/-- The first digit of a number is a digit. -/
theorem isDigit_lead {w : Decimal.Width} {r : Decimal.Reading} {form : Decimal.Scientific}
    (h : Decimal.Numeral.ofReading w r = .finite form) : form.lead.isDigit = true := by
  cases r with
  | notANumber | infinite => cases h
  | finite negative significand exponent =>
    rw [Decimal.Numeral.ofReading] at h
    split at h
    · cases h
      rfl
    · cases h
      rw [Decimal.Scientific.ofCoefficient]
      split
      · rfl
      · rename_i hDigits
        exact Nat.isDigit_of_mem_toDigits (by decide) (by decide) (hDigits ▸ List.mem_cons_self)

theorem settled_unsignedText {form : Decimal.Scientific} (h : form.lead.isDigit = true)
    (layout : Decimal.Layout) : Settled (form.unsignedText layout) := by
  have hLead := ne_slash_of_isDigit h
  unfold Decimal.Scientific.unsignedText
  split
  · exact settled_of_opens rfl
  · split
    · refine settled_of_opens ?_
      unfold Decimal.positional
      rw [opens, String.toList_ofList]
      split
      · rfl
      · simpa [Decimal.Scientific.digits] using hLead
    · refine (settled_of_opens ?_).append.append.append
      rw [opens, String.toList_ofList]
      exact hLead

theorem settled_text {form : Decimal.Scientific} (h : form.lead.isDigit = true)
    (layout : Decimal.Layout) : Settled (form.text layout) := by
  unfold Decimal.Scientific.text Decimal.signText
  split
  · exact (settled_of_opens rfl).append
  · rw [String.empty_append]
    exact settled_unsignedText h layout

theorem clean_numeral (w : Decimal.Width) (r : Decimal.Reading) (layout : Decimal.Layout)
    (hInfinity : opens layout.infinity = true) :
    Clean ((Decimal.Numeral.ofReading w r).text layout) := by
  cases hNumeral : Decimal.Numeral.ofReading w r with
  | notANumber =>
    have hText : Decimal.Numeral.notANumber.text layout = "NaN" := rfl
    rw [hText]
    decide
  | infinite negative =>
    cases negative with
    | true => exact (settled_of_opens rfl).append.clean
    | false =>
      have hText : (Decimal.Numeral.infinite false).text layout = layout.infinity :=
        String.empty_append
      rw [hText]
      exact (settled_of_opens hInfinity).clean
  | finite form => exact (settled_text (isDigit_lead hNumeral) layout).clean

/-- A number that is read from its scientific text has the first digit of the text. -/
theorem lead_of_ofUnsigned? {negative : Bool} {lead : Char} {rest : List Char}
    {form : Decimal.Scientific} (hLead : lead.isDigit = true)
    (h : Decimal.Numeral.ofUnsigned? negative (lead :: rest) = some (.finite form)) :
    form.lead = lead := by
  have hMark : lead ≠ 'e' := by
    rintro rfl
    exact absurd hLead (by decide)
  have hPoint : (lead != '.') = true := by
    rw [bne_iff_ne]
    rintro rfl
    exact absurd hLead (by decide)
  rw [Decimal.Numeral.ofUnsigned?, Text.splitFirst, if_neg hMark] at h
  cases hRest : Text.splitFirst 'e' rest with
  | none =>
    rw [hRest, Option.map_none] at h
    have hNumeral := Option.some.inj h
    split at hNumeral <;> cases hNumeral
  | some parts =>
    rw [hRest, Option.map_some] at h
    obtain ⟨exponent, -, hForm⟩ := Option.map_eq_some_iff.mp h
    rw [List.filter_cons_of_pos (p := (· != '.')) hPoint] at hForm
    cases hForm
    rfl

theorem isDigit_lead_ofText? {form read : Decimal.Scientific} (hLead : form.lead.isDigit = true)
    (h : Decimal.Numeral.ofText? (form.text Decimal.scientificLayout) = some (.finite read)) :
    read.lead.isDigit = true := by
  have hMinus : form.lead ≠ '-' := by
    intro hMinus
    rw [hMinus] at hLead
    exact absurd hLead (by decide)
  rw [Decimal.Numeral.ofText?_eq form.toList_text_scientificLayout hMinus] at h
  rw [lead_of_ofUnsigned? hLead h]
  exact hLead

theorem clean_templateNumber (w : Decimal.Width) (r : Decimal.Reading) :
    Clean (Decimal.templateNumber
      ((Decimal.Numeral.ofReading w r).text Decimal.scientificLayout)) := by
  have hClean := clean_numeral w r Decimal.scientificLayout rfl
  unfold Decimal.templateNumber
  split
  · rename_i numeral hText
    cases numeral with
    | notANumber => decide
    | infinite negative => cases negative <;> decide
    | finite read =>
      cases hNumeral : Decimal.Numeral.ofReading w r with
      | notANumber =>
        rw [hNumeral] at hText
        cases hText
      | infinite negative =>
        rw [hNumeral] at hText
        cases negative <;> cases hText
      | finite form =>
        rw [hNumeral] at hText
        exact (settled_text (isDigit_lead_ofText? (isDigit_lead hNumeral) hText) _).clean
  · exact hClean

theorem clean_realLiteral (typeName suffix : String) (w : Decimal.Width) (r : Decimal.Reading)
    (hType : opens typeName = true) :
    Clean (realLiteral typeName suffix (Decimal.Numeral.ofReading w r)) := by
  cases hNumeral : Decimal.Numeral.ofReading w r with
  | notANumber => exact (settled_of_opens hType).append.clean
  | infinite negative => cases negative <;> exact (settled_of_opens hType).append.clean
  | finite form => exact (settled_text (isDigit_lead hNumeral) _).append.clean

theorem clean_boolText (b : Bool) : Clean (Constant.boolText b) := by
  cases b <;> decide

theorem clean_literal (value : Constant) : Clean (literal value) := by
  cases value with
  | null => decide
  | boolean b => exact clean_boolText b
  | char c =>
    rw [literal, characterLiteral]
    split
    · decide
    · exact (settled_of_opens rfl).append.append.clean
  | byte n | short n => exact (settled_of_opens rfl).append.clean
  | int n => exact (settled_of_opens (opens_integer _)).clean
  | long n => exact (settled_of_opens (opens_integer _)).append.clean
  | float x => exact clean_realLiteral _ _ _ _ rfl
  | double x => exact clean_realLiteral _ _ _ _ rfl
  | uint n | ulong n => exact (settled_of_opens (opens_natural _)).append.clean
  | string s => exact (settled_of_opens rfl).append.append.clean

theorem clean_templateText (value : Constant) (h : AllPlain value.strings) :
    Clean value.templateText := by
  cases value with
  | null => decide
  | boolean b => exact clean_boolText b
  | char c =>
    -- a single character is too short
    rintro ⟨rest, hPrefix⟩
    have hLength := congrArg List.length hPrefix
    simp [commentOpening, Constant.templateText] at hLength
  | byte n | short n | int n | long n => exact (settled_of_opens (opens_integer _)).clean
  | float x | double x => exact clean_templateNumber _ _
  | uint n | ulong n => exact (settled_of_opens (opens_natural _)).clean
  | string s => exact (h s List.mem_cons_self).clean

theorem clean_unaryAffixes {name before after : String}
    (h : unaryAffixes? name = some (before, after)) : Clean before ∧ Clean after := by
  have hOperators : ∀ entry ∈ unaryOperators, opens entry.2 = true := by decide
  unfold unaryAffixes? at h
  split at h
  · rename_i hOperator
    cases h
    exact ⟨(settled_of_opens (hOperators _ (mem_of_lookup hOperator))).append.clean, by decide⟩
  · cases h
    exact ⟨(settled_of_opens rfl).append.append.clean, by decide⟩
  · split at h <;> cases h <;> decide

theorem clean_binaryAffixes {name before between : String}
    (h : binaryAffixes? name = some (before, between)) : Clean before ∧ Clean between := by
  unfold binaryAffixes? at h
  split at h
  · cases h
    decide
  · obtain ⟨operator, -, hAffixes⟩ := Option.map_eq_some_iff.mp h
    cases hAffixes
    exact ⟨by decide, (settled_of_opens rfl).append.append.clean⟩

theorem clean_accessorProperty {opening name property : String} (h : Plain name)
    (hProperty : accessorProperty? opening name = some property) : Clean property := by
  obtain ⟨rest, hRest, hProperty⟩ := Option.bind_eq_some_iff.mp hProperty
  obtain ⟨middle, hMiddle, hProperty⟩ := Option.bind_eq_some_iff.mp hProperty
  obtain rfl := Option.some.inj hProperty
  rw [Text.dropStart?_eq_some_iff, Text.dropEnding?_eq_some_iff.mp hMiddle] at hRest
  rintro ⟨others, hPrefix⟩
  rw [String.toList_ofList] at hPrefix
  refine h ⟨opening.toList, others ++ ['>'], ?_⟩
  rw [hRest, ← hPrefix, List.append_assoc, List.append_assoc]

theorem clean_calleeName {c : Call} (h : Plain c.callee.name) : Clean (calleeName c) := by
  unfold calleeName
  split
  · exact h.clean
  · exact (h.clean.settled (by decide)).append.append.clean

theorem clean_implicitField {field : String} (scope : Scope) (h : Plain field) :
    Clean (scope.implicitField field) := by
  unfold Scope.implicitField
  split
  · exact h.clean
  · exact (settled_of_opens rfl).append.clean

end KotlinBackend.Output
