import KotlinBackend.Decimal.Scientific
import Mathlib

/-!
# Numbers in string templates

A scientific text and a decimal text denote rational numbers. What a number adds to a string
template is a decimal text with the sign and the value of its scientific text. It has no power of
ten if the number is zero or its exponent lies from -3 up to 6, and otherwise the same exponent and
one digit before its point.
-/

namespace KotlinBackend.Decimal

/-- The number `± digits * 10 ^ scale`. -/
def decimalValue (negative : Bool) (digits : List Char) (scale : Int) : ℚ :=
  (if negative then -1 else 1) * (Nat.ofDigitChars 10 digits 0 * 10 ^ scale)

def AllDigits (text : List Char) : Prop := ∀ c ∈ text, c.isDigit = true

inductive IntegerText : List Char → Int → Prop
  | unsigned {digits : List Char} : digits ≠ [] → AllDigits digits →
    IntegerText digits (Nat.ofDigitChars 10 digits 0)
  | plus {digits : List Char} : digits ≠ [] → AllDigits digits →
    IntegerText ('+' :: digits) (Nat.ofDigitChars 10 digits 0)
  | minus {digits : List Char} : digits ≠ [] → AllDigits digits →
    IntegerText ('-' :: digits) (-(Nat.ofDigitChars 10 digits 0 : Int))

/-- A number in scientific form, such as `-1.25e-3`. Its first digit is zero only if all are. -/
structure ScientificText where
  negative : Bool
  lead : Char
  fraction : List Char
  exponentText : List Char
  exponent : Int
  isDigit : AllDigits (lead :: fraction)
  normal : lead ≠ '0' ∨ ∀ c ∈ lead :: fraction, c = '0'
  denotes : IntegerText exponentText exponent
  bounded : Int32.minValue.toInt ≤ exponent ∧ exponent ≤ Int32.maxValue.toInt

namespace ScientificText

variable (t : ScientificText)

def digits : List Char := t.lead :: t.fraction

def mantissa : List Char := t.lead :: if t.fraction = [] then [] else '.' :: t.fraction

def text : String :=
  signText t.negative ++ String.ofList (t.mantissa ++ 'e' :: t.exponentText)

def value : ℚ := decimalValue t.negative t.digits (t.exponent - t.fraction.length)

end ScientificText

/-- A number with digits on both sides of its point, possibly times a power of ten: `-1.25E-3`. -/
structure DecimalText where
  negative : Bool
  whole : List Char
  fraction : List Char
  exponent? : Option Int
  whole_ne_nil : whole ≠ []
  fraction_ne_nil : fraction ≠ []
  isDigit : AllDigits (whole ++ fraction)

namespace DecimalText

variable (d : DecimalText)

def exponentText : List Char :=
  match d.exponent? with
  | none => []
  | some exponent => 'E' :: (toString exponent).toList

def text : String :=
  signText d.negative ++ String.ofList (d.whole ++ '.' :: (d.fraction ++ d.exponentText))

def value : ℚ :=
  decimalValue d.negative (d.whole ++ d.fraction) (d.exponent?.getD 0 - d.fraction.length)

end DecimalText

theorem toList_signText (negative : Bool) :
    (signText negative).toList = if negative then ['-'] else [] := by
  cases negative <;> rfl

theorem AllDigits.not_mem {text : List Char} (h : AllDigits text) {c : Char}
    (hc : c.isDigit = false) : c ∉ text := by
  intro hMem
  have hDigit := h c hMem
  rw [hc] at hDigit
  cases hDigit

theorem splitSign_digits {digits : List Char} (h : AllDigits digits) :
    splitSign digits = (false, digits) := by
  unfold splitSign
  split
  · exact absurd List.mem_cons_self (h.not_mem (by decide))
  · exact absurd List.mem_cons_self (h.not_mem (by decide))
  · rfl

theorem IntegerText.int32?_eq {text : List Char} {n : Int} (h : IntegerText text n)
    (hn : Int32.minValue.toInt ≤ n ∧ n ≤ Int32.maxValue.toInt) : int32? text = some n := by
  cases h with
  | unsigned hDigits hAll =>
    rw [int32?, splitSign_digits hAll]
    exact if_pos ⟨hDigits, List.all_eq_true.mpr hAll, hn⟩
  | plus hDigits hAll => exact if_pos ⟨hDigits, List.all_eq_true.mpr hAll, hn⟩
  | minus hDigits hAll => exact if_pos ⟨hDigits, List.all_eq_true.mpr hAll, hn⟩

namespace ScientificText

variable (t : ScientificText)

def form : Scientific := ⟨t.negative, t.lead, t.fraction, t.exponent⟩

theorem mem_mantissa {c : Char} (h : c ∈ t.mantissa) : c = '.' ∨ c ∈ t.digits := by
  rw [mantissa] at h
  rcases List.mem_cons.mp h with rfl | h
  · exact .inr List.mem_cons_self
  · split at h
    · cases h
    · rcases List.mem_cons.mp h with rfl | h
      · exact .inl rfl
      · exact .inr (List.mem_cons_of_mem _ h)

theorem filter_mantissa : t.mantissa.filter (· != '.') = t.digits := by
  have hDigits : t.digits.filter (· != '.') = t.digits := by
    apply List.filter_eq_self.mpr
    intro c hc
    rw [bne_iff_ne]
    rintro rfl
    exact t.isDigit.not_mem (by decide) hc
  by_cases hNone : t.fraction = []
  · rw [mantissa, if_pos hNone]
    rwa [digits, hNone] at hDigits ⊢
  · have hPoint : ('.' :: t.fraction).filter (· != '.') = t.fraction.filter (· != '.') := rfl
    rw [digits, List.filter_cons] at hDigits
    rw [mantissa, if_neg hNone, List.filter_cons, hPoint]
    exact hDigits

theorem ofUnsigned?_eq :
    Numeral.ofUnsigned? t.negative (t.mantissa ++ 'e' :: t.exponentText) =
      some (.finite t.form) := by
  have hMark : 'e' ∉ t.mantissa := by
    intro h
    rcases t.mem_mantissa h with h | h
    · exact absurd h (by decide)
    · exact t.isDigit.not_mem (by decide) h
  rw [Numeral.ofUnsigned?, Text.splitFirst_append _ hMark]
  simp only [t.denotes.int32?_eq t.bounded, t.filter_mantissa, Option.map_some]
  rfl

/-- A template shows a number by the digits and the exponent of its scientific text. -/
theorem templateNumber_text : templateNumber t.text = t.form.text templateLayout := by
  have hMinus : t.lead ≠ '-' := by
    intro h
    exact t.isDigit.not_mem (c := '-') (by decide) (h ▸ List.mem_cons_self)
  have hText : t.text.toList =
      (if t.negative then ['-'] else []) ++ (t.mantissa ++ 'e' :: t.exponentText) := by
    rw [text, String.toList_append, toList_signText, String.toList_ofList]
  have hRead : Numeral.ofText? t.text = some (.finite t.form) :=
    (Numeral.ofText?_eq hText hMinus).trans t.ofUnsigned?_eq
  rw [templateNumber, hRead]
  rfl

end ScientificText

theorem ofDigitChars_eq_zero_iff {digits : List Char} (h : AllDigits digits) :
    Nat.ofDigitChars 10 digits 0 = 0 ↔ ∀ c ∈ digits, c = '0' := by
  induction digits with
  | nil => simp
  | cons c rest ih =>
    have hRest := ih fun d hd => h d (List.mem_cons_of_mem _ hd)
    have hDigit : c.toNat - '0'.toNat = 0 ↔ c = '0' := by
      have hRange := Char.isDigit_iff_toNat.mp (h c List.mem_cons_self)
      constructor
      · intro hc
        exact Char.toNat_inj.mp (Nat.le_antisymm (Nat.le_of_sub_eq_zero hc) hRange.1)
      · rintro rfl
        rfl
    rw [Nat.ofDigitChars_cons, Nat.ofDigitChars_eq_ofDigitChars_zero, Nat.mul_zero, Nat.zero_add,
      Nat.add_eq_zero_iff, Nat.mul_eq_zero, hDigit, hRest, List.forall_mem_cons]
    simp

theorem ScientificText.value_eq_zero_iff (t : ScientificText) :
    t.value = 0 ↔ t.form.isZero = true := by
  have hSign : (if t.negative then (-1 : ℚ) else 1) ≠ 0 := by split <;> norm_num
  have hPower : (10 : ℚ) ^ (t.exponent - t.fraction.length) ≠ 0 := zpow_ne_zero _ (by norm_num)
  have hDigits : AllDigits t.digits := t.isDigit
  rw [value, decimalValue, mul_eq_zero, mul_eq_zero, Nat.cast_eq_zero, or_iff_right hSign,
    or_iff_left hPower, ofDigitChars_eq_zero_iff hDigits, Scientific.isZero, List.all_eq_true]
  simp only [beq_iff_eq]
  rfl

/-- Zeros around the digits do not change the value if the scale makes up for those behind. -/
theorem decimalValue_padded (negative : Bool) (digits : List Char) (before after : Nat)
    (scale : Int) :
    decimalValue negative
        (List.replicate before '0' ++ digits ++ List.replicate after '0') (scale - after) =
      decimalValue negative digits scale := by
  have hTen : (10 : ℚ) ≠ 0 := by norm_num
  have hDigits : Nat.ofDigitChars 10
      (List.replicate before '0' ++ digits ++ List.replicate after '0') 0 =
      10 ^ after * Nat.ofDigitChars 10 digits 0 := by
    rw [Nat.ofDigitChars_append, Nat.ofDigitChars_append, Nat.ofDigitChars_replicate_zero,
      Nat.ofDigitChars_replicate_zero, Nat.mul_zero]
  have hScale : ((10 ^ after : ℕ) : ℚ) * 10 ^ (scale - after) = 10 ^ scale := by
    rw [Nat.cast_pow, Nat.cast_ofNat, ← zpow_natCast, ← zpow_add₀ hTen, add_sub_cancel]
  rw [decimalValue, decimalValue, hDigits, ← hScale]
  push_cast
  ring

namespace DecimalText

/-- A decimal text says what a scientific text says. -/
structure Restates (d : DecimalText) (t : ScientificText) : Prop where
  value : d.value = t.value
  sign : d.negative = t.negative
  plain : d.exponent? = none ↔ t.value = 0 ∨ -3 ≤ t.exponent ∧ t.exponent < 7
  scaled : ∀ exponent, d.exponent? = some exponent →
    exponent = t.exponent ∧ ∃ c, c ≠ '0' ∧ d.whole = [c]

theorem value_eq_of_padded {d : DecimalText} {t : ScientificText} (hSign : d.negative = t.negative)
    (before after : Nat)
    (hDigits : d.whole ++ d.fraction =
      List.replicate before '0' ++ t.digits ++ List.replicate after '0')
    (hScale : d.exponent?.getD 0 - d.fraction.length = t.exponent - t.fraction.length - after) :
    d.value = t.value := by
  rw [value, ScientificText.value, hSign, hDigits, hScale, decimalValue_padded]

theorem splitFirst_text (d : DecimalText) :
    Text.splitFirst '.' (d.whole ++ '.' :: (d.fraction ++ d.exponentText)) =
      some (d.whole, d.fraction ++ d.exponentText) := by
  apply Text.splitFirst_append
  intro hPoint
  exact d.isDigit.not_mem (by decide) (List.mem_append_left _ hPoint)

theorem splitFirst_fraction (d : DecimalText) :
    Text.splitFirst 'E' (d.fraction ++ d.exponentText) =
      d.exponent?.map fun exponent => (d.fraction, (toString exponent).toList) := by
  have hMark : 'E' ∉ d.fraction := by
    intro hMark
    exact d.isDigit.not_mem (by decide) (List.mem_append_right _ hMark)
  rw [exponentText]
  cases d.exponent? with
  | none => rw [List.append_nil, Text.splitFirst_of_not_mem hMark, Option.map_none]
  | some exponent => rw [Text.splitFirst_append _ hMark, Option.map_some]

theorem head?_unsigned (d : DecimalText) (rest : List Char) :
    (d.whole ++ rest).head? ≠ some '-' := by
  obtain ⟨c, others, hWhole⟩ := List.exists_cons_of_ne_nil d.whole_ne_nil
  rw [hWhole]
  intro hHead
  cases hHead
  exact d.isDigit.not_mem (by decide) (List.mem_append_left _ (hWhole ▸ List.mem_cons_self))

theorem text_injective {d d' : DecimalText} (h : d.text = d'.text) : d = d' := by
  have hText := congrArg String.toList h
  simp only [text, String.toList_append, String.toList_ofList, toList_signText] at hText
  have hSign : d.negative = d'.negative := by
    cases hd : d.negative <;> cases hd' : d'.negative <;> rw [hd, hd'] at hText
    · exact absurd (congrArg List.head? hText) (d.head?_unsigned _)
    · exact absurd (congrArg List.head? hText).symm (d'.head?_unsigned _)
  rw [hSign] at hText
  have hParts := congrArg (Text.splitFirst '.') (List.append_cancel_left hText)
  rw [splitFirst_text, splitFirst_text] at hParts
  obtain ⟨hWhole, hRest⟩ := Prod.mk.inj (Option.some.inj hParts)
  have hExponent := congrArg (Text.splitFirst 'E') hRest
  rw [splitFirst_fraction, splitFirst_fraction] at hExponent
  have hSame : d.fraction = d'.fraction ∧ d.exponent? = d'.exponent? := by
    cases hd : d.exponent? with
    | none =>
      rw [hd, Option.map_none] at hExponent
      have hd' := Option.map_eq_none_iff.mp hExponent.symm
      rw [exponentText, exponentText, hd, hd', List.append_nil, List.append_nil] at hRest
      exact ⟨hRest, hd'.symm⟩
    | some exponent =>
      rw [hd, Option.map_some] at hExponent
      obtain ⟨exponent', hd', hPair⟩ := Option.map_eq_some_iff.mp hExponent.symm
      obtain ⟨hFraction, hNumeral⟩ := Prod.mk.inj hPair
      rw [hd', Int.repr_injective (String.toList_injective hNumeral)]
      exact ⟨hFraction.symm, rfl⟩
  cases d
  cases d'
  cases hSign
  cases hWhole
  cases hSame.1
  cases hSame.2
  rfl

end DecimalText

namespace Scientific

variable {s : Scientific}

theorem unsignedText_of_isZero (h : s.isZero = true) : s.unsignedText templateLayout = "0.0" :=
  if_pos ⟨by decide, h⟩

theorem unsignedText_of_small (h : s.isZero = false)
    (hSmall : -3 ≤ s.exponent ∧ s.exponent < 7) :
    s.unsignedText templateLayout = String.ofList (positional s.digits s.exponent) := by
  rw [unsignedText, if_neg (by simp [h])]
  exact if_pos hSmall

/-- The digits after the point, a zero if there are none. -/
def shownFraction (s : Scientific) : List Char := if s.fraction = [] then ['0'] else s.fraction

theorem shownFraction_parts (s : Scientific) :
    s.shownFraction ≠ [] ∧ ∃ after, s.shownFraction = s.fraction ++ List.replicate after '0' := by
  rw [shownFraction]
  split
  · rename_i hNone
    rw [hNone]
    exact ⟨List.cons_ne_nil _ _, 1, rfl⟩
  · rename_i hSome
    exact ⟨hSome, 0, (List.append_nil _).symm⟩

theorem unsignedText_of_large (h : s.isZero = false)
    (hLarge : ¬ (-3 ≤ s.exponent ∧ s.exponent < 7)) :
    s.unsignedText templateLayout = String.ofList
      ([s.lead] ++ '.' :: (s.shownFraction ++ 'E' :: (toString s.exponent).toList)) := by
  rw [unsignedText, if_neg (by simp [h])]
  refine (if_neg hLarge).trans ?_
  apply String.toList_injective
  by_cases hNone : s.fraction = [] <;> simp [shownFraction, templateLayout, hNone]

end Scientific

theorem AllDigits.padded {digits : List Char} (h : AllDigits digits) (before after : Nat) :
    AllDigits (List.replicate before '0' ++ digits ++ List.replicate after '0') := by
  intro c hc
  rcases List.mem_append.mp hc with hc | hc
  · rcases List.mem_append.mp hc with hc | hc
    · rw [List.eq_of_mem_replicate hc]
      rfl
    · exact h c hc
  · rw [List.eq_of_mem_replicate hc]
    rfl

/-- What the digits of a number written out around its point are: its own digits between zeros. -/
theorem positional_parts {digits : List Char} (hDigits : digits ≠ []) (exponent : Int) :
    ∃ whole fraction before after,
      positional digits exponent = whole ++ '.' :: fraction ∧ whole ≠ [] ∧ fraction ≠ [] ∧
      whole ++ fraction = List.replicate before '0' ++ digits ++ List.replicate after '0' ∧
      -(fraction.length : Int) = exponent + 1 - digits.length - after := by
  have hLength := List.length_pos_iff.mpr hDigits
  rw [positional]
  split
  · rename_i hNegative
    refine ⟨['0'], List.replicate (-exponent - 1).toNat '0' ++ digits,
      (-exponent - 1).toNat + 1, 0, rfl, List.cons_ne_nil _ _, ?_, ?_, ?_⟩
    · exact List.append_ne_nil_of_right_ne_nil _ hDigits
    · rw [List.replicate_succ, List.replicate_zero, List.append_nil]
      rfl
    · rw [List.length_append, List.length_replicate]
      omega
  · rename_i hNegative
    dsimp only
    generalize hPoint : exponent.toNat + 1 = point
    generalize hPadded : digits ++ List.replicate (point - digits.length) '0' = padded
    have hPaddedLength : padded.length = max digits.length point := by
      rw [← hPadded, List.length_append, List.length_replicate]
      omega
    have hWhole : padded.take point ≠ [] := by
      rw [← List.length_pos_iff, List.length_take]
      omega
    by_cases hNone : padded.drop point = []
    · have hShort := List.drop_eq_nil_iff.mp hNone
      refine ⟨padded.take point, ['0'], 0, point - digits.length + 1, ?_, hWhole,
        List.cons_ne_nil _ _, ?_, ?_⟩
      · rw [if_pos (List.isEmpty_iff.mpr hNone)]
      · rw [List.take_of_length_le hShort, ← hPadded, List.replicate_succ', List.replicate_zero,
          List.nil_append, List.append_assoc]
      · rw [List.length_singleton]
        omega
    · have hLong := List.length_pos_iff.mpr hNone
      rw [List.length_drop] at hLong
      refine ⟨padded.take point, padded.drop point, 0, point - digits.length, ?_, hWhole, hNone,
        ?_, ?_⟩
      · rw [if_neg (mt List.isEmpty_iff.mp hNone)]
      · rw [List.take_append_drop, ← hPadded, List.replicate_zero, List.nil_append]
      · rw [List.length_drop]
        omega

namespace ScientificText

variable (t : ScientificText)

/-- A decimal text made of the digits of a scientific text between zeros. -/
theorem exists_padded {whole fraction : List Char} (exponent? : Option Int) (before after : Nat)
    (hWhole : whole ≠ []) (hFraction : fraction ≠ [])
    (hDigits : whole ++ fraction =
      List.replicate before '0' ++ t.digits ++ List.replicate after '0')
    (hScale : exponent?.getD 0 - fraction.length = t.exponent - t.fraction.length - after) :
    ∃ d : DecimalText,
      d.text = signText t.negative ++
        String.ofList (whole ++ '.' :: (fraction ++ d.exponentText)) ∧
      d.negative = t.negative ∧ d.whole = whole ∧ d.exponent? = exponent? ∧
      d.value = t.value := by
  have hAll : AllDigits (whole ++ fraction) := by
    rw [hDigits]
    exact AllDigits.padded t.isDigit before after
  refine ⟨⟨t.negative, whole, fraction, exponent?, hWhole, hFraction, hAll⟩,
    rfl, rfl, rfl, rfl, ?_⟩
  exact DecimalText.value_eq_of_padded rfl before after hDigits hScale

theorem restated_of_isZero (h : t.form.isZero = true) :
    ∃ d : DecimalText, d.text = t.form.text templateLayout ∧ d.Restates t := by
  have hValue := t.value_eq_zero_iff.mpr h
  have hZeros : ∀ c ∈ ['0'] ++ ['0'], c = '0' := fun _ hc => List.eq_of_mem_replicate (n := 2) hc
  have hAll : AllDigits (['0'] ++ ['0']) := by
    intro c hc
    rw [hZeros c hc]
    rfl
  refine ⟨⟨t.negative, ['0'], ['0'], none, List.cons_ne_nil _ _, List.cons_ne_nil _ _, hAll⟩,
    ?_, ?_, rfl, ?_, ?_⟩
  · rw [Scientific.text, Scientific.unsignedText_of_isZero h]
    rfl
  · rw [hValue, DecimalText.value, decimalValue, (ofDigitChars_eq_zero_iff hAll).mpr hZeros]
    simp
  · exact ⟨fun _ => .inl hValue, fun _ => rfl⟩
  · rintro exponent ⟨⟩

theorem restated_of_small (h : t.form.isZero = false)
    (hSmall : -3 ≤ t.exponent ∧ t.exponent < 7) :
    ∃ d : DecimalText, d.text = t.form.text templateLayout ∧ d.Restates t := by
  obtain ⟨whole, fraction, before, after, hText, hWhole, hFraction, hDigits, hLength⟩ :=
    positional_parts (List.cons_ne_nil t.lead t.fraction) t.exponent
  have hScale : (none : Option Int).getD 0 - fraction.length =
      t.exponent - t.fraction.length - after := by
    rw [List.length_cons] at hLength
    rw [Option.getD_none]
    omega
  obtain ⟨d, hd, hSign, -, hPlain, hValue⟩ :=
    t.exists_padded none before after hWhole hFraction hDigits hScale
  refine ⟨d, ?_, hValue, hSign, ?_, ?_⟩
  · rw [hd, Scientific.text, Scientific.unsignedText_of_small h hSmall, DecimalText.exponentText,
      hPlain, List.append_nil, ← hText]
    rfl
  · exact ⟨fun _ => .inr hSmall, fun _ => hPlain⟩
  · intro exponent hSome
    rw [hPlain] at hSome
    cases hSome

theorem restated_of_large (h : t.form.isZero = false)
    (hLarge : ¬ (-3 ≤ t.exponent ∧ t.exponent < 7)) :
    ∃ d : DecimalText, d.text = t.form.text templateLayout ∧ d.Restates t := by
  have hNonzero : t.value ≠ 0 := by
    rw [ne_eq, t.value_eq_zero_iff, h]
    exact Bool.false_ne_true
  have hLead : t.lead ≠ '0' := by
    rcases t.normal with hLead | hZero
    · exact hLead
    · have hAll : t.form.isZero = true :=
        List.all_eq_true.mpr fun c hc => beq_iff_eq.mpr (hZero c hc)
      rw [h] at hAll
      cases hAll
  obtain ⟨hFraction, after, hShown⟩ := t.form.shownFraction_parts
  have hDigits : [t.lead] ++ t.form.shownFraction =
      List.replicate 0 '0' ++ t.digits ++ List.replicate after '0' := by
    rw [hShown]
    rfl
  have hScale : (some t.exponent).getD 0 - t.form.shownFraction.length =
      t.exponent - t.fraction.length - after := by
    have hLength : t.form.shownFraction.length = t.fraction.length + after := by
      rw [hShown, List.length_append, List.length_replicate]
      rfl
    rw [Option.getD_some]
    omega
  obtain ⟨d, hd, hSign, hWhole, hScaled, hValue⟩ :=
    t.exists_padded (some t.exponent) 0 after (List.cons_ne_nil _ _) hFraction hDigits hScale
  refine ⟨d, ?_, hValue, hSign, ?_, ?_⟩
  · rw [hd, Scientific.text, Scientific.unsignedText_of_large h hLarge, DecimalText.exponentText,
      hScaled]
    rfl
  · rw [hScaled]
    exact ⟨fun hNone => absurd hNone (Option.some_ne_none _),
      fun hPlain => absurd hPlain (not_or.mpr ⟨hNonzero, hLarge⟩)⟩
  · intro exponent hSome
    rw [hScaled] at hSome
    exact ⟨(Option.some.inj hSome).symm, t.lead, hLead, hWhole⟩

end ScientificText

/-- A template shows a number by a decimal text with its sign and its value: without a power of ten
for zero and for exponents from -3 to 6, otherwise with the exponent and one digit before the
point. -/
theorem templateNumber_restates (t : ScientificText) :
    (∃ d : DecimalText, d.text = templateNumber t.text) ∧
      ∀ d : DecimalText, d.text = templateNumber t.text → d.Restates t := by
  have hRestated : ∃ d : DecimalText, d.text = t.form.text templateLayout ∧ d.Restates t := by
    cases hZero : t.form.isZero with
    | true => exact t.restated_of_isZero hZero
    | false =>
      by_cases hExponent : -3 ≤ t.exponent ∧ t.exponent < 7
      · exact t.restated_of_small hZero hExponent
      · exact t.restated_of_large hZero hExponent
  obtain ⟨d, hText, hRestates⟩ := hRestated
  rw [t.templateNumber_text]
  refine ⟨⟨d, hText⟩, ?_⟩
  intro d' hText'
  rw [DecimalText.text_injective (hText'.trans hText.symm)]
  exact hRestates

example : templateNumber "-1.25e-4" = "-1.25E-4" ∧ templateNumber "1.25e-3" = "0.00125" := by
  decide +kernel

end KotlinBackend.Decimal
