import KotlinBackend.Decimal.Shortest
import KotlinBackend.Text.Split

/-!
# Decimal text

A number is shown from its scientific form: a digit before the point, the digits after it, and a
power of ten. A layout says for which exponents the number is written out positionally, and how the
scientific form is spelled otherwise. A string template takes the number from the text of its
scientific form.
-/

namespace KotlinBackend.Decimal

/-- The text `± lead.fraction × 10 ^ exponent`. -/
structure Scientific where
  negative : Bool
  lead : Char
  fraction : List Char
  exponent : Int
  deriving DecidableEq, Repr

def Scientific.digits (s : Scientific) : List Char := s.lead :: s.fraction

def Scientific.isZero (s : Scientific) : Bool := s.digits.all (· == '0')

def Scientific.zero (negative : Bool) : Scientific := ⟨negative, '0', [], 0⟩

def Scientific.ofCoefficient (negative : Bool) (c : Coefficient) : Scientific :=
  match Nat.toDigits 10 c.coefficient with
  | [] => .zero negative
  | lead :: fraction => ⟨negative, lead, fraction, c.exponent + fraction.length⟩

inductive Numeral where
  | notANumber
  | infinite (negative : Bool)
  | finite (form : Scientific)
  deriving DecidableEq, Repr

def Numeral.ofReading (w : Width) : Reading → Numeral
  | .notANumber => .notANumber
  | .infinite negative => .infinite negative
  | .finite negative significand exponent =>
    if significand = 0 then .finite (.zero negative)
    else .finite (.ofCoefficient negative (shortest w significand exponent))

def Numeral.ofFloat (x : Float) : Numeral := .ofReading double (.ofFloat x)

def Numeral.ofFloat32 (x : Float32) : Numeral := .ofReading single (.ofFloat32 x)

/-- How numerals are spelled. Exponents from `positionalFrom` up to but not including
`positionalBelow` are written out. -/
structure Layout where
  positionalFrom : Int
  positionalBelow : Int
  exponentMark : String
  /-- Whether a positive exponent is written with its sign. -/
  exponentPlus : Bool
  /-- Whether the scientific form has at least one digit after the point. -/
  fractionAlways : Bool
  infinity : String

/-- Text of a number inside a string template: plain from a thousandth up to ten million. -/
def templateLayout : Layout := ⟨-3, 7, "E", false, true, "Infinity"⟩

/-- Text of a number in listings and in generated literals. -/
def plainLayout : Layout := ⟨-4, 16, "e", false, false, "inf"⟩

def documentLayout : Layout := ⟨-5, 16, "e", true, false, "inf"⟩

def scientificLayout : Layout := ⟨0, 0, "e", false, false, "inf"⟩

/-- Digits written out around a point, with at least one digit on each side of it. -/
def positional (digits : List Char) (exponent : Int) : List Char :=
  if exponent < 0 then
    '0' :: '.' :: (List.replicate (-exponent - 1).toNat '0' ++ digits)
  else
    let point := exponent.toNat + 1
    let padded := digits ++ List.replicate (point - digits.length) '0'
    let fraction := padded.drop point
    padded.take point ++ '.' :: (if fraction.isEmpty then ['0'] else fraction)

def Scientific.unsignedText (s : Scientific) (layout : Layout) : String :=
  if layout.positionalFrom < layout.positionalBelow ∧ s.isZero then "0.0"
  else if layout.positionalFrom ≤ s.exponent ∧ s.exponent < layout.positionalBelow then
    String.ofList (positional s.digits s.exponent)
  else
    let fraction :=
      if s.fraction.isEmpty then (if layout.fractionAlways then ['.', '0'] else [])
      else '.' :: s.fraction
    let plus := if layout.exponentPlus ∧ 0 ≤ s.exponent then "+" else ""
    String.ofList (s.lead :: fraction) ++ layout.exponentMark ++ plus ++ toString s.exponent

def signText (negative : Bool) : String := if negative then "-" else ""

def Scientific.text (s : Scientific) (layout : Layout) : String :=
  signText s.negative ++ s.unsignedText layout

theorem Scientific.toList_text_scientificLayout (s : Scientific) :
    (s.text scientificLayout).toList =
      (if s.negative then ['-'] else []) ++ s.lead :: ((if s.fraction = [] then [] else
        '.' :: s.fraction) ++ 'e' :: (toString s.exponent).toList) := by
  have hPositional : ¬ (scientificLayout.positionalFrom ≤ s.exponent ∧
      s.exponent < scientificLayout.positionalBelow) := by
    simp only [scientificLayout]
    omega
  rw [Scientific.text, Scientific.unsignedText, if_neg (by simp [scientificLayout]),
    if_neg hPositional]
  cases s.negative <;> cases s.fraction <;> simp [signText, scientificLayout]

def Numeral.text (n : Numeral) (layout : Layout) : String :=
  match n with
  | .notANumber => "NaN"
  | .infinite negative => signText negative ++ layout.infinity
  | .finite form => form.text layout

/-- The scientific form of all digits without the point. No digits count as zero. -/
def Scientific.ofDigits (negative : Bool) (digits : List Char) (exponent : Int) : Scientific :=
  match digits with
  | [] => .zero negative
  | lead :: fraction => ⟨negative, lead, fraction, exponent⟩

def splitSign : List Char → Bool × List Char
  | '-' :: digits => (true, digits)
  | '+' :: digits => (false, digits)
  | digits => (false, digits)

/-- The integer of at most 32 bits that digits after an optional sign denote. -/
def int32? (text : List Char) : Option Int :=
  let (negative, digits) := splitSign text
  let magnitude : Int := Nat.ofDigitChars 10 digits 0
  let n := if negative then -magnitude else magnitude
  if digits ≠ [] ∧ digits.all Char.isDigit ∧ Int32.minValue.toInt ≤ n ∧
      n ≤ Int32.maxValue.toInt then
    some n
  else none

/-- The numeral of a scientific text without its sign. There is none if what follows the mark is not
an integer; without a mark it is infinite or not a number. -/
def Numeral.ofUnsigned? (negative : Bool) (text : List Char) : Option Numeral :=
  match Text.splitFirst 'e' text with
  | none => some (if text = "inf".toList then .infinite negative else .notANumber)
  | some (mantissa, exponent) =>
    (int32? exponent).map fun exponent =>
      .finite (.ofDigits negative (mantissa.filter (· != '.')) exponent)

def Numeral.ofText? (text : String) : Option Numeral :=
  match text.toList with
  | '-' :: unsigned => ofUnsigned? true unsigned
  | unsigned => ofUnsigned? false unsigned

theorem Numeral.ofText?_eq {text : String} {negative : Bool} {lead : Char} {rest : List Char}
    (hText : text.toList = (if negative then ['-'] else []) ++ lead :: rest) (hLead : lead ≠ '-') :
    ofText? text = ofUnsigned? negative (lead :: rest) := by
  rw [ofText?, hText]
  cases negative with
  | true => rfl
  | false =>
    rw [if_neg Bool.false_ne_true, List.nil_append]
    split
    · rename_i hMinus
      exact absurd (List.cons.inj hMinus).1 hLead
    · rfl

def templateNumber (scientific : String) : String :=
  match Numeral.ofText? scientific with
  | some numeral => numeral.text templateLayout
  | none => scientific

end KotlinBackend.Decimal
