import KotlinBackend.Text.Split
import KotlinBackend.Toml.Basic

/-!
# Numbers and points in time

The values that are written without quotes or brackets. Digits can be grouped by underscores between
them.
-/

namespace KotlinBackend.Toml

/-- The digits of a numeral without the underscores between them. -/
def digitRun (isDigit : Char → Bool) : List Char → Option (List Char)
  | [] => none
  | [c] => if isDigit c then some [c] else none
  | c :: '_' :: rest => if isDigit c then (digitRun isDigit rest).map (c :: ·) else none
  | c :: rest => if isDigit c then (digitRun isDigit rest).map (c :: ·) else none

def valueOf (base : Nat) (digits : List Char) : Nat :=
  digits.foldl (fun n c => base * n + (Json.hexValue? c).getD 0) 0

def isDigitIn (base : Nat) (c : Char) : Bool :=
  match Json.hexValue? c with
  | some n => n < base
  | none => false

/-- The digits of a decimal numeral, which has no leading zeros. -/
def wholeDigits (text : List Char) : Option (List Char) :=
  match digitRun Char.isDigit text with
  | some ('0' :: _ :: _) => none
  | digits => digits

def splitSign : List Char → Bool × List Char
  | '+' :: rest => (false, rest)
  | '-' :: rest => (true, rest)
  | text => (false, text)

def integer? (text : List Char) : Option Int := do
  let n : Int ← match text with
    | '0' :: 'x' :: rest => (digitRun (isDigitIn 16) rest).map (Int.ofNat ∘ valueOf 16)
    | '0' :: 'o' :: rest => (digitRun (isDigitIn 8) rest).map (Int.ofNat ∘ valueOf 8)
    | '0' :: 'b' :: rest => (digitRun (isDigitIn 2) rest).map (Int.ofNat ∘ valueOf 2)
    | _ =>
      let (negative, rest) := splitSign text
      (wholeDigits rest).map fun digits =>
        if negative then -(valueOf 10 digits : Int) else valueOf 10 digits
  let limit : Int := Nat.pow 2 63
  if -limit ≤ n ∧ n < limit then some n else none

/-- An exponent after its mark; leading zeros are allowed. -/
def exponent? (text : List Char) : Option Int :=
  let (negative, rest) := splitSign text
  (digitRun Char.isDigit rest).map fun digits =>
    if negative then -(valueOf 10 digits : Int) else valueOf 10 digits

/-- The digits before and after the point of a number, which need not have one. -/
def mantissa? (text : List Char) : Option (List Char × List Char) :=
  match Text.splitFirst '.' text with
  | some (whole, fraction) => do
    let whole ← wholeDigits whole
    let fraction ← digitRun Char.isDigit fraction
    return (whole, fraction)
  | none => (wholeDigits text).map (·, [])

def magnitude? (text : List Char) : Option Decimal.Coefficient := do
  let isMark (c : Char) : Bool := c == 'e' || c == 'E'
  let (whole, fraction) ← mantissa? (text.takeWhile (!isMark ·))
  let exponent ← match text.dropWhile (!isMark ·) with
    | [] => if fraction.isEmpty then none else some 0
    | _ :: rest => exponent? rest
  return ⟨valueOf 10 (whole ++ fraction), exponent - fraction.length⟩

/-- Whether a text is a number with a fraction or an exponent, or a special value. Such a number
may be too small for a double but not too large. -/
def isDecimal (text : List Char) : Bool :=
  let (negative, rest) := splitSign text
  if rest = ['i', 'n', 'f'] ∨ rest = ['n', 'a', 'n'] then true
  else match magnitude? rest with
    | some c => negative || (Json.Number.ofDecimal? false c).isSome
    | none => false

def field? (width : Nat) (text : List Char) : Option Nat :=
  if text.length = width ∧ text.all Char.isDigit then some (valueOf 10 text) else none

def isLeapYear (year : Nat) : Bool := year % 4 == 0 && (year % 100 != 0 || year % 400 == 0)

def daysIn (year month : Nat) : Nat :=
  if month = 2 then (if isLeapYear year then 29 else 28)
  else if month = 4 ∨ month = 6 ∨ month = 9 ∨ month = 11 then 30
  else 31

def isDate (text : List Char) : Bool :=
  match Text.splitOn '-' text with
  | [y, m, d] =>
    match field? 4 y, field? 2 m, field? 2 d with
    | some year, some month, some day =>
      1 ≤ month && month ≤ 12 && 1 ≤ day && day ≤ daysIn year month
    | _, _, _ => false
  | _ => false

def isClock (hours minutes : List Char) : Bool :=
  match field? 2 hours, field? 2 minutes with
  | some h, some m => h ≤ 23 && m ≤ 59
  | _, _ => false

/-- A time of day with seconds and perhaps a fraction of them. -/
def isTime (text : List Char) : Bool :=
  match Text.splitOn ':' text with
  | [hours, minutes, rest] =>
    let (seconds, fraction) := match Text.splitFirst '.' rest with
      | some (seconds, fraction) => (seconds, some fraction)
      | none => (rest, none)
    let isFraction := match fraction with
      | some digits => !digits.isEmpty && digits.all Char.isDigit
      | none => true
    match field? 2 seconds with
    | some s => isClock hours minutes && s ≤ 60 && isFraction
    | none => false
  | _ => false

/-- A time of day with perhaps a distance to universal time. -/
def isZonedTime (text : List Char) : Bool :=
  let time := text.takeWhile fun c => c.isDigit || c == ':' || c == '.'
  let zone := text.drop time.length
  isTime time &&
    match zone with
    | [] | ['Z'] | ['z'] => true
    | '+' :: rest | '-' :: rest =>
      match Text.splitOn ':' rest with
      | [hours, minutes] => isClock hours minutes
      | _ => false
    | _ => false

def isMoment (text : List Char) : Bool :=
  isDate text || isTime text ||
    (isDate (text.take 10) &&
      match text.drop 10 with
      | mark :: time => (mark == 'T' || mark == 't' || mark == ' ') && isZonedTime time
      | [] => false)

def scalar? (text : List Char) : Option Value :=
  if text = ['t', 'r', 'u', 'e'] then some (.truth true)
  else if text = ['f', 'a', 'l', 's', 'e'] then some (.truth false)
  else match integer? text with
    | some n => some (.integer n)
    | none =>
      if isDecimal text then some (.decimal (String.ofList text))
      else if isMoment text then some (.moment (String.ofList text))
      else none

def isScalarChar (c : Char) : Bool :=
  c.isAlphanum || c == '_' || c == '+' || c == '-' || c == '.' || c == ':'

/-- A scalar. A date and a time may be divided by a space. -/
def readScalar : Reader Value := fun text =>
  let word := text.takeWhile isScalarChar
  let rest := text.dropWhile isScalarChar
  let (word, rest) := match rest with
    | ' ' :: next =>
      if isDate word && (next.head?.map Char.isDigit).getD false then
        (word ++ ' ' :: next.takeWhile isScalarChar, next.dropWhile isScalarChar)
      else (word, rest)
    | _ => (word, rest)
  match scalar? word with
  | some value => .ok (value, rest)
  | none => .error (.unknownScalar (String.ofList word))

end KotlinBackend.Toml
