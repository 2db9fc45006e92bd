import KotlinBackend.Decimal.Scientific

/-!
# JSON values

Objects keep their members in the order in which they stand. Numbers keep the difference between
an integer and a real number, because integer positions accept integers only. Text that follows the
grammar can still denote no data; such a value has a place of its own, since it does no harm where
nobody asks for it.
-/

namespace KotlinBackend

/-- A number of a document. A real number is `± coefficient * 10 ^ exponent`, so that a negative
zero is kept. -/
inductive Json.Number where
  | integer (n : Int)
  | real (negative : Bool) (c : Decimal.Coefficient)
  deriving DecidableEq, Repr

/-- Why text that follows the grammar denotes no data: a number beyond the range of the doubles, a
string with half of a surrogate pair in it, or brackets nested too deeply. -/
inductive Json.Defect where
  | numberOutOfRange
  | loneSurrogate
  | tooDeep
  deriving DecidableEq, Repr, Inhabited

def Json.Defect.message : Json.Defect → String
  | numberOutOfRange => "number out of range"
  | loneSurrogate => "lone leading surrogate in hex escape"
  | tooDeep => "recursion limit exceeded"

inductive Json where
  | null
  | bool (b : Bool)
  | number (n : Json.Number)
  | string (s : String)
  | array (items : List Json)
  | object (members : List (String × Json))
  | unreadable (defect : Json.Defect)
  deriving Repr, Inhabited

namespace Json

def Number.toFloat : Number → Float
  | .integer n => Float.ofInt n
  | .real negative c =>
    let x := Float.ofScientific c.coefficient (c.exponent < 0) c.exponent.natAbs
    if negative then -x else x

/-- The nearest single-precision number. A real number is rounded to a double on the way. -/
def Number.toFloat32 : Number → Float32
  | .integer n => Float32.ofInt n
  | n => n.toFloat.toFloat32

/-- A decimal as a number of a document; there is none beyond the range of the doubles. Magnitudes
far below the least double are zero. -/
def Number.ofDecimal? (negative : Bool) (c : Decimal.Coefficient) : Option Number :=
  let lead := c.exponent + Decimal.digitCount c.coefficient
  if c.coefficient = 0 ∨ lead < -400 then some (.real negative ⟨0, 0⟩)
  else if 400 < lead then none
  else
    let n := Number.real negative c
    if n.toFloat.isInf then none else some n

/-- Integers outside the signed and unsigned 64-bit range are kept as real numbers only, and so is a
zero with a minus sign. -/
def Number.ofInteger? (negative : Bool) (magnitude : Nat) : Option Number :=
  if negative then
    if 0 < magnitude ∧ magnitude ≤ Nat.pow 2 63 then some (.integer (-magnitude))
    else Number.ofDecimal? true ⟨magnitude, 0⟩
  else if magnitude < Nat.pow 2 64 then some (.integer magnitude)
  else Number.ofDecimal? false ⟨magnitude, 0⟩

/-- The number that a numeral denotes; a numeral that is not finite has none and is written
as `null`. -/
def ofNumeral : Decimal.Numeral → Json
  | .finite form =>
    let coefficient := form.digits.foldl (fun n d => 10 * n + (d.toNat - '0'.toNat)) 0
    .number (.real form.negative ⟨coefficient, form.exponent - form.fraction.length⟩)
  | _ => .null

def ofNat (n : Nat) : Json := .number (.integer n)

def ofInt (n : Int) : Json := .number (.integer n)

def ofOption (encode : α → Json) : Option α → Json
  | none => .null
  | some a => encode a

def ofList (encode : α → Json) (items : List α) : Json := .array (items.map encode)

def ofStrings (items : List String) : Json := .array (items.map .string)

/-- A variant with data: an object with the variant's name as its only member. -/
def variant (name : String) (payload : Json) : Json := .object [(name, payload)]

mutual

def depth : Json → Nat
  | .array items => depthOfItems items + 1
  | .object members => depthOfMembers members + 1
  | _ => 0

def depthOfItems : List Json → Nat
  | [] => 0
  | item :: items => max item.depth (depthOfItems items)

def depthOfMembers : List (String × Json) → Nat
  | [] => 0
  | (_, value) :: members => max value.depth (depthOfMembers members)

end

mutual

def defect? : Json → Option Defect
  | .array items => defectOfItems? items
  | .object members => defectOfMembers? members
  | .unreadable defect => some defect
  | _ => none

def defectOfItems? : List Json → Option Defect
  | [] => none
  | item :: items => item.defect? <|> defectOfItems? items

def defectOfMembers? : List (String × Json) → Option Defect
  | [] => none
  | (_, value) :: members => value.defect? <|> defectOfMembers? members

end

end Json

end KotlinBackend
