import KotlinBackend.Decimal.Binary

/-!
# The fewest digits that read back

Every floating point number stands for an interval of reals that round to it. Among the decimals in
that interval the shortest ones are taken, and of those the nearest to the number; of two equally
near ones the larger. For each number of digits only the two neighbours of the number on the grid
of decimals with that many digits have to be tried.
-/

namespace KotlinBackend.Decimal

/-- The reals that round to a number: numerators over a common denominator. The ends belong to the
interval when `closed` is set. -/
structure Interval where
  lower : Nat
  value : Nat
  upper : Nat
  denominator : Nat
  closed : Bool

/-- The interval of `significand * 2 ^ exponent`. Below a power of two the neighbouring number is
only half as far away, except at the least exponent. -/
def Interval.ofBinary (w : Width) (significand : Nat) (exponent : Int) : Interval :=
  let narrow := significand = Nat.pow 2 w.fraction ∧ exponent ≠ w.leastExponent
  let factor := Nat.pow 2 (exponent - 2).toNat
  { lower := (4 * significand - if narrow then 1 else 2) * factor
    value := 4 * significand * factor
    upper := (4 * significand + 2) * factor
    denominator := Nat.pow 2 (2 - exponent).toNat
    closed := significand % 2 = 0 }

def digitCount (n : Nat) : Nat := (Nat.toDigits 10 n).length

def leadExponent (numerator denominator : Nat) : Int :=
  let guess : Int := (digitCount numerator : Int) - digitCount denominator
  if denominator * Nat.pow 10 guess.toNat ≤ numerator * Nat.pow 10 (-guess).toNat then guess
  else guess - 1

structure Coefficient where
  coefficient : Nat
  exponent : Int
  deriving DecidableEq, Repr

/-- The decimal on the grid of multiples of `10 ^ exponent` that lies in the interval, the nearest
to the value if both neighbours do. -/
def Interval.onGrid? (i : Interval) (exponent : Int) : Option Coefficient :=
  let unit := i.denominator * Nat.pow 10 exponent.toNat
  let scale := Nat.pow 10 (-exponent).toNat
  let value := i.value * scale
  let below := value / unit
  let above := below + 1
  let reachesDown := i.lower * scale < below * unit ∨ (i.closed ∧ i.lower * scale = below * unit)
  let reachesUp := above * unit < i.upper * scale ∨ (i.closed ∧ above * unit = i.upper * scale)
  if reachesDown then
    if reachesUp ∧ above * unit - value ≤ value - below * unit then some ⟨above, exponent⟩
    else some ⟨below, exponent⟩
  else if reachesUp then some ⟨above, exponent⟩
  else none

def Interval.search (i : Interval) (exponent : Int) : Nat → Coefficient
  | 0 =>
    let unit := i.denominator * Nat.pow 10 exponent.toNat
    ⟨i.value * Nat.pow 10 (-exponent).toNat / unit, exponent⟩
  | digits + 1 =>
    match i.onGrid? exponent with
    | some hit => hit
    | none => i.search (exponent - 1) digits

def Coefficient.strip (c : Coefficient) : Nat → Coefficient
  | 0 => c
  | zeros + 1 =>
    if c.coefficient % 10 = 0 then
      Coefficient.strip ⟨c.coefficient / 10, c.exponent + 1⟩ zeros
    else c

/-- The shortest decimal for a positive finite number. Seventeen digits always suffice. -/
def shortest (w : Width) (significand : Nat) (exponent : Int) : Coefficient :=
  let interval := Interval.ofBinary w significand exponent
  let start := leadExponent interval.value interval.denominator
  (interval.search start 18).strip 18

end KotlinBackend.Decimal
