/-!
# Binary floating point numbers as exact values

A finite floating point number is a signed integer times a power of two. `Reading.ofBits` takes the
encoded bits apart; the two widths in use are 64 and 32 bits.
-/

namespace KotlinBackend.Decimal

/-- The sizes of the fraction field and of the exponent field of an encoded number. -/
structure Width where
  fraction : Nat
  exponent : Nat

def double : Width := ⟨52, 11⟩

def single : Width := ⟨23, 8⟩

/-- The exponent field of zero and of the subnormal numbers stands for this power of two. -/
def Width.leastExponent (w : Width) : Int :=
  2 - Nat.pow 2 (w.exponent - 1) - w.fraction

/-- What an encoded number denotes: a finite one is `± significand * 2 ^ exponent`. -/
inductive Reading where
  | notANumber
  | infinite (negative : Bool)
  | finite (negative : Bool) (significand : Nat) (exponent : Int)
  deriving DecidableEq, Repr

def Reading.ofBits (w : Width) (bits : Nat) : Reading :=
  let negative := bits.testBit (w.fraction + w.exponent)
  let fraction := bits % Nat.pow 2 w.fraction
  let field := bits / Nat.pow 2 w.fraction % Nat.pow 2 w.exponent
  if field = Nat.pow 2 w.exponent - 1 then
    if fraction = 0 then .infinite negative else .notANumber
  else if field = 0 then .finite negative fraction w.leastExponent
  else .finite negative (Nat.pow 2 w.fraction + fraction) (w.leastExponent + (field - 1 : Nat))

def Reading.ofFloat (x : Float) : Reading := .ofBits double x.toBits.toNat

def Reading.ofFloat32 (x : Float32) : Reading := .ofBits single x.toBits.toNat

/-- The remainder of a division that truncates towards zero; it has the sign of the dividend and is
exact. There is none for an infinite dividend or a zero divisor. -/
def remainder (x y : Float) : Float :=
  match Reading.ofFloat x, Reading.ofFloat y with
  | .finite negative m p, .finite _ n q =>
    if n = 0 then 0.0 / 0.0
    else
      let least := min p q
      let rest := (m * Nat.pow 2 (p - least).toNat) % (n * Nat.pow 2 (q - least).toNat)
      let magnitude := Float.scaleB (Float.ofNat rest) least
      if negative then -magnitude else magnitude
  | .finite .., .infinite _ => x
  | _, _ => 0.0 / 0.0

end KotlinBackend.Decimal
