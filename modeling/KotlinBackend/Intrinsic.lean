import KotlinBackend.Program.Revision

/-!
# Intrinsics

Some members of built-in classes are provided by static functions of the platform. A call of such a
member becomes a call of its function with the receiver as the first argument, if every operand is
given and fits its parameter; otherwise the call stays as it is.
-/

namespace KotlinBackend

/-- The package of the classes that the compiler itself relies on. -/
def internalPackage : String := "sharpen.internal"

def intrinsicsClass : ClassId := .inPackage internalPackage "Intrinsics"

/-- A function of the platform; its first parameter takes the receiver. -/
structure Intrinsic where
  name : String
  parameters : List SourceType

def Intrinsic.callee (i : Intrinsic) : CallableId := intrinsicsClass.member i.name

def intrinsics : List (CallableId × Intrinsic) :=
  [(WellKnown.uint.member "compareTo", ⟨"UIntCompare", [.uint, .uint]⟩),
    (WellKnown.uint.member "div", ⟨"UIntDivide", [.uint, .uint]⟩),
    (WellKnown.uint.member "rem", ⟨"UIntRemainder", [.uint, .uint]⟩),
    (WellKnown.uint.member "toString", ⟨"UIntToString", [.uint]⟩),
    (WellKnown.uint.member "toInt", ⟨"UIntToInt", [.uint]⟩),
    (WellKnown.ulong.member "compareTo", ⟨"ULongCompare", [.ulong, .ulong]⟩),
    (WellKnown.ulong.member "div", ⟨"ULongDivide", [.ulong, .ulong]⟩),
    (WellKnown.ulong.member "rem", ⟨"ULongRemainder", [.ulong, .ulong]⟩),
    (WellKnown.ulong.member "toString", ⟨"ULongToString", [.ulong]⟩),
    (WellKnown.ulong.member "toLong", ⟨"ULongToLong", [.ulong]⟩),
    (WellKnown.int.member "toUInt", ⟨"IntToUInt", [.int]⟩),
    (WellKnown.long.member "toULong", ⟨"LongToULong", [.long]⟩)]

def intrinsicFor? (callee : CallableId) : Option Intrinsic := intrinsics.lookup callee

/-- Whether a value of one type may stand where another is wanted: the class is the same and a value
that may be null does not go where null may not. -/
def SourceType.isCoercible (given wanted : SourceType) : Bool :=
  (given.isNothing && !given.isNullable) ||
    (given.class?.isSome && given.class? == wanted.class? &&
      (!given.isNullable || wanted.isNullable))

/-- The operands, if all of them are given and fit the parameters one by one. -/
def fittingOperands? : (operands : List (Option Expression)) → (parameters : List SourceType) →
    Option (List Expression)
  | [], [] => some []
  | some operand :: operands, parameter :: parameters =>
    if operand.type.isCoercible parameter then
      (fittingOperands? operands parameters).map (operand :: ·)
    else none
  | _, _ => none

def Call.withIntrinsic? (c : Call) (i : Intrinsic) : Option Call :=
  if c.extensionReceiver.isSome ∨ c.typeArguments ≠ [] then none
  else (fittingOperands? c.operands i.parameters).map fun arguments =>
    { callee := i.callee
      dispatchReceiver := none
      extensionReceiver := none
      arguments := arguments.map some
      typeArguments := []
      type := c.type }

def intrinsicStep : Expression → Option Expression
  | .call c => do
    let i ← intrinsicFor? c.callee
    .call <$> c.withIntrinsic? i
  | _ => none

/-- Lets the calls of a file use intrinsics, from the inside out. -/
def SourceFile.useIntrinsics (f : SourceFile) : Tally SourceFile := f.revise intrinsicStep

end KotlinBackend
