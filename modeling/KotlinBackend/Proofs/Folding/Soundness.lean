import KotlinBackend.Proofs.Folding.Meaning

/-!
# Folding keeps the value of an expression

Where the members of the built-in classes have a meaning, it is the constant that folding computes,
and where they have none, nothing is folded. Evaluation therefore does not see whether an expression
was folded, whatever its leaves stand for.
-/

namespace KotlinBackend

namespace Numeric

def quantity : Numeric → Quantity
  | int n => .integer .word n.toInt
  | long n => .integer .long n.toInt
  | double x => .real x

theorem quantity_ofConstant? (c : Constant) :
    Quantity.ofConstant? c = (Numeric.ofConstant? c).map quantity := by
  cases c with
  | byte n => simp [Quantity.ofConstant?, ofConstant?, quantity, Int8.toInt_toInt32]
  | short n => simp [Quantity.ofConstant?, ofConstant?, quantity, Int16.toInt_toInt32]
  | null | boolean | char | int | long | float | double | uint | ulong | string => rfl

/-- A comparison of integers is the sign of their difference. -/
theorem orderConstant_eq (a b : Int) :
    orderConstant (a < b) (a = b) = .int (Int32.ofInt (a - b).sign) := by
  rcases Int.lt_trichotomy a b with h | h | h
  · have hSign : (a - b).sign = -1 := Int.sign_eq_neg_one_of_neg (by omega)
    simp [orderConstant, h, hSign]
  · simp [orderConstant, h]
  · have hSign : (a - b).sign = 1 := Int.sign_eq_one_of_pos (by omega)
    have hLess : ¬ a < b := by omega
    have hEqual : a ≠ b := by omega
    simp [orderConstant, hLess, hEqual, hSign]

theorem wrap_word_tdiv (a b : Int32) :
    IntegerWidth.word.wrap (a.toInt.tdiv b.toInt) = .int (a / b) := by
  rw [IntegerWidth.wrap, Constant.int.injEq, ← Int32.toInt_inj, Int32.toInt_ofInt, Int32.toInt_div]

theorem wrap_long_tdiv (a b : Int64) :
    IntegerWidth.long.wrap (a.toInt.tdiv b.toInt) = .long (a / b) := by
  rw [IntegerWidth.wrap, Constant.long.injEq, ← Int64.toInt_inj, Int64.toInt_ofInt, Int64.toInt_div]

theorem binaryInt?_eq (name : String) (a b : Int32) :
    binaryInt? name a b = (Quantity.integerOperator name .word a.toInt b.toInt).constant? := by
  have hZero : b.toInt = 0 ↔ b = 0 := by rw [← Int32.toInt_zero, Int32.toInt_inj]
  unfold binaryInt? Quantity.integerOperator
  split
  · simp [Meaning.constant?, IntegerWidth.wrap]
  · simp [Meaning.constant?, IntegerWidth.wrap]
  · simp [Meaning.constant?, IntegerWidth.wrap]
  · by_cases h : b = 0 <;> simp [Meaning.constant?, hZero, h, wrap_word_tdiv]
  · by_cases h : b = 0 <;> simp [Meaning.constant?, hZero, h, IntegerWidth.wrap, ← Int32.toInt_mod]
  · simp only [Meaning.constant?, Int32.lt_iff_toInt_lt, ← Int32.toInt_inj, orderConstant_eq]
  · simp [Meaning.constant?, Int32.toInt_inj]
  · simp [Meaning.constant?]

theorem binaryLong?_eq (name : String) (a b : Int64) :
    binaryLong? name a b = (Quantity.integerOperator name .long a.toInt b.toInt).constant? := by
  have hZero : b.toInt = 0 ↔ b = 0 := by rw [← Int64.toInt_zero, Int64.toInt_inj]
  unfold binaryLong? Quantity.integerOperator
  split
  · simp [Meaning.constant?, IntegerWidth.wrap]
  · simp [Meaning.constant?, IntegerWidth.wrap]
  · simp [Meaning.constant?, IntegerWidth.wrap]
  · by_cases h : b = 0 <;> simp [Meaning.constant?, hZero, h, wrap_long_tdiv]
  · by_cases h : b = 0 <;> simp [Meaning.constant?, hZero, h, IntegerWidth.wrap, ← Int64.toInt_mod]
  · simp only [Meaning.constant?, Int64.lt_iff_toInt_lt, ← Int64.toInt_inj, orderConstant_eq]
  · simp [Meaning.constant?, Int64.toInt_inj]
  · simp [Meaning.constant?]

theorem binaryDouble?_eq (name : String) (a b : Float) :
    binaryDouble? name a b = (Quantity.realOperator name a b).constant? := by
  unfold binaryDouble? Quantity.realOperator
  split
  · rfl
  · rfl
  · rfl
  · by_cases h : b == 0 <;> simp [Meaning.constant?, h]
  · by_cases h : b == 0 <;> simp [Meaning.constant?, h]
  · by_cases hLess : a < b <;> by_cases hEqual : a == b <;> by_cases hGreater : b < a <;>
      simp [Meaning.constant?, orderConstant, hLess, hEqual, hGreater]
  · rfl
  · simp [Meaning.constant?]

theorem unary?_eq (name : String) (a : Numeric) :
    a.unary? name = (a.quantity.member name).constant? := by
  cases a with
  | int n =>
    simp only [quantity, Quantity.member, unary?, Quantity.integerMember]
    split <;>
      simp [Meaning.constant?, toConstant, negate, IntegerWidth.wrap, toInt32, toInt64, toFloat]
  | long n =>
    simp only [quantity, Quantity.member, unary?, Quantity.integerMember]
    split <;>
      simp [Meaning.constant?, toConstant, negate, IntegerWidth.wrap, toInt32, toInt64, toFloat]
  | double x =>
    simp only [quantity, Quantity.member, unary?, Quantity.realMember]
    split <;> simp [Meaning.constant?, toConstant, negate, toInt32, toInt64, toFloat]

theorem binary?_eq (name : String) (a b : Numeric) :
    binary? name a b = (a.quantity.operator name b.quantity).constant? := by
  cases a with
  | int m =>
    cases b with
    | int n => exact binaryInt?_eq name m n
    | long n =>
      have hLong := binaryLong?_eq name m.toInt64 n
      rw [Int32.toInt_toInt64] at hLong
      exact hLong
    | double x => exact binaryDouble?_eq name _ _
  | long m =>
    cases b with
    | int n =>
      have hLong := binaryLong?_eq name m n.toInt64
      rw [Int32.toInt_toInt64] at hLong
      exact hLong
    | long n => exact binaryLong?_eq name m n
    | double x => exact binaryDouble?_eq name _ _
  | double x => cases b <;> exact binaryDouble?_eq name _ _

end Numeric

section Members

variable {α : Type} (M : Interpretation α)

theorem booleanMember?_eq (name : String) (a b : Bool) :
    booleanMember? name a b = (truthOperator name a b).constant? := by
  unfold booleanMember? truthOperator
  split <;> simp [Meaning.constant?, Bool.beq_eq_decide_eq]

theorem stringMember?_eq (name s : String) (c : Constant) :
    stringMember? name s c = (M.textOperator name s (.known c)).constant? := by
  unfold stringMember? Interpretation.textOperator
  split
  · simp [Meaning.constant?, Bool.beq_eq_decide_eq]
  · simp [Meaning.constant?, Interpretation.text]
  · split
    · simp_all
    · simp_all
    · rfl

theorem numberMember?_eq (name : String) (c : Constant) :
    (Numeric.ofConstant? c).bind (Numeric.unary? name) =
      (match Quantity.ofConstant? c with
        | some a => a.member name
        | none => .unspecified).constant? := by
  rw [Numeric.quantity_ofConstant?]
  cases Numeric.ofConstant? c with
  | none => rfl
  | some a => exact Numeric.unary?_eq name a

theorem numberOperator?_eq (name : String) (c d : Constant) :
    ((Numeric.ofConstant? c).bind fun a =>
      (Numeric.ofConstant? d).bind fun b => Numeric.binary? name a b) =
      (match Quantity.ofConstant? c, Quantity.ofConstant? d with
        | some a, some b => a.operator name b
        | _, _ => .unspecified).constant? := by
  rw [Numeric.quantity_ofConstant?, Numeric.quantity_ofConstant?]
  cases Numeric.ofConstant? c with
  | none => rfl
  | some a =>
    cases Numeric.ofConstant? d with
    | none => rfl
    | some b => exact Numeric.binary?_eq name a b

/-- Folding computes the constant that a member means, and nothing where it means none. -/
theorem applyMember?_eq (name : String) (receiver : Constant) (arguments : List Constant) :
    applyMember? name receiver arguments =
      (M.member name (.known receiver) (arguments.map .known)).constant? := by
  match arguments with
  | [] =>
    have hNumber := numberMember?_eq name receiver
    cases receiver with
    | boolean b =>
      by_cases h : name = "not" <;> simp [applyMember?, Interpretation.member, Meaning.constant?, h]
    | null | char | byte | short | int | long | float | double | uint | ulong | string =>
      exact hNumber
  | [argument] =>
    have hNumbers := numberOperator?_eq name receiver argument
    cases receiver with
    | boolean a =>
      cases argument with
      | boolean b => exact booleanMember?_eq name a b
      | null | char | byte | short | int | long | float | double | uint | ulong | string => rfl
    | string s => exact stringMember?_eq M name s argument
    | null | char | byte | short | int | long | float | double | uint | ulong =>
      exact hNumbers
  | first :: second :: rest =>
    cases receiver <;> simp [applyMember?, Interpretation.member, Meaning.constant?]

end Members

section Expressions

variable {α : Type} (M : Interpretation α)

theorem Expression.eq_constant_of_constant? {e : Expression} {value : Constant}
    (h : e.constant? = some value) : e = .constant value := by
  cases e with
  | constant c =>
    cases h
    rfl
  | readValue | self | readField | object | call | construct | concatenation | typeOperation |
    «when» | block | unsupported => cases h

theorem evaluateList_of_constants {parts : List Expression} {values : List Constant}
    (h : parts.mapM Expression.constant? = some values) :
    Expression.evaluateList M parts = some (values.map .known) := by
  induction parts generalizing values with
  | nil =>
    cases h
    rfl
  | cons part rest ih =>
    rw [List.mapM_cons] at h
    obtain ⟨value, hValue, hTail⟩ := Option.bind_eq_some_iff.mp h
    obtain ⟨values', hRest, hCons⟩ := Option.bind_eq_some_iff.mp hTail
    cases hCons
    rw [Expression.eq_constant_of_constant? hValue, Expression.evaluateList, ih hRest]
    rfl

theorem evaluateArguments_of_constants {arguments : List (Option Expression)}
    {values : List Constant} (h : constantArguments? arguments = some values) :
    Expression.evaluateArguments M arguments = some (values.map fun v => some (.known v)) := by
  unfold constantArguments? at h
  induction arguments generalizing values with
  | nil =>
    cases h
    rfl
  | cons argument rest ih =>
    rw [List.mapM_cons] at h
    obtain ⟨value, hValue, hTail⟩ := Option.bind_eq_some_iff.mp h
    obtain ⟨values', hRest, hCons⟩ := Option.bind_eq_some_iff.mp hTail
    obtain ⟨e, rfl, hConstant⟩ := Option.bind_eq_some_iff.mp hValue
    cases hCons
    rw [Expression.eq_constant_of_constant? hConstant, Expression.evaluateArguments, ih hRest]
    rfl

theorem mapM_id_known (values : List Constant) :
    (values.map fun v => some (RuntimeValue.known v : RuntimeValue α)).mapM id =
      some (values.map .known) := by
  induction values with
  | nil => rfl
  | cons v rest ih => simp [List.mapM_cons, ih]

/-- What is folded is a call of a member on constants, and its value is that of the member. -/
theorem Call.fold?_eq_some {c : Call} {value : Constant} (h : c.fold? = some value) :
    ∃ owner receiver arguments, c.callee.class? = some owner ∧
      owner.package.text = WellKnown.languagePackage ∧ c.extensionReceiver = none ∧
      c.dispatchReceiver = some (.constant receiver) ∧
      constantArguments? c.arguments = some arguments ∧
      applyMember? c.callee.name receiver arguments = some value := by
  obtain ⟨owner, hOwner, h⟩ := Option.bind_eq_some_iff.mp h
  split at h
  · cases h
  · rename_i hBuiltin
    obtain ⟨receiver, hReceiver, h⟩ := Option.bind_eq_some_iff.mp h
    obtain ⟨arguments, hArguments, h⟩ := Option.bind_eq_some_iff.mp h
    obtain ⟨value', hValue, h⟩ := Option.bind_eq_some_iff.mp h
    obtain ⟨e, hDispatch, hConstant⟩ := Option.bind_eq_some_iff.mp hReceiver
    rw [Expression.eq_constant_of_constant? hConstant] at hDispatch
    split at h
    · cases h
      simp only [ne_eq, not_or, Decidable.not_not, Bool.not_eq_true, Option.isSome_eq_false_iff,
        Option.isNone_iff_eq_none] at hBuiltin
      exact ⟨owner, receiver, arguments, hOwner, hBuiltin.1, hBuiltin.2, hDispatch, hArguments,
        hValue⟩
    · cases h

theorem Call.evaluate_of_fold? {c : Call} {value : Constant} (h : c.fold? = some value) :
    c.evaluate M = some (.known value) := by
  obtain ⟨owner, receiver, arguments, hOwner, hPackage, hExtension, hDispatch, hArguments,
    hValue⟩ := Call.fold?_eq_some h
  have hMeaning : M.member c.callee.name (.known receiver) (arguments.map .known) =
      .value value := by
    rw [applyMember?_eq M] at hValue
    cases hMember : M.member c.callee.name (.known receiver) (arguments.map .known) with
    | value constant => simpa [hMember, Meaning.constant?] using hValue
    | failure | unspecified => simp [hMember, Meaning.constant?] at hValue
  obtain ⟨callee, dispatchReceiver, extensionReceiver, args, typeArguments, type⟩ := c
  simp only at hOwner hExtension hDispatch hArguments hMeaning
  subst hExtension hDispatch
  have hCall : M.callMeaning callee (some (.known receiver)) none
      (arguments.map fun v => some (.known v)) = .value value := by
    simp only [Interpretation.callMeaning, hOwner, mapM_id_known, hPackage, if_true, hMeaning]
  simp [Call.evaluate, Expression.evaluateOption, Expression.evaluate,
    evaluateArguments_of_constants M hArguments, Interpretation.apply, hCall]

theorem Expression.evaluate_of_fold? {e : Expression} {value : Constant}
    (h : e.fold? = some value) : e.evaluate M = some (.known value) := by
  cases e with
  | call c => exact Call.evaluate_of_fold? M h
  | concatenation parts =>
    obtain ⟨values, hValues, h⟩ := Option.bind_eq_some_iff.mp h
    cases h
    simp [Expression.evaluate, evaluateList_of_constants M hValues, Interpretation.text,
      Function.comp_def]
  | constant | readValue | self | readField | object | construct | typeOperation | «when» |
    block | unsupported => cases h

/-- A step of folding does not change the value. -/
theorem Expression.evaluate_replace (e : Expression) :
    (e.replace foldStep).value.evaluate M = e.evaluate M := by
  unfold Expression.replace foldStep
  cases h : e.fold? with
  | none => rfl
  | some value => exact (Expression.evaluate_of_fold? M h).symm

mutual

theorem Expression.evaluate_revise (e : Expression) (h : e.isComposed = true) :
    (e.revise foldStep).value.evaluate M = e.evaluate M := by
  cases e with
  | constant | readValue | self | object | unsupported => exact Expression.evaluate_replace M _
  | call c =>
    simp only [Expression.revise, Tally.value_bind, Expression.evaluate_replace]
    exact Call.evaluate_revise c h
  | concatenation parts =>
    simp only [Expression.isComposed] at h
    simp only [Expression.revise, Tally.value_bind, Expression.evaluate_replace,
      Expression.evaluate, Expression.evaluateList_revise parts h]
  | readField receiver field type =>
    simp only [Expression.isComposed, Option.isNone_iff_eq_none] at h
    subst h
    exact Expression.evaluate_replace M _
  | construct | typeOperation | «when» | block => simp [Expression.isComposed] at h

theorem Call.evaluate_revise (c : Call) (h : c.isComposed = true) :
    (c.revise foldStep).value.evaluate M = c.evaluate M := by
  obtain ⟨callee, dispatchReceiver, extensionReceiver, arguments, typeArguments, type⟩ := c
  simp only [Call.isComposed, Bool.and_eq_true] at h
  obtain ⟨⟨hDispatch, hExtension⟩, hArguments⟩ := h
  simp only [Call.revise, Tally.value_bind, Tally.value_pure, Call.evaluate,
    Expression.evaluateOption_revise dispatchReceiver hDispatch,
    Expression.evaluateOption_revise extensionReceiver hExtension,
    Expression.evaluateArguments_revise arguments hArguments]

theorem Expression.evaluateOption_revise (e : Option Expression)
    (h : Expression.optionComposed e = true) :
    Expression.evaluateOption M (Expression.reviseOption foldStep e).value =
      Expression.evaluateOption M e := by
  cases e with
  | none => rfl
  | some e =>
    simp only [Expression.optionComposed] at h
    simp only [Expression.reviseOption, Tally.value_bind, Tally.value_pure,
      Expression.evaluateOption, Expression.evaluate_revise e h]

theorem Expression.evaluateList_revise (es : List Expression)
    (h : Expression.areComposed es = true) :
    Expression.evaluateList M (Expression.reviseList foldStep es).value =
      Expression.evaluateList M es := by
  cases es with
  | nil => rfl
  | cons e rest =>
    simp only [Expression.areComposed, Bool.and_eq_true] at h
    simp only [Expression.reviseList, Tally.value_bind, Tally.value_pure,
      Expression.evaluateList, Expression.evaluate_revise e h.1,
      Expression.evaluateList_revise rest h.2]

theorem Expression.evaluateArguments_revise (es : List (Option Expression))
    (h : Expression.argumentsComposed es = true) :
    Expression.evaluateArguments M (Expression.reviseArguments foldStep es).value =
      Expression.evaluateArguments M es := by
  cases es with
  | nil => rfl
  | cons e rest =>
    simp only [Expression.argumentsComposed, Bool.and_eq_true] at h
    simp only [Expression.reviseArguments, Tally.value_bind, Tally.value_pure,
      Expression.evaluateArguments, Expression.evaluateOption_revise e h.1,
      Expression.evaluateArguments_revise rest h.2]

end

end Expressions

def Constant.isZero : Constant → Bool
  | .byte n => n == 0
  | .short n => n == 0
  | .int n => n == 0
  | .long n => n == 0
  | .float x => x == 0
  | .double x => x == 0
  | .uint n => n == 0
  | .ulong n => n == 0
  | _ => false

def isDivision (name : String) : Prop := name = "div" ∨ name = "rem"

theorem Quantity.operator_zero {name : String} (hName : isDivision name) {zero : Constant}
    {b : Quantity} (hZero : zero.isZero = true) (hb : Quantity.ofConstant? zero = some b)
    (a : Quantity) : (a.operator name b).constant? = none := by
  have hReal : (Float.ofInt 0 == 0) = true := by decide
  have hInteger (width : IntegerWidth) : (a.operator name (.integer width 0)).constant? = none := by
    cases a <;> rcases hName with rfl | rfl <;>
      simp [Quantity.operator, integerOperator, realOperator, Quantity.toFloat, hReal,
        Meaning.constant?]
  cases zero with
  | byte n | short n | int n | long n =>
    cases hb
    simp only [Constant.isZero, beq_iff_eq] at hZero
    subst hZero
    exact hInteger _
  | double x =>
    cases hb
    simp only [Constant.isZero] at hZero
    cases a <;> rcases hName with rfl | rfl <;>
      simp [Quantity.operator, realOperator, Quantity.toFloat, hZero, Meaning.constant?]
  | null | boolean | char | float | uint | ulong | string => cases hb

theorem applyMember?_division_zero {name : String} (hName : isDivision name) {zero : Constant}
    (hZero : zero.isZero = true) (receiver : Constant) :
    applyMember? name receiver [zero] = none := by
  have hNumbers : ((Numeric.ofConstant? receiver).bind fun a =>
      (Numeric.ofConstant? zero).bind fun b => Numeric.binary? name a b) = none := by
    rw [numberOperator?_eq]
    cases Quantity.ofConstant? receiver with
    | none => rfl
    | some a =>
      cases hb : Quantity.ofConstant? zero with
      | none => rfl
      | some b => exact Quantity.operator_zero hName hZero hb a
  cases receiver with
  | boolean a =>
    cases zero with
    | boolean b => cases hZero
    | null | char | byte | short | int | long | float | double | uint | ulong | string => rfl
  | string s => rcases hName with rfl | rfl <;> rfl
  | null | char | byte | short | int | long | float | double | uint | ulong => exact hNumbers

theorem Expression.folded_call (c : Call) :
    (Expression.call c).folded =
      match (c.revise foldStep).value.fold? with
      | some value => .constant value
      | none => .call (c.revise foldStep).value := by
  simp only [Expression.folded, Expression.revise, Tally.value_bind, Expression.replace, foldStep,
    Expression.fold?]
  cases (c.revise foldStep).value.fold? <;> rfl

theorem Expression.reviseOption_value (e : Option Expression) :
    (Expression.reviseOption foldStep e).value = e.map Expression.folded := by
  cases e <;> rfl

theorem Expression.reviseArguments_value (es : List (Option Expression)) :
    (Expression.reviseArguments foldStep es).value = es.map (Option.map Expression.folded) := by
  induction es with
  | nil => rfl
  | cons e rest ih =>
    simp [Expression.reviseArguments, Expression.reviseOption_value, ih]

/-- The operands of a call are folded before the call. -/
theorem Call.revise_value (c : Call) :
    (c.revise foldStep).value =
      { c with
        dispatchReceiver := c.dispatchReceiver.map Expression.folded
        extensionReceiver := c.extensionReceiver.map Expression.folded
        arguments := c.arguments.map (Option.map Expression.folded) } := by
  obtain ⟨callee, dispatchReceiver, extensionReceiver, arguments, typeArguments, type⟩ := c
  simp [Call.revise, Expression.reviseOption_value, Expression.reviseArguments_value]

theorem constantArguments?_map (values : List Constant) :
    constantArguments? (values.map fun v => some (.constant v)) = some values := by
  unfold constantArguments?
  induction values with
  | nil => rfl
  | cons v rest ih => simp only [List.map_cons, List.mapM_cons, ih]; rfl

/-- A division by zero stays. -/
theorem Call.fold?_division_zero {c : Call} {zero : Constant} (hName : isDivision c.callee.name)
    (hArguments : c.arguments = [some (.constant zero)]) (hZero : zero.isZero = true) :
    c.fold? = none := by
  cases h : c.fold? with
  | none => rfl
  | some value =>
    obtain ⟨_, receiver, arguments, _, _, _, _, hConstants, hValue⟩ := Call.fold?_eq_some h
    have hZeros : constantArguments? [some (.constant zero)] = some [zero] :=
      constantArguments?_map [zero]
    rw [hArguments, hZeros] at hConstants
    cases hConstants
    rw [applyMember?_division_zero hName hZero] at hValue
    cases hValue

/-- Whatever the leaves of an expression stand for and whatever other calls do, folding does not
change its value. A division by zero is never folded, and a call of a member is folded if its
operands are and its value is of the class of the call. -/
theorem folding_preserves_values :
    (∀ (α : Type) (M : Interpretation α) (e : Expression), e.isComposed = true →
      e.folded.evaluate M = e.evaluate M) ∧
    (∀ (c : Call) (divisor : Expression) (zero : Constant), isDivision c.callee.name →
      c.arguments = [some divisor] → divisor.folded = .constant zero → zero.isZero = true →
      (Expression.call c).folded.constant? = none) ∧
    (∀ (α : Type) (M : Interpretation α) (c : Call) (owner : ClassId) (receiver value : Constant)
      (arguments : List Constant), c.callee.class? = some owner →
      owner.package.text = WellKnown.languagePackage → c.extensionReceiver = none →
      c.dispatchReceiver.map Expression.folded = some (.constant receiver) →
      c.arguments.map (Option.map Expression.folded) = arguments.map (fun a => some (.constant a)) →
      M.member c.callee.name (.known receiver) (arguments.map .known) = .value value →
      value.type.class? = c.type.class? → (Expression.call c).folded = .constant value) := by
  refine ⟨fun α M e h => Expression.evaluate_revise M e h, ?_, ?_⟩
  · intro c divisor zero hName hArguments hDivisor hZero
    have hFold : (c.revise foldStep).value.fold? = none := by
      rw [Call.revise_value]
      exact Call.fold?_division_zero hName (by simp [hArguments, hDivisor]) hZero
    rw [Expression.folded_call, hFold]
    rfl
  · intro α M c owner receiver value arguments hOwner hPackage hExtension hDispatch hArguments
      hMember hType
    have hValue : applyMember? c.callee.name receiver arguments = some value := by
      rw [applyMember?_eq M, hMember]
      rfl
    have hFold : (c.revise foldStep).value.fold? = some value := by
      rw [Call.revise_value]
      simp [Call.fold?, hOwner, hPackage, hExtension, hDispatch, hArguments,
        constantArguments?_map, hValue, hType, Expression.constant?]
    rw [Expression.folded_call, hFold]

/-- A call of a member of `Int`. -/
def intCall (name : String) (receiver argument : Expression) : Call :=
  { callee := WellKnown.int.member name, dispatchReceiver := some receiver
    extensionReceiver := none, arguments := [some argument], typeArguments := [], type := .int }

/-- Every leaf is six, and calls without a meaning fail. -/
def sixes : Interpretation Unit :=
  { leaf := fun _ => some (.known (.int 6))
    call := fun _ _ _ _ _ _ => none
    display := fun _ => "" }

/-- The sum overflows, and the quotient has a divisor that folds to zero. -/
theorem folding_preserves_values_sum :
    let sum := intCall "plus" (.int 2147483647) (.int 1)
    let quotient := intCall "div" (.readValue "x" .int) (.call (intCall "minus" (.int 2) (.int 2)))
    let shown := Expression.concatenation [.call sum, .string " ", .call quotient]
    shown.isComposed = true ∧ shown.folded.evaluate sixes = shown.evaluate sixes ∧
      (Expression.call quotient).folded.constant? = none ∧
      (Expression.call sum).folded = .int (-2147483648) := by
  intro sum quotient shown
  have hDifference : (Expression.call (intCall "minus" (.int 2) (.int 2))).folded =
      .constant (.int 0) := by rfl
  have hComposed : shown.isComposed = true := by decide
  exact ⟨hComposed, folding_preserves_values.1 Unit sixes shown hComposed,
    folding_preserves_values.2.1 quotient _ (.int 0) (.inl rfl) rfl hDifference rfl,
    folding_preserves_values.2.2 Unit sixes sum WellKnown.int (.int 2147483647)
      (.int (-2147483648)) [.int 1] rfl rfl rfl rfl rfl rfl rfl⟩

end KotlinBackend
