import KotlinBackend.Proofs.Folding.Conversion
import KotlinBackend.Proofs.Folding.Soundness
import KotlinBackend.Proofs.Symbol.Contribution

/-!
# Folding and the signatures of the built-in operators

The type of an arithmetic operator is decided twice: when the operator is declared, by the ranks of
the two operand types, and when a call of it is folded, by the operands themselves. Both agree, so
that a call on constants that has its declared type is always folded. The negation of a byte and of
a short integer is the exception: it is declared to keep the type but calculated in 32 bits, and is
therefore never folded.
-/

namespace KotlinBackend

namespace SymbolGraph

variable {g : SymbolGraph} {is : List Insertion} {f : FunctionSymbol}

theorem mem_admitted_of_take {n : Nat} {i : Insertion} (hi : i ∈ is.take n)
    (hAdded : (g.insertAll (is.take n)).2 = none) : i ∈ g.admitted is := by
  induction is generalizing g n with
  | nil => exact absurd hi (by simp)
  | cons first rest ih =>
    cases n with
    | zero => exact absurd hi (by simp)
    | succ n =>
      rw [List.take_succ_cons, insertAll] at hAdded
      rw [admitted]
      cases hInsert : g.insert first with
      | error e g' =>
        rw [hInsert] at hAdded
        cases hAdded
      | ok position g' =>
        rw [hInsert] at hAdded
        rcases List.mem_cons.mp hi with rfl | hRest
        · exact List.mem_cons_self
        · exact List.mem_cons_of_mem _ (ih hRest hAdded)

theorem functionsOf_ofInsertions (hNew : ∀ i ∈ is, i.IsNew) (id : CallableId) :
    (ofInsertions is).functionsOf id = SymbolLog.functionsOf (empty.admitted is) id := by
  refine ((follows_empty.insertAll is).answers.functionsOf id).trans ?_
  rw [List.nil_append,
    SymbolLog.broughtFunctions_of_isNew fun i hi => hNew i (mem_of_mem_admitted hi)]
  rfl

theorem mem_insertions_of_functionsOf (hNew : ∀ i ∈ is, i.IsNew) {id : CallableId}
    (h : f ∈ (ofInsertions is).functionsOf id) : .function f ∈ is := by
  rw [functionsOf_ofInsertions hNew] at h
  obtain ⟨hMem, _⟩ := List.mem_filter.mp h
  obtain ⟨i, hi, hFunction⟩ := List.mem_filterMap.mp hMem
  cases i with
  | function f' =>
    cases hFunction
    exact mem_of_mem_admitted hi
  | ofClass | companion | constructor | property => cases hFunction

/-- A member is found if everything up to it could be added. -/
theorem mem_functionsOf_ofInsertions (hNew : ∀ i ∈ is, i.IsNew) {owner : ClassId} (n : Nat)
    (hOwner : f.id.class? = some owner) (hTaken : .function f ∈ is.take n)
    (hAdded : (empty.insertAll (is.take n)).2 = none) :
    f ∈ (ofInsertions is).functionsOf f.id := by
  rw [functionsOf_ofInsertions hNew]
  refine List.mem_filter.mpr ⟨?_, ?_⟩
  · exact List.mem_filterMap.mpr ⟨_, mem_admitted_of_take hTaken hAdded, rfl⟩
  · simp [hOwner, CallableId.holder?]

end SymbolGraph

namespace Builtins

open WellKnown (kotlin)

/-- The operators of the number types whose calls are folded. -/
def foldedOperators : List String := arithmeticOperators ++ ["compareTo", "unaryMinus"]

/-- The operators that a number type declares. -/
inductive Declares (owner : String) (f : FunctionSymbol) : Prop
  | arithmetic (op operand : String) (hOp : op ∈ arithmeticOperators)
      (hId : f.id = (kotlin owner).member op)
      (hParameters : f.parameters.map (·.type) = [typeNamed operand])
      (hReturn : f.returnType = typeNamed (widerType owner operand))
  | comparison (operand : String) (hId : f.id = (kotlin owner).member "compareTo")
      (hParameters : f.parameters.map (·.type) = [typeNamed operand])
      (hReturn : f.returnType = .int)
  | negation (hId : f.id = (kotlin owner).member "unaryMinus")
      (hParameters : f.parameters.map (·.type) = []) (hReturn : f.returnType = typeNamed owner)

theorem Declares.class?_eq {owner : String} {f : FunctionSymbol} (h : Declares owner f) :
    f.id.class? = some (kotlin owner) := by
  cases h with
  | arithmetic _ _ _ hId | comparison _ hId | negation hId =>
    rw [hId]
    rfl

theorem declares_of_mem_mixedOperators {owner operand : String} {f : FunctionSymbol}
    (h : .function f ∈ mixedOperators owner operand) : Declares owner f := by
  rcases List.mem_append.mp h with hArithmetic | hComparison
  · obtain ⟨op, hOp, hFunction⟩ := List.mem_map.mp hArithmetic
    cases hFunction
    exact .arithmetic op operand hOp rfl rfl rfl
  · cases List.mem_singleton.mp hComparison
    exact .comparison operand rfl rfl rfl

theorem declares_of_mem_numberType {owner : String} {f : FunctionSymbol}
    (h : .function f ∈ numberType owner) (hName : f.id.name ∈ foldedOperators) :
    Declares owner f := by
  rcases List.mem_append.mp h with h | hUnary
  · rcases List.mem_append.mp h with hClass | hMixed
    · cases List.mem_singleton.mp hClass
    · obtain ⟨operand, _, hMem⟩ := List.mem_flatMap.mp hMixed
      exact declares_of_mem_mixedOperators hMem
  · obtain ⟨op, hOp, hFunction⟩ := List.mem_map.mp hUnary
    cases hFunction
    have hOperators : ∀ op ∈ ["unaryMinus", "inc", "dec"], op ∈ foldedOperators →
        op = "unaryMinus" := by decide
    cases hOperators op hOp hName
    exact .negation rfl rfl rfl

/-- Something declares an operator of a number type that is folded. -/
def declaresFolded (i : Insertion) : Bool :=
  i.function?.any fun f =>
    (numberTypes.map fun name => some (kotlin name)).contains f.id.class? &&
      foldedOperators.contains f.id.name

theorem declaresFolded_of_number {owner : String} {f : FunctionSymbol}
    (hOwner : owner ∈ numberTypes) (hClass : f.id.class? = some (kotlin owner))
    (hName : f.id.name ∈ foldedOperators) : declaresFolded (.function f) = true := by
  have hMem : f.id.class? ∈ numberTypes.map fun name => some (kotlin name) := by
    rw [hClass]
    exact List.mem_map_of_mem hOwner
  exact Bool.and_eq_true_iff.mpr ⟨List.contains_iff_mem.mpr hMem, List.contains_iff_mem.mpr hName⟩

theorem not_mem_of_any {part : List Insertion} {i : Insertion}
    (hPart : part.any declaresFolded = false) (hi : declaresFolded i = true) : i ∉ part := by
  intro hMem
  have hNot := List.any_eq_false.mp hPart i hMem
  exact hNot hi

theorem mem_numberType_of_mem_insertions {i : Insertion} (h : i ∈ insertions)
    (hi : declaresFolded i = true) : ∃ owner ∈ numberTypes, i ∈ numberType owner := by
  have hNumbers : i ∈ numbers := by
    simp only [insertions, List.mem_append] at h
    rcases h with ((((((h | h) | h) | h) | h) | h) | h) | h
    case inl.inl.inl.inl.inl.inl.inr => exact h
    all_goals exact absurd h (not_mem_of_any (by decide +kernel) hi)
  simp only [numbers, List.mem_append] at hNumbers
  rcases hNumbers with (((h | h) | h) | h) | h
  case inl.inl.inr => exact List.mem_flatMap.mp h
  all_goals exact absurd h (not_mem_of_any (by decide +kernel) hi)

theorem kotlin_inj {name other : String} (h : kotlin name = kotlin other) : name = other := by
  injection h with _ hNames
  injection hNames

theorem isNew_insertions : ∀ i ∈ insertions, i.IsNew := by
  decide +kernel

/-- The folded operators of a number type in the graph of the built-in declarations. -/
theorem declares_of_mem_functionsOf {owner : String} {id : CallableId} {f : FunctionSymbol}
    (h : f ∈ graph.functionsOf id) (hOwner : owner ∈ numberTypes)
    (hClass : f.id.class? = some (kotlin owner)) (hName : f.id.name ∈ foldedOperators) :
    Declares owner f := by
  obtain ⟨other, _, hMem⟩ := mem_numberType_of_mem_insertions
    (SymbolGraph.mem_insertions_of_functionsOf isNew_insertions h)
    (declaresFolded_of_number hOwner hClass hName)
  have hDeclares := declares_of_mem_numberType hMem hName
  cases kotlin_inj (Option.some.inj (hClass.symm.trans hDeclares.class?_eq))
  exact hDeclares

end Builtins

namespace IntegerWidth

def type : IntegerWidth → SourceType
  | word => .int
  | long => .long

theorem type_wrap (width : IntegerWidth) (n : Int) : (width.wrap n).type = width.type := by
  cases width <;> rfl

end IntegerWidth

namespace Quantity

open Conversion

def type : Quantity → SourceType
  | integer width _ => width.type
  | real _ => .double

/-- The type in which two numbers are calculated. -/
def joinedType : Quantity → Quantity → SourceType
  | integer width _, integer width' _ => (width.wider width').type
  | _, _ => .double

def IsZero : Quantity → Prop
  | integer _ n => n = 0
  | real x => (x == 0) = true

def IsNumber : Quantity → Prop
  | integer _ _ => True
  | real x => x.isNaN = false

theorem toFloat_beq_zero {b : Quantity} (h : ¬ b.IsZero) : (b.toFloat == 0) = false := by
  cases b with
  | integer width n => exact ofInt_beq_zero h
  | real x => exact eq_false_of_ne_true h

theorem isNaN_toFloat {a : Quantity} (h : a.IsNumber) : a.toFloat.isNaN = false := by
  cases a with
  | integer width n => exact isNaN_ofInt n
  | real x => exact h

theorem integerOperator_value {name : String} (hName : name ∈ Builtins.arithmeticOperators)
    (width : IntegerWidth) (a : Int) {b : Int} (hZero : isDivision name → b ≠ 0) :
    ∃ n, integerOperator name width a b = .value (width.wrap n) := by
  simp only [Builtins.arithmeticOperators, List.mem_cons, List.not_mem_nil, or_false] at hName
  rcases hName with rfl | rfl | rfl | rfl | rfl
  · exact ⟨_, rfl⟩
  · exact ⟨_, rfl⟩
  · exact ⟨_, rfl⟩
  · exact ⟨_, if_neg (hZero (.inl rfl))⟩
  · exact ⟨_, if_neg (hZero (.inr rfl))⟩

theorem realOperator_value {name : String} (hName : name ∈ Builtins.arithmeticOperators)
    (a : Float) {b : Float} (hZero : isDivision name → (b == 0) = false) :
    ∃ x, realOperator name a b = .value (.double x) := by
  simp only [Builtins.arithmeticOperators, List.mem_cons, List.not_mem_nil, or_false] at hName
  rcases hName with rfl | rfl | rfl | rfl | rfl
  · exact ⟨_, rfl⟩
  · exact ⟨_, rfl⟩
  · exact ⟨_, rfl⟩
  · exact ⟨_, if_neg (ne_true_of_eq_false (hZero (.inl rfl)))⟩
  · exact ⟨_, if_neg (ne_true_of_eq_false (hZero (.inr rfl)))⟩

/-- Two numbers have a result in the type in which they are calculated. -/
theorem operator_arithmetic {name : String} (hName : name ∈ Builtins.arithmeticOperators)
    (a b : Quantity) (hZero : isDivision name → ¬ b.IsZero) :
    ∃ value, a.operator name b = .value value ∧ value.type = a.joinedType b := by
  have hReal (x : Float) : ∃ value, realOperator name x b.toFloat = .value value ∧
      value.type = .double := by
    obtain ⟨y, hValue⟩ :=
      realOperator_value hName x fun hDivision => toFloat_beq_zero (hZero hDivision)
    exact ⟨_, hValue, rfl⟩
  cases a with
  | real x => cases b <;> exact hReal x
  | integer width m =>
    cases b with
    | real y => exact hReal _
    | integer width' n =>
      obtain ⟨result, hValue⟩ := integerOperator_value hName (width.wider width') m hZero
      exact ⟨_, hValue, IntegerWidth.type_wrap _ _⟩

theorem realOperator_comparison {a b : Float} (ha : a.isNaN = false) (hb : b.isNaN = false) :
    ∃ n, realOperator "compareTo" a b = .value (.int n) := by
  have hOrder := lt_or_beq_or_lt ha hb
  simp only [realOperator]
  split
  · exact ⟨_, rfl⟩
  · split
    · exact ⟨_, rfl⟩
    · split
      · exact ⟨_, rfl⟩
      · simp_all

theorem operator_comparison {a b : Quantity} (ha : a.IsNumber) (hb : b.IsNumber) :
    ∃ n, a.operator "compareTo" b = .value (.int n) := by
  have hReal := realOperator_comparison (isNaN_toFloat ha) (isNaN_toFloat hb)
  cases a with
  | real x => cases b <;> exact hReal
  | integer width m =>
    cases b with
    | real y => exact hReal
    | integer width' n => exact ⟨_, rfl⟩

theorem member_negation (a : Quantity) :
    ∃ value, a.member "unaryMinus" = .value value ∧ value.type = a.type := by
  cases a with
  | integer width n => exact ⟨_, rfl, IntegerWidth.type_wrap _ _⟩
  | real x => exact ⟨_, rfl, rfl⟩

end Quantity

namespace Constant

/-- A number of a type that folding calculates with. -/
inductive IsOperand : Constant → Prop
  | byte (n : Int8) : IsOperand (.byte n)
  | short (n : Int16) : IsOperand (.short n)
  | int (n : Int32) : IsOperand (.int n)
  | long (n : Int64) : IsOperand (.long n)
  | double (x : Float) (hNumber : x.isNaN = false) : IsOperand (.double x)

def numberName : Constant → String
  | .byte _ => "Byte"
  | .short _ => "Short"
  | .int _ => "Int"
  | .long _ => "Long"
  | .double _ => "Double"
  | _ => ""

variable {c d : Constant} {a b : Quantity}

theorem IsOperand.type (h : c.IsOperand) : c.type = Builtins.typeNamed c.numberName := by
  cases h <;> rfl

theorem IsOperand.numberName_mem (h : c.IsOperand) : c.numberName ∈ Builtins.numberTypes := by
  cases h <;> simp [numberName, Builtins.numberTypes]

theorem IsOperand.exists_quantity (h : c.IsOperand) :
    ∃ a, Quantity.ofConstant? c = some a ∧ a.IsNumber ∧ (c.isZero = false → ¬ a.IsZero) := by
  cases h with
  | byte n =>
    refine ⟨_, rfl, trivial, fun hNonzero hZero => ?_⟩
    rw [Int8.toInt_inj.mp (hZero.trans Int8.toInt_zero.symm)] at hNonzero
    cases hNonzero
  | short n =>
    refine ⟨_, rfl, trivial, fun hNonzero hZero => ?_⟩
    rw [Int16.toInt_inj.mp (hZero.trans Int16.toInt_zero.symm)] at hNonzero
    cases hNonzero
  | int n =>
    refine ⟨_, rfl, trivial, fun hNonzero hZero => ?_⟩
    rw [Int32.toInt_inj.mp (hZero.trans Int32.toInt_zero.symm)] at hNonzero
    cases hNonzero
  | long n =>
    refine ⟨_, rfl, trivial, fun hNonzero hZero => ?_⟩
    rw [Int64.toInt_inj.mp (hZero.trans Int64.toInt_zero.symm)] at hNonzero
    cases hNonzero
  | double x hNumber => exact ⟨_, rfl, hNumber, ne_true_of_eq_false⟩

/-- The declared type of an operator is the one in which its operands are calculated. -/
theorem IsOperand.joinedType_eq (hc : c.IsOperand) (hd : d.IsOperand)
    (ha : Quantity.ofConstant? c = some a) (hb : Quantity.ofConstant? d = some b) :
    a.joinedType b = Builtins.typeNamed (Builtins.widerType c.numberName d.numberName) := by
  cases hc <;> cases hd <;> cases ha <;> cases hb <;> rfl

theorem applyMember?_member (ha : Quantity.ofConstant? c = some a) (name : String) :
    applyMember? name c [] = (a.member name).constant? := by
  have hNumber := numberMember?_eq name c
  rw [ha] at hNumber
  cases c with
  | byte | short | int | long | double => exact hNumber
  | null | boolean | char | float | uint | ulong | string => cases ha

theorem applyMember?_operator (ha : Quantity.ofConstant? c = some a)
    (hb : Quantity.ofConstant? d = some b) (name : String) :
    applyMember? name c [d] = (a.operator name b).constant? := by
  have hNumbers := numberOperator?_eq name c d
  rw [ha, hb] at hNumbers
  cases c with
  | byte | short | int | long | double => exact hNumbers
  | null | boolean | char | float | uint | ulong | string => cases ha

end Constant

/-- A call of a member on constants of the types that the member declares. -/
structure Call.AppliesTo (c : Call) (f : FunctionSymbol) (receiver : Constant)
    (operands : List Constant) : Prop where
  callee : c.callee = f.id
  type : c.type = f.returnType
  extensionReceiver : c.extensionReceiver = none
  dispatchReceiver : c.dispatchReceiver = some (.constant receiver)
  arguments : c.arguments = operands.map fun operand => some (.constant operand)
  receiverType : f.id.class? = receiver.type.class?
  argumentTypes : f.parameters.map (·.type) = operands.map Constant.type

namespace Call.AppliesTo

variable {c : Call} {f : FunctionSymbol} {receiver : Constant} {operands : List Constant}

theorem class?_eq (h : c.AppliesTo f receiver operands) (hReceiver : receiver.IsOperand) :
    f.id.class? = some (WellKnown.kotlin receiver.numberName) := by
  rw [h.receiverType, hReceiver.type]
  rfl

theorem fold?_eq (h : c.AppliesTo f receiver operands) (hReceiver : receiver.IsOperand) :
    c.fold? = (applyMember? f.id.name receiver operands).bind fun value =>
      if value.type.class? = f.returnType.class? then some value else none := by
  have hCondition : ¬ ((WellKnown.kotlin receiver.numberName).package.text ≠
      WellKnown.languagePackage ∨ c.extensionReceiver.isSome) := by
    rintro (hPackage | hExtension)
    · exact hPackage rfl
    · rw [h.extensionReceiver] at hExtension
      cases hExtension
  rw [Call.fold?, h.callee, h.class?_eq hReceiver, h.type]
  simp only [Option.bind_eq_bind, Option.bind_some]
  rw [if_neg hCondition, h.dispatchReceiver, h.arguments, constantArguments?_map]
  rfl

theorem fold?_of_value (h : c.AppliesTo f receiver operands) (hReceiver : receiver.IsOperand)
    {value : Constant} (hValue : applyMember? f.id.name receiver operands = some value)
    (hType : value.type = f.returnType) : c.fold? = some value := by
  rw [h.fold?_eq hReceiver, hValue, Option.bind_some, if_pos (congrArg SourceType.class? hType)]

theorem exists_operand (h : c.AppliesTo f receiver operands) {name : String}
    (hParameters : f.parameters.map (·.type) = [Builtins.typeNamed name])
    (hOperands : ∀ operand ∈ operands, operand.IsOperand) :
    ∃ operand, operands = [operand] ∧ operand.IsOperand ∧ operand.numberName = name := by
  obtain ⟨operand, rfl, hType⟩ :=
    List.map_eq_singleton_iff.mp (h.argumentTypes.symm.trans hParameters)
  have hOperand := hOperands operand List.mem_cons_self
  rw [hOperand.type] at hType
  have hClass := congrArg SourceType.class? hType
  exact ⟨operand, rfl, hOperand, Builtins.kotlin_inj (Option.some.inj hClass)⟩

theorem fold?_arithmetic (h : c.AppliesTo f receiver operands) (hReceiver : receiver.IsOperand)
    (hOperands : ∀ operand ∈ operands, operand.IsOperand)
    (hDivisor : isDivision f.id.name → ∀ operand ∈ operands, operand.isZero = false)
    {name : String} (hName : f.id.name ∈ Builtins.arithmeticOperators)
    (hParameters : f.parameters.map (·.type) = [Builtins.typeNamed name])
    (hReturn : f.returnType =
      Builtins.typeNamed (Builtins.widerType receiver.numberName name)) :
    ∃ value, c.fold? = some value ∧ value.type = f.returnType := by
  obtain ⟨operand, rfl, hOperand, rfl⟩ := h.exists_operand hParameters hOperands
  obtain ⟨a, ha, _, _⟩ := hReceiver.exists_quantity
  obtain ⟨b, hb, _, hNonzero⟩ := hOperand.exists_quantity
  obtain ⟨value, hValue, hType⟩ := Quantity.operator_arithmetic hName a b
    fun hDivision => hNonzero (hDivisor hDivision operand List.mem_cons_self)
  have hReturned : value.type = f.returnType := by
    rw [hType, hReturn, hReceiver.joinedType_eq hOperand ha hb]
  refine ⟨value, h.fold?_of_value hReceiver ?_ hReturned, hReturned⟩
  rw [Constant.applyMember?_operator ha hb, hValue]
  rfl

theorem fold?_comparison (h : c.AppliesTo f receiver operands) (hReceiver : receiver.IsOperand)
    (hOperands : ∀ operand ∈ operands, operand.IsOperand)
    {name : String} (hName : f.id.name = "compareTo")
    (hParameters : f.parameters.map (·.type) = [Builtins.typeNamed name])
    (hReturn : f.returnType = .int) :
    ∃ value, c.fold? = some value ∧ value.type = f.returnType := by
  obtain ⟨operand, rfl, hOperand, rfl⟩ := h.exists_operand hParameters hOperands
  obtain ⟨a, ha, haNumber, _⟩ := hReceiver.exists_quantity
  obtain ⟨b, hb, hbNumber, _⟩ := hOperand.exists_quantity
  obtain ⟨n, hValue⟩ := Quantity.operator_comparison haNumber hbNumber
  refine ⟨.int n, h.fold?_of_value hReceiver ?_ hReturn.symm, hReturn.symm⟩
  rw [hName, Constant.applyMember?_operator ha hb, hValue]
  rfl

/-- A negation is folded if its operand is calculated in its own type. -/
theorem fold?_negation (h : c.AppliesTo f receiver operands) (hReceiver : receiver.IsOperand)
    (hName : f.id.name = "unaryMinus") (hParameters : f.parameters.map (·.type) = [])
    (hReturn : f.returnType = receiver.type) {a : Quantity}
    (ha : Quantity.ofConstant? receiver = some a) :
    ∃ value, value.type = a.type ∧
      c.fold? = if a.type.class? = receiver.type.class? then some value else none := by
  have hNone : operands = [] :=
    List.map_eq_nil_iff.mp (h.argumentTypes.symm.trans hParameters)
  obtain ⟨value, hValue, hType⟩ := a.member_negation
  refine ⟨value, hType, ?_⟩
  rw [h.fold?_eq hReceiver, hName, hNone, Constant.applyMember?_member ha, hValue, ← hType,
    ← hReturn]
  rfl

end Call.AppliesTo

/-- The negations that are calculated in a wider type than they declare. -/
def narrowNegations : List CallableId :=
  [WellKnown.byte.member "unaryMinus", WellKnown.short.member "unaryMinus"]

theorem name_of_mem_narrowNegations {id : CallableId} (h : id ∈ narrowNegations) :
    id.name = "unaryMinus" := by
  have hNames : ∀ id ∈ narrowNegations, id.name = "unaryMinus" := by decide
  exact hNames id h

section Negation

variable {c : Constant} {a : Quantity}

theorem Constant.IsOperand.type_quantity (h : c.IsOperand) (ha : Quantity.ofConstant? c = some a)
    (hWide : (WellKnown.kotlin c.numberName).member "unaryMinus" ∉ narrowNegations) :
    a.type = c.type := by
  cases h with
  | byte n =>
    have hByte : WellKnown.byte.member "unaryMinus" ∈ narrowNegations := by decide
    exact absurd hByte hWide
  | short n =>
    have hShort : WellKnown.short.member "unaryMinus" ∈ narrowNegations := by decide
    exact absurd hShort hWide
  | int n | long n | double x =>
    cases ha
    rfl

theorem Constant.IsOperand.class?_quantity_ne (h : c.IsOperand)
    (ha : Quantity.ofConstant? c = some a)
    (hNarrow : (WellKnown.kotlin c.numberName).member "unaryMinus" ∈ narrowNegations) :
    a.type.class? ≠ c.type.class? := by
  have hWide : ∀ id ∈ [WellKnown.int, WellKnown.long, WellKnown.double],
      id.member "unaryMinus" ∉ narrowNegations := by decide
  have hNarrowed : ∀ id ∈ [WellKnown.byte, WellKnown.short], some WellKnown.int ≠ some id := by
    decide
  cases h with
  | byte n =>
    cases ha
    exact hNarrowed WellKnown.byte (by simp)
  | short n =>
    cases ha
    exact hNarrowed WellKnown.short (by simp)
  | int n => exact absurd hNarrow (hWide WellKnown.int (by simp))
  | long n => exact absurd hNarrow (hWide WellKnown.long (by simp))
  | double x => exact absurd hNarrow (hWide WellKnown.double (by simp))

end Negation

/-- A call of an arithmetic operator on constants that has the declared type of the operator is
folded to a constant of that type, but for the negations that are calculated in a wider one. -/
theorem folded_as_declared {c : Call} {f : FunctionSymbol} {receiver : Constant}
    {operands : List Constant} (hRegistered : f ∈ Builtins.graph.functionsOf f.id)
    (hName : f.id.name ∈ Builtins.foldedOperators) (hCall : c.AppliesTo f receiver operands)
    (hReceiver : receiver.IsOperand) (hOperands : ∀ operand ∈ operands, operand.IsOperand)
    (hDivisor : isDivision f.id.name → ∀ operand ∈ operands, operand.isZero = false) :
    (f.id ∉ narrowNegations → ∃ value, c.fold? = some value ∧ value.type = f.returnType) ∧
      (f.id ∈ narrowNegations → c.fold? = none) := by
  have hClass := hCall.class?_eq hReceiver
  cases Builtins.declares_of_mem_functionsOf hRegistered hReceiver.numberName_mem hClass hName with
  | arithmetic op name hOp hId hParameters hReturn =>
    have hOperator : f.id.name ∈ Builtins.arithmeticOperators := by
      rw [hId]
      exact hOp
    refine ⟨fun _ => ?_, fun hNarrow => ?_⟩
    · exact hCall.fold?_arithmetic hReceiver hOperands hDivisor hOperator hParameters hReturn
    · rw [name_of_mem_narrowNegations hNarrow] at hOperator
      exact absurd hOperator (by decide)
  | comparison name hId hParameters hReturn =>
    have hOperator : f.id.name = "compareTo" := by
      rw [hId]
      rfl
    refine ⟨fun _ => ?_, fun hNarrow => ?_⟩
    · exact hCall.fold?_comparison hReceiver hOperands hOperator hParameters hReturn
    · rw [name_of_mem_narrowNegations hNarrow] at hOperator
      exact absurd hOperator (by decide)
  | negation hId hParameters hReturn =>
    have hOperator : f.id.name = "unaryMinus" := by
      rw [hId]
      rfl
    have hOwn : f.returnType = receiver.type := hReturn.trans hReceiver.type.symm
    obtain ⟨a, ha, _⟩ := hReceiver.exists_quantity
    obtain ⟨value, hType, hFold⟩ :=
      hCall.fold?_negation hReceiver hOperator hParameters hOwn ha
    rw [hId]
    refine ⟨fun hWide => ?_, fun hNarrow => ?_⟩
    · have hSame := hReceiver.type_quantity ha hWide
      rw [if_pos (congrArg SourceType.class? hSame)] at hFold
      exact ⟨value, hFold, hType.trans (hSame.trans hOwn.symm)⟩
    · rw [if_neg (hReceiver.class?_quantity_ne ha hNarrow)] at hFold
      exact hFold

/-- The remainder of a byte by a real number. -/
def byteRemainder : FunctionSymbol :=
  { id := WellKnown.byte.member "rem"
    parameters := [{ name := "other", type := .double }]
    returnType := .double
    isOperator := true }

def byteNegation : FunctionSymbol :=
  { id := WellKnown.byte.member "unaryMinus"
    returnType := .byte
    isOperator := true }

/-- A call of a member on constants. -/
def FunctionSymbol.callOn (f : FunctionSymbol) (receiver : Constant) (operands : List Constant) :
    Call :=
  { callee := f.id, dispatchReceiver := some (.constant receiver), extensionReceiver := none
    arguments := operands.map fun operand => some (.constant operand), typeArguments := []
    type := f.returnType }

/-- Everything up to the operators of bytes can be added to the built-in declarations. -/
theorem Builtins.insertAll_bytes :
    (SymbolGraph.empty.insertAll (Builtins.insertions.take 70)).2 = none :=
  Option.isNone_iff_eq_none.mp (by decide +kernel)

theorem byteRemainder_mem : byteRemainder ∈ Builtins.graph.functionsOf byteRemainder.id := by
  refine SymbolGraph.mem_functionsOf_ofInsertions Builtins.isNew_insertions 70 rfl ?_
    Builtins.insertAll_bytes
  exact List.mem_of_getElem? (i := 64) rfl

theorem folded_as_declared_byteRemainder :
    let c := byteRemainder.callOn (.byte 7) [.double 2.5]
    byteRemainder ∈ Builtins.graph.functionsOf byteRemainder.id ∧
      c.AppliesTo byteRemainder (.byte 7) [.double 2.5] ∧
      ∃ value, c.fold? = some value ∧ value.type = .double := by
  intro c
  have hCall : c.AppliesTo byteRemainder (.byte 7) [.double 2.5] :=
    ⟨rfl, rfl, rfl, rfl, rfl, rfl, rfl⟩
  have hOperands : ∀ operand ∈ [Constant.double 2.5], operand.IsOperand :=
    List.forall_mem_singleton.mpr (.double 2.5 (by decide))
  have hNonzero : ∀ operand ∈ [Constant.double 2.5], operand.isZero = false :=
    List.forall_mem_singleton.mpr (by decide)
  have hFolded := folded_as_declared byteRemainder_mem (by decide) hCall (.byte 7) hOperands
    fun _ => hNonzero
  exact ⟨byteRemainder_mem, hCall, hFolded.1 (by decide)⟩

/-- The negation of a byte is declared to be a byte, and is left as it is. -/
theorem byteNegation_not_folded :
    byteNegation ∈ Builtins.graph.functionsOf byteNegation.id ∧ byteNegation.returnType = .byte ∧
      (byteNegation.callOn (.byte 5) []).fold? = none := by
  refine ⟨?_, rfl, rfl⟩
  refine SymbolGraph.mem_functionsOf_ofInsertions Builtins.isNew_insertions 70 rfl ?_
    Builtins.insertAll_bytes
  exact List.mem_of_getElem? (i := 66) rfl

end KotlinBackend
