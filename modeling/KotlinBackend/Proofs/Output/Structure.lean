import KotlinBackend.Proofs.Output.Formula

/-!
# Operators of generated expressions

The text of a formula can always be read, and `Formula.reading` says as what: an access to a member
takes only the part of its receiver that stands behind the signs. The tree that is read is the tree
of the formula exactly if no receiver of such an access starts with a sign.
-/

namespace KotlinBackend.Output

namespace Whole

/-- Reading an integer leaves its signs on the stack. -/
theorem run_tokens (n : Whole) (stack : List Frame) (rest : List Token) :
    (ReaderState.operand stack).run (n.tokens ++ rest) =
      (ReaderState.complete (n.signs.map .signed ++ stack) (.number (String.ofList n.digits))).run
        rest := by
  obtain ⟨c, tail, hDigits, hDigit⟩ := n.digits_eq_cons
  have hNumber : n.digits.head?.any Char.isDigit = true := by simp [hDigits, hDigit]
  have hNumeral (stack : List Frame) :
      (ReaderState.operand stack).run
          ((if n.value < 0 then [.operator ['-']] else []) ++ .word n.digits :: rest) =
        (ReaderState.complete ((if n.value < 0 then [.signed (.operator "-")] else []) ++ stack)
          (.number (String.ofList n.digits))).run rest := by
    by_cases h : n.value < 0
    · simp only [h, if_true, List.singleton_append]
      rw [run_sign (by decide), run_number hNumber]
    · simp only [h, if_false, List.nil_append]
      exact run_number hNumber
  have hSigns : (if n.value < 0 then [Sign.operator "-"] else []).map Frame.signed =
      if n.value < 0 then [.signed (.operator "-")] else [] := by
    split <;> rfl
  simp only [tokens, signs, List.append_assoc, List.map_append, hSigns]
  cases hCast : n.cast? with
  | none => exact hNumeral stack
  | some type =>
    have hType : type ∈ predefinedTypes := by
      cases n <;> cases hCast <;> decide
    simp only [List.cons_append, List.nil_append]
    rw [run_cast hType, hNumeral]
    rfl

end Whole

namespace Formula

/-- The signs that stand before the code of a formula, from the inside out. -/
def signs : Formula → List Sign
  | named _ _ => []
  | constant n => n.signs
  | signed operator _ _ => [.operator operator.1.2]
  | converted _ _ _ => []
  | increased _ _ => []
  | decreased _ _ => []
  | shown _ operand => operand.signs
  | infixed _ _ _ _ => []
  | compared _ left _ => left.signs

/-- What is read behind the signs. -/
def core : Formula → Tree
  | named name _ => .name name.text
  | constant n => .number (String.ofList n.digits)
  | signed _ _ operand => signedBy operand.signs operand.core
  | converted target _ operand => .signed (.cast target.1.2) (signedBy operand.signs operand.core)
  | increased _ operand => .infixed "+" (signedBy operand.signs operand.core) (.number "1")
  | decreased _ operand => .infixed "-" (signedBy operand.signs operand.core) (.number "1")
  | shown _ operand => .invoked operand.core "ToString"
  | infixed operator _ left right =>
    .infixed operator.1.2 (signedBy left.signs left.core) (signedBy right.signs right.core)
  | compared _ left right =>
    .invokedWith left.core "CompareTo" (signedBy right.signs right.core)

/-- The tree that the code of a formula is read as. -/
def reading (f : Formula) : Tree := signedBy f.signs f.core

theorem tokens_eq_cons (f : Formula) :
    ∃ token rest, f.tokens = token :: rest ∧ token ≠ .mark ')' := by
  induction f with
  | named | signed | converted | increased | decreased | infixed =>
    exact ⟨_, _, rfl, by simp⟩
  | constant n =>
    unfold tokens Whole.tokens
    cases n.cast? with
    | some type => exact ⟨_, _, rfl, by simp⟩
    | none =>
      by_cases h : n.value < 0
      · simp [h]
      · simp [h]
  | shown site operand ih =>
    obtain ⟨token, rest, h, hToken⟩ := ih
    exact ⟨token, _, by rw [tokens, h, List.cons_append], hToken⟩
  | compared site left right ihLeft ihRight =>
    obtain ⟨token, rest, h, hToken⟩ := ihLeft
    exact ⟨token, _, by rw [tokens, h, List.cons_append], hToken⟩

theorem run_arguments_tokens (f : Formula) {stack : List Frame} {rest : List Token}
    (receiver : Tree) (name : String) :
    (ReaderState.arguments stack receiver name).run (f.tokens ++ rest) =
      (ReaderState.operand (.argument receiver name :: stack)).run (f.tokens ++ rest) := by
  obtain ⟨token, tail, h, hToken⟩ := f.tokens_eq_cons
  rw [h, List.cons_append]
  exact run_arguments hToken name

/-- Reading the code of a formula leaves its signs on the stack. -/
theorem run_tokens (f : Formula) (stack : List Frame) (rest : List Token) :
    (ReaderState.operand stack).run (f.tokens ++ rest) =
      (ReaderState.complete (f.signs.map .signed ++ stack) f.core).run rest := by
  induction f generalizing stack rest with
  | named name type =>
    obtain ⟨c, tail, hText, hDigit⟩ := name.starts
    have hLetter : name.text.toList.head?.any Char.isDigit = false := by simp [hText, hDigit]
    exact run_name hLetter name.isName
  | constant n => exact n.run_tokens stack rest
  | signed operator site operand ih =>
    have hPrefix : ∀ entry ∈ unaryOperators, entry.2 ∈ prefixOperators := by decide
    have hOperator : String.ofList operator.1.2.toList ∈ prefixOperators := by
      rw [String.ofList_toList]
      exact hPrefix operator.1 operator.2
    simp only [tokens, signs, core, List.cons_append, List.append_assoc, List.nil_append]
    rw [run_sign hOperator]
    show (ReaderState.operand (.parenthesis :: _)).run _ = _
    rw [ih, run_parenthesis, String.ofList_toList]
    rfl
  | converted target site operand ih =>
    have hTypes : ∀ entry ∈ conversions, entry.2 ∈ predefinedTypes := by decide
    simp only [tokens, signs, core, List.cons_append, List.append_assoc, List.nil_append]
    show (ReaderState.operand (.parenthesis :: stack)).run _ = _
    rw [run_cast (hTypes target.1 target.2), ih]
    have hSigns : operand.signs.map Frame.signed ++
        .signed (.cast target.1.2) :: .parenthesis :: stack =
        (operand.signs ++ [Sign.cast target.1.2]).map .signed ++ .parenthesis :: stack := by
      simp
    rw [hSigns, run_parenthesis]
    simp [signedBy]
  | increased site operand ih =>
    simp only [tokens, signs, core, List.cons_append, List.append_assoc, List.nil_append]
    show (ReaderState.operand (.parenthesis :: stack)).run _ = _
    rw [ih, run_binaryOperator rfl, run_number rfl]
    exact run_infixed [] _ _ _
  | decreased site operand ih =>
    simp only [tokens, signs, core, List.cons_append, List.append_assoc, List.nil_append]
    show (ReaderState.operand (.parenthesis :: stack)).run _ = _
    rw [ih, run_binaryOperator rfl, run_number rfl]
    exact run_infixed [] _ _ _
  | shown site operand ih =>
    simp only [tokens, signs, core, List.append_assoc, List.cons_append, List.nil_append]
    rw [ih, run_access, String.ofList_toList]
    rfl
  | infixed operator site left right ihLeft ihRight =>
    have hRanks : ∀ entry ∈ binaryOperators, (precedence? entry.2).isSome := by decide
    obtain ⟨rank, hRank⟩ := Option.isSome_iff_exists.mp (hRanks operator.1 operator.2)
    have hRead : precedence? (String.ofList operator.1.2.toList) = some rank := by
      rw [String.ofList_toList, hRank]
    simp only [tokens, signs, core, List.cons_append, List.append_assoc, List.nil_append]
    show (ReaderState.operand (.parenthesis :: stack)).run _ = _
    rw [ihLeft, run_binaryOperator hRead, ihRight, run_infixed, String.ofList_toList]
    rfl
  | compared site left right ihLeft ihRight =>
    simp only [tokens, signs, core, List.append_assoc, List.cons_append, List.nil_append]
    rw [ihLeft, run_access, run_arguments_tokens, ihRight, run_argument, String.ofList_toList]

theorem read_render (g : Context) (scope : Scope) (f : Formula) :
    read (render g scope f.expression) = some f.reading := by
  have hRun : (ReaderState.operand []).run f.tokens =
      some (.complete (f.signs.map .signed ++ []) f.core) := by
    have h := f.run_tokens [] []
    rwa [List.append_nil] at h
  rw [read, tokens_render, hRun]
  show (ReaderState.complete _ _).tree? = _
  rw [ReaderState.tree?, reduce_signs]
  rfl

/-- The code does not start with a sign: the formula is neither a call of a prefix operator nor an
integer that is negative or needs a cast. -/
def isBare : Formula → Bool
  | constant (.byte _) => false
  | constant (.short _) => false
  | constant (.int n) => 0 ≤ n.toInt
  | constant (.long n) => 0 ≤ n.toInt
  | signed _ _ _ => false
  | _ => true

/-- Whatever a member is accessed of is bare. -/
def ReceiversBare : Formula → Prop
  | named _ _ => True
  | constant _ => True
  | signed _ _ operand => operand.ReceiversBare
  | converted _ _ operand => operand.ReceiversBare
  | increased _ operand => operand.ReceiversBare
  | decreased _ operand => operand.ReceiversBare
  | shown _ operand => operand.isBare = true ∧ operand.ReceiversBare
  | infixed _ _ left right => left.ReceiversBare ∧ right.ReceiversBare
  | compared _ left right => left.isBare = true ∧ left.ReceiversBare ∧ right.ReceiversBare

theorem signs_constant (n : Whole) : n.signs = [] ↔ (constant n).isBare = true := by
  cases n with
  | byte n | short n => simp [Whole.signs, Whole.cast?, isBare]
  | int n | long n =>
    by_cases h : n.toInt < 0
    · simp [Whole.signs, Whole.cast?, Whole.value, isBare, h]
    · simp [Whole.signs, Whole.cast?, Whole.value, isBare, h, Int.not_lt.mp h]

theorem isBare_of_signs {f : Formula} (h : f.signs = []) : f.isBare = true := by
  cases f with
  | constant n => exact (signs_constant n).mp h
  | signed => cases h
  | named | converted | increased | decreased | shown | infixed | compared => rfl

theorem signs_of_isBare {f : Formula} (hBare : f.isBare = true) (hReceivers : f.ReceiversBare) :
    f.signs = [] := by
  induction f with
  | constant n => exact (signs_constant n).mpr hBare
  | signed => cases hBare
  | named | converted | increased | decreased | infixed => rfl
  | shown site operand ih => exact ih hReceivers.1 hReceivers.2
  | compared site left right ihLeft ihRight => exact ihLeft hReceivers.1 hReceivers.2.1

/-- A bare receiver is read as a whole. -/
theorem core_of_isBare {f : Formula} (hBare : f.isBare = true) (hReceivers : f.ReceiversBare) :
    f.core = f.reading := by
  rw [reading, signs_of_isBare hBare hReceivers]
  rfl

theorem reading_of_receiversBare {f : Formula} (h : f.ReceiversBare) : f.reading = f.tree := by
  induction f with
  | named | constant => rfl
  | signed operator site operand ih =>
    show Tree.signed _ operand.reading = .signed _ operand.tree
    rw [ih h]
  | converted target site operand ih =>
    show Tree.signed _ operand.reading = .signed _ operand.tree
    rw [ih h]
  | increased site operand ih =>
    show Tree.infixed _ operand.reading _ = .infixed _ operand.tree _
    rw [ih h]
  | decreased site operand ih =>
    show Tree.infixed _ operand.reading _ = .infixed _ operand.tree _
    rw [ih h]
  | infixed operator site left right ihLeft ihRight =>
    show Tree.infixed _ left.reading right.reading = .infixed _ left.tree right.tree
    rw [ihLeft h.1, ihRight h.2]
  | shown site operand ih =>
    show signedBy operand.signs (.invoked operand.core _) = .invoked operand.tree _
    rw [signs_of_isBare h.1 h.2, core_of_isBare h.1 h.2, ih h.2]
    rfl
  | compared site left right ihLeft ihRight =>
    show signedBy left.signs (.invokedWith left.core _ right.reading) =
      .invokedWith left.tree _ right.tree
    rw [signs_of_isBare h.1 h.2.1, core_of_isBare h.1 h.2.1, ihLeft h.2.1, ihRight h.2.2]
    rfl

/-- A tree without a sign at its root has no sign before it. -/
theorem signedBy_eq {signs : List Sign} {operand tree : Tree} (h : signedBy signs operand = tree)
    (hTree : ∀ sign inner, tree ≠ .signed sign inner) : signs = [] ∧ operand = tree := by
  cases signs with
  | nil => exact ⟨rfl, h⟩
  | cons sign rest =>
    obtain ⟨outer, inner, hSigned⟩ := signedBy_eq_signed sign rest operand
    exact absurd (h.symm.trans hSigned) (hTree outer inner)

theorem receiversBare_of_reading {f : Formula} (h : f.reading = f.tree) : f.ReceiversBare := by
  induction f with
  | named | constant => trivial
  | signed operator site operand ih => exact ih (Tree.signed.inj h).2
  | converted target site operand ih => exact ih (Tree.signed.inj h).2
  | increased site operand ih => exact ih (Tree.infixed.inj h).2.1
  | decreased site operand ih => exact ih (Tree.infixed.inj h).2.1
  | infixed operator site left right ihLeft ihRight =>
    obtain ⟨_, hLeft, hRight⟩ := Tree.infixed.inj h
    exact ⟨ihLeft hLeft, ihRight hRight⟩
  | shown site operand ih =>
    obtain ⟨hSigns, hInvoked⟩ := signedBy_eq h (by simp [tree])
    rw [signs] at hSigns
    have hCore : operand.core = operand.tree := (Tree.invoked.inj hInvoked).1
    have hReading : operand.reading = operand.tree := by rw [reading, hSigns, hCore]; rfl
    exact ⟨isBare_of_signs hSigns, ih hReading⟩
  | compared site left right ihLeft ihRight =>
    obtain ⟨hSigns, hInvoked⟩ := signedBy_eq h (by simp [tree])
    rw [signs] at hSigns
    obtain ⟨hCore, _, hRight⟩ := Tree.invokedWith.inj hInvoked
    have hReading : left.reading = left.tree := by rw [reading, hSigns, hCore]; rfl
    exact ⟨isBare_of_signs hSigns, ihLeft hReading, ihRight hRight⟩

end Formula

/-- The code of a formula is read as its operators say exactly if no receiver of `ToString` or
`CompareTo` starts with a sign. -/
theorem read_render_eq_tree_iff (g : Context) (scope : Scope) (f : Formula) :
    read (render g scope f.expression) = some f.tree ↔ f.ReceiversBare := by
  rw [Formula.read_render, Option.some.injEq]
  exact ⟨Formula.receiversBare_of_reading, Formula.reading_of_receiversBare⟩

/-- `(-x).toString()` for an `Int`. -/
def shownNegation : Formula :=
  let site : MemberCall :=
    { owner := WellKnown.int, typeArguments := [], type := .int, isBuiltin := rfl }
  let x : Identifier :=
    { text := "x", isWord := List.all_eq_true.mp (by decide), starts := ⟨'x', [], rfl, rfl⟩,
      isName := by decide }
  .shown site (.signed ⟨("unaryMinus", "-"), by decide⟩ site (.named x .int))

/-- The access takes the variable and leaves the sign before it. -/
theorem read_render_shownNegation :
    let code := render { symbols := SymbolGraph.empty.source, declared := [] }
      { owner := .inPackage "app" "MainKt", isStatic := true } shownNegation.expression
    code = "-(x).ToString()" ∧
      read code = some (.signed (.operator "-") (.invoked (.name "x") "ToString")) ∧
      read code ≠ some shownNegation.tree := by
  decide

end KotlinBackend.Output
