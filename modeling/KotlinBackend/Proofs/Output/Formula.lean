import KotlinBackend.Output.Body
import KotlinBackend.Output.Layout
import KotlinBackend.Proofs.Output.Reader

/-!
# Formulas and their code

A formula is made of variables, integers and calls of the operators of the built-in classes. Its
code is a text, its operators are a tree. `tokens_render` says what the text consists of.
-/

namespace KotlinBackend.Output

/-- A name that reads as a name: a word that starts with no digit and is no predefined type. -/
structure Identifier where
  text : String
  isWord : ∀ c ∈ text.toList, isWordChar c = true
  starts : ∃ c rest, text.toList = c :: rest ∧ c.isDigit = false
  isName : text ∉ predefinedTypes

/-- Constants of the integer types with a sign. -/
inductive Whole where
  | byte (n : Int8)
  | short (n : Int16)
  | int (n : Int32)
  | long (n : Int64)
  deriving DecidableEq, Repr

namespace Whole

def constant : Whole → Constant
  | byte n => .byte n
  | short n => .short n
  | int n => .int n
  | long n => .long n

def value : Whole → Int
  | byte n => n.toInt
  | short n => n.toInt
  | int n => n.toInt
  | long n => n.toInt

/-- The digits with the suffix of the type. -/
def digits : Whole → List Char
  | long n => Nat.toDigits 10 n.toInt.natAbs ++ ['L']
  | n => Nat.toDigits 10 n.value.natAbs

def cast? : Whole → Option String
  | byte _ => some "sbyte"
  | short _ => some "short"
  | int _ => none
  | long _ => none

/-- What stands before the digits, from the inside out. -/
def signs (n : Whole) : List Sign :=
  (if n.value < 0 then [.operator "-"] else []) ++ n.cast?.toList.map .cast

def tree (n : Whole) : Tree := signedBy n.signs (.number (String.ofList n.digits))

/-- The tokens of the literal. -/
def tokens (n : Whole) : List Token :=
  (match n.cast? with
    | some type => [.mark '(', .word type.toList, .mark ')']
    | none => []) ++
    ((if n.value < 0 then [.operator ['-']] else []) ++ [.word n.digits])

end Whole

/-- A call of a member of a class of the language, apart from the member and its operands. -/
structure MemberCall where
  owner : ClassId
  typeArguments : List SourceType
  type : SourceType
  isBuiltin : owner.package.text = WellKnown.languagePackage

def MemberCall.call (site : MemberCall) (name : String) (receiver : Expression)
    (arguments : List Expression) : Expression :=
  .call
    { callee := site.owner.member name
      dispatchReceiver := some receiver
      extensionReceiver := none
      arguments := arguments.map some
      typeArguments := site.typeArguments
      type := site.type }

/-- An entry of a table of operators: the name of a member and what stands for it. -/
abbrev Entry (table : List (String × String)) := { entry : String × String // entry ∈ table }

inductive Formula where
  | named (name : Identifier) (type : SourceType)
  | constant (n : Whole)
  | signed (operator : Entry unaryOperators) (site : MemberCall) (operand : Formula)
  | converted (target : Entry conversions) (site : MemberCall) (operand : Formula)
  | increased (site : MemberCall) (operand : Formula)
  | decreased (site : MemberCall) (operand : Formula)
  | shown (site : MemberCall) (operand : Formula)
  | infixed (operator : Entry binaryOperators) (site : MemberCall) (left right : Formula)
  | compared (site : MemberCall) (left right : Formula)

namespace Formula

def expression : Formula → Expression
  | named name type => .readValue name.text type
  | constant n => .constant n.constant
  | signed operator site operand => site.call operator.1.1 operand.expression []
  | converted target site operand => site.call target.1.1 operand.expression []
  | increased site operand => site.call "inc" operand.expression []
  | decreased site operand => site.call "dec" operand.expression []
  | shown site operand => site.call "toString" operand.expression []
  | infixed operator site left right => site.call operator.1.1 left.expression [right.expression]
  | compared site left right => site.call "compareTo" left.expression [right.expression]

/-- The operators of a formula over its leaves. -/
def tree : Formula → Tree
  | named name _ => .name name.text
  | constant n => n.tree
  | signed operator _ operand => .signed (.operator operator.1.2) operand.tree
  | converted target _ operand => .signed (.cast target.1.2) operand.tree
  | increased _ operand => .infixed "+" operand.tree (.number "1")
  | decreased _ operand => .infixed "-" operand.tree (.number "1")
  | shown _ operand => .invoked operand.tree "ToString"
  | infixed operator _ left right => .infixed operator.1.2 left.tree right.tree
  | compared _ left right => .invokedWith left.tree "CompareTo" right.tree

/-- The tokens of the code of a formula. -/
def tokens : Formula → List Token
  | named name _ => [.word name.text.toList]
  | constant n => n.tokens
  | signed operator _ operand =>
    .operator operator.1.2.toList :: .mark '(' :: (operand.tokens ++ [.mark ')'])
  | converted target _ operand =>
    .mark '(' :: .mark '(' :: .word target.1.2.toList :: .mark ')' ::
      (operand.tokens ++ [.mark ')'])
  | increased _ operand =>
    .mark '(' :: (operand.tokens ++ [.operator ['+'], .word ['1'], .mark ')'])
  | decreased _ operand =>
    .mark '(' :: (operand.tokens ++ [.operator ['-'], .word ['1'], .mark ')'])
  | shown _ operand =>
    operand.tokens ++ [.mark '.', .word "ToString".toList, .mark '(', .mark ')']
  | infixed operator _ left right =>
    .mark '(' :: (left.tokens ++ .operator operator.1.2.toList :: (right.tokens ++ [.mark ')']))
  | compared _ left right =>
    left.tokens ++ .mark '.' :: .word "CompareTo".toList :: .mark '(' ::
      (right.tokens ++ [.mark ')'])

end Formula

theorem toList_toString (n : Int) :
    (toString n).toList = (if n < 0 then ['-'] else []) ++ Nat.toDigits 10 n.natAbs := by
  rw [Int.toString_eq_repr, Int.repr_eq_if]
  by_cases h : n < 0
  · have hAbs : (-n).toNat = n.natAbs := by omega
    simp [h, Int.not_le.mpr h, hAbs]
  · have hAbs : n.toNat = n.natAbs := by omega
    simp [h, Int.not_lt.mp h, hAbs]

theorem isWordChar_of_isDigit {c : Char} (h : c.isDigit = true) : isWordChar c = true := by
  simp [isWordChar, Char.isAlphanum, h]

namespace Whole

theorem toList_literal (n : Whole) :
    (literal n.constant).toList =
      (match n.cast? with
        | some type => '(' :: (type.toList ++ [')'])
        | none => []) ++ ((if n.value < 0 then ['-'] else []) ++ n.digits) := by
  cases n with
  | byte n => simp only [constant, literal, String.toList_append, toList_toString]; rfl
  | short n => simp only [constant, literal, String.toList_append, toList_toString]; rfl
  | int n => simp only [constant, literal, toList_toString]; rfl
  | long n =>
    simp only [constant, literal, String.toList_append, toList_toString, List.append_assoc]
    rfl

theorem digits_eq_cons (n : Whole) : ∃ c rest, n.digits = c :: rest ∧ c.isDigit = true := by
  obtain ⟨c, rest, h⟩ := List.exists_cons_of_ne_nil
    (Nat.toDigits_ne_nil (n := n.value.natAbs) (b := 10))
  have hDigit : c.isDigit = true :=
    Nat.isDigit_of_mem_toDigits (by decide) (by decide) (h ▸ List.mem_cons_self)
  cases n with
  | byte | short | int => exact ⟨c, rest, h, hDigit⟩
  | long n =>
    have hLong : (Whole.long n).digits = c :: (rest ++ ['L']) := by
      simp only [value] at h
      simp [digits, h]
    exact ⟨c, rest ++ ['L'], hLong, hDigit⟩

theorem isWordChar_digits (n : Whole) : ∀ c ∈ n.digits, isWordChar c = true := by
  have hDigits (k : Nat) : ∀ c ∈ Nat.toDigits 10 k, isWordChar c = true := fun c hc =>
    isWordChar_of_isDigit (Nat.isDigit_of_mem_toDigits (by decide) (by decide) hc)
  cases n with
  | byte n | short n | int n => exact hDigits _
  | long n =>
    intro c hc
    rcases List.mem_append.mp hc with hc | hc
    · exact hDigits _ c hc
    · rw [List.mem_singleton.mp hc]
      decide

theorem tokens_numeral (n : Whole) :
    Output.tokens ((if n.value < 0 then ['-'] else []) ++ n.digits) =
      (if n.value < 0 then [.operator ['-']] else []) ++ [.word n.digits] := by
  obtain ⟨c, rest, hDigits, _⟩ := n.digits_eq_cons
  have hWord : lexemes n.digits = [.word n.digits] :=
    lexemes_word (by simp [hDigits]) n.isWordChar_digits
  by_cases h : n.value < 0
  · simp only [h, if_true, Output.tokens, List.singleton_append, lexemes, hWord]
    rfl
  · simp only [h, if_false, Output.tokens, List.nil_append, hWord]
    rfl

theorem tokens_literal (n : Whole) : Output.tokens (literal n.constant).toList = n.tokens := by
  rw [toList_literal, tokens]
  cases hCast : n.cast? with
  | none => exact n.tokens_numeral
  | some type =>
    have hType : Output.tokens type.toList = [.word type.toList] := by
      cases n <;> cases hCast <;> decide
    simp only [List.cons_append, List.append_assoc, List.nil_append]
    simp (disch := decide) only [tokens_cons_mark, tokens_append_mark, hType, tokens_numeral]
    rfl

end Whole

section Render

variable (g : Context) (scope : Scope)

/-- The code of an expression on one line. -/
def render (e : Expression) : String := (expressionCode g scope e).value.onOneLine

theorem intercalate_nothing (texts : List String) : "".intercalate texts = String.join texts := by
  induction texts with
  | nil => simp
  | cons text rest ih =>
    cases rest with
    | nil => simp
    | cons next rest => rw [String.intercalate_cons_cons, String.join_cons, ih, String.append_empty]

theorem join_itemsOnOneLine (items : List Code) :
    String.join (Code.itemsOnOneLine items) = String.join (items.map Code.onOneLine) := by
  induction items with
  | nil => rfl
  | cons item rest ih =>
    cases item <;>
      simp [Code.itemsOnOneLine, Code.isNothing, Code.onOneLine, String.join_cons, ih]

theorem onOneLine_glue (items : List Code) :
    (Code.glue items).onOneLine = String.join (items.map Code.onOneLine) := by
  rw [Code.glue, Code.inline, Code.onOneLine, intercalate_nothing, join_itemsOnOneLine]

/-- A member without arguments stands around its receiver. -/
theorem render_unary {name before after : String}
    (h : unaryAffixes? name = some (before, after)) (site : MemberCall) (receiver : Expression) :
    render g scope (site.call name receiver []) = before ++ render g scope receiver ++ after := by
  simp [render, MemberCall.call, expressionCode, callExpressionCode, callCode, operatorCode?,
    ClassId.member, CallableId.class?, Owner.class?, site.isBuiltin, optionCode, argumentParts, h,
    onOneLine_glue, Code.onOneLine, String.join_cons, String.append_assoc]

theorem render_binary {name before between : String}
    (h : binaryAffixes? name = some (before, between)) (site : MemberCall)
    (receiver argument : Expression) :
    render g scope (site.call name receiver [argument]) =
      before ++ render g scope receiver ++ between ++ render g scope argument ++ ")" := by
  simp [render, MemberCall.call, expressionCode, callExpressionCode, callCode, operatorCode?,
    ClassId.member, CallableId.class?, Owner.class?, site.isBuiltin, optionCode, argumentParts, h,
    onOneLine_glue, Code.onOneLine, String.join_cons, String.append_assoc]

theorem unaryAffixes?_operator :
    ∀ entry ∈ unaryOperators, unaryAffixes? entry.1 = some (entry.2 ++ "(", ")") ∧
      Output.tokens entry.2.toList = [.operator entry.2.toList] := by
  decide

theorem unaryAffixes?_conversion :
    ∀ entry ∈ conversions, unaryAffixes? entry.1 = some ("((" ++ entry.2 ++ ")", ")") ∧
      Output.tokens entry.2.toList = [.word entry.2.toList] := by
  decide

theorem binaryAffixes?_operator :
    ∀ entry ∈ binaryOperators, binaryAffixes? entry.1 = some ("(", " " ++ entry.2 ++ " ") ∧
      Output.tokens entry.2.toList = [.operator entry.2.toList] := by
  decide

theorem tokens_render (f : Formula) :
    Output.tokens (render g scope f.expression).toList = f.tokens := by
  induction f with
  | named name type =>
    obtain ⟨c, rest, hText, _⟩ := name.starts
    have hNonempty : name.text.toList ≠ [] := by simp [hText]
    show Output.tokens name.text.toList = [.word name.text.toList]
    rw [Output.tokens, lexemes_word hNonempty name.isWord]
    rfl
  | constant n => exact n.tokens_literal
  | signed operator site operand ih =>
    obtain ⟨hAffixes, hTokens⟩ := unaryAffixes?_operator operator.1 operator.2
    have hChars : (render g scope (Formula.signed operator site operand).expression).toList =
        operator.1.2.toList ++
          '(' :: ((render g scope operand.expression).toList ++ ')' :: []) := by
      simp [Formula.expression, render_unary g scope hAffixes]
    rw [hChars]
    simp (disch := decide) only [tokens_append_mark, hTokens, ih]
    rfl
  | converted target site operand ih =>
    obtain ⟨hAffixes, hTokens⟩ := unaryAffixes?_conversion target.1 target.2
    have hChars : (render g scope (Formula.converted target site operand).expression).toList =
        '(' :: '(' :: (target.1.2.toList ++ ')' ::
          ((render g scope operand.expression).toList ++ ')' :: [])) := by
      simp [Formula.expression, render_unary g scope hAffixes]
    rw [hChars]
    simp (disch := decide) only [tokens_cons_mark, tokens_append_mark, hTokens, ih]
    rfl
  | increased site operand ih =>
    have hAffixes : unaryAffixes? "inc" = some ("(", " + 1)") := by decide
    have hChars : (render g scope (Formula.increased site operand).expression).toList =
        '(' :: ((render g scope operand.expression).toList ++ ' ' :: ['+', ' ', '1', ')']) := by
      simp [Formula.expression, render_unary g scope hAffixes]
    rw [hChars]
    simp (disch := decide) only [tokens_cons_mark, tokens_append_blank, ih]
    rfl
  | decreased site operand ih =>
    have hAffixes : unaryAffixes? "dec" = some ("(", " - 1)") := by decide
    have hChars : (render g scope (Formula.decreased site operand).expression).toList =
        '(' :: ((render g scope operand.expression).toList ++ ' ' :: ['-', ' ', '1', ')']) := by
      simp [Formula.expression, render_unary g scope hAffixes]
    rw [hChars]
    simp (disch := decide) only [tokens_cons_mark, tokens_append_blank, ih]
    rfl
  | shown site operand ih =>
    have hAffixes : unaryAffixes? "toString" = some ("", ".ToString()") := by decide
    have hChars : (render g scope (Formula.shown site operand).expression).toList =
        (render g scope operand.expression).toList ++ '.' :: "ToString()".toList := by
      simp [Formula.expression, render_unary g scope hAffixes]
    rw [hChars]
    simp (disch := decide) only [tokens_append_mark, ih]
    rfl
  | infixed operator site left right ihLeft ihRight =>
    obtain ⟨hAffixes, hTokens⟩ := binaryAffixes?_operator operator.1 operator.2
    have hChars : (render g scope (Formula.infixed operator site left right).expression).toList =
        '(' :: ((render g scope left.expression).toList ++ ' ' :: (operator.1.2.toList ++ ' ' ::
          ((render g scope right.expression).toList ++ ')' :: []))) := by
      simp [Formula.expression, render_binary g scope hAffixes]
    rw [hChars]
    simp (disch := decide) only [tokens_cons_mark, tokens_append_mark, tokens_append_blank, hTokens,
      ihLeft, ihRight]
    rfl
  | compared site left right ihLeft ihRight =>
    have hAffixes : binaryAffixes? "compareTo" = some ("", ".CompareTo(") := by decide
    have hChars : (render g scope (Formula.compared site left right).expression).toList =
        (render g scope left.expression).toList ++ '.' :: ("CompareTo".toList ++ '(' ::
          ((render g scope right.expression).toList ++ ')' :: [])) := by
      simp [Formula.expression, render_binary g scope hAffixes]
    rw [hChars]
    simp (disch := decide) only [tokens_append_mark, ihLeft, ihRight]
    rfl

end Render

end KotlinBackend.Output
