/-!
# Reading generated expressions

A reader for the expressions of the target language, as far as operators on integers need one:
names, numbers, prefix operators, casts to predefined types, binary operators, and calls of members
with at most one argument. Accesses to members bind tightest, then prefix operators and casts, then
binary operators by their precedence. The reader takes one token at a time and keeps what is not
finished yet on a stack; reals, texts and all else that the target language has are not read.
-/

namespace KotlinBackend.Output

inductive Token where
  | word (letters : List Char)
  | operator (signs : List Char)
  | mark (c : Char)
  deriving DecidableEq, Repr

/-- Letters, digits and the underscore; every character beyond ASCII counts as a letter. -/
def isWordChar (c : Char) : Bool := c.isAlphanum || c == '_' || 127 < c.toNat

def isOperatorChar (c : Char) : Bool :=
  ['+', '-', '*', '/', '%', '=', '<', '>', '&', '|', '^', '!'].contains c

def isMark (c : Char) : Bool := !isWordChar c && !isOperatorChar c

/-- Puts a character before some tokens, into the first one if it can be a part of it. -/
def Token.push (c : Char) (tokens : List Token) : List Token :=
  if isWordChar c then
    match tokens with
    | .word letters :: rest => .word (c :: letters) :: rest
    | rest => .word [c] :: rest
  else if isOperatorChar c then
    match tokens with
    | .operator signs :: rest => .operator (c :: signs) :: rest
    | rest => .operator [c] :: rest
  else .mark c :: tokens

/-- The longest runs of letters and of operator signs, and every other character on its own. -/
def lexemes : List Char → List Token
  | [] => []
  | c :: rest => Token.push c (lexemes rest)

/-- The tokens of a text: its lexemes without the blanks. -/
def tokens (text : List Char) : List Token := (lexemes text).filter (· ≠ .mark ' ')

theorem push_append_mark {c d : Char} (before after : List Token) :
    Token.push c (before ++ .mark d :: after) = Token.push c before ++ .mark d :: after := by
  unfold Token.push
  split
  · cases before with
    | nil => rfl
    | cons t rest => cases t <;> rfl
  · split
    · cases before with
      | nil => rfl
      | cons t rest => cases t <;> rfl
    · rfl

theorem lexemes_append_mark {d : Char} (hd : isMark d = true) (before after : List Char) :
    lexemes (before ++ d :: after) = lexemes before ++ .mark d :: lexemes after := by
  induction before with
  | nil =>
    simp only [isMark, Bool.and_eq_true, Bool.not_eq_true'] at hd
    simp [lexemes, Token.push, hd.1, hd.2]
  | cons c rest ih =>
    simp only [List.cons_append, lexemes, ih]
    exact push_append_mark _ _

/-- A mark ends the token before it. -/
theorem tokens_append_mark {d : Char} (hd : isMark d = true) (hBlank : d ≠ ' ')
    (before after : List Char) :
    tokens (before ++ d :: after) = tokens before ++ .mark d :: tokens after := by
  simp [tokens, lexemes_append_mark hd, hBlank]

theorem tokens_cons_mark {d : Char} (hd : isMark d = true) (hBlank : d ≠ ' ') (after : List Char) :
    tokens (d :: after) = .mark d :: tokens after :=
  tokens_append_mark hd hBlank [] after

theorem tokens_append_blank (before after : List Char) :
    tokens (before ++ ' ' :: after) = tokens before ++ tokens after := by
  simp [tokens, lexemes_append_mark (d := ' ') (by decide)]

theorem lexemes_word {letters : List Char} (hNonempty : letters ≠ [])
    (h : ∀ c ∈ letters, isWordChar c = true) : lexemes letters = [.word letters] := by
  induction letters with
  | nil => exact absurd rfl hNonempty
  | cons c rest ih =>
    have hFirst : isWordChar c = true := h c List.mem_cons_self
    cases rest with
    | nil => simp [lexemes, Token.push, hFirst]
    | cons d rest =>
      rw [lexemes, ih (by simp) fun a ha => h a (List.mem_cons_of_mem _ ha)]
      simp [Token.push, hFirst]

/-- What stands before an operand. -/
inductive Sign where
  | operator (text : String)
  | cast (type : String)
  deriving DecidableEq, Repr

inductive Tree where
  | name (text : String)
  | number (text : String)
  | signed (sign : Sign) (operand : Tree)
  | infixed (operator : String) (left right : Tree)
  | invoked (receiver : Tree) (member : String)
  | invokedWith (receiver : Tree) (member : String) (argument : Tree)
  deriving DecidableEq, Repr

/-- The precedence of a binary operator; a higher one binds tighter. -/
def precedence? (operator : String) : Option Nat :=
  match operator with
  | "*" | "/" | "%" => some 7
  | "+" | "-" => some 6
  | "<<" | ">>" => some 5
  | "<" | "<=" | ">" | ">=" => some 4
  | "==" | "!=" => some 3
  | "&" => some 2
  | "^" => some 1
  | "|" => some 0
  | _ => none

def prefixOperators : List String := ["-", "+", "!"]

/-- The predefined types. They are words, but no names. -/
def predefinedTypes : List String :=
  ["sbyte", "byte", "short", "ushort", "int", "uint", "long", "ulong", "float", "double", "decimal",
    "char", "bool", "string", "object"]

/-- What is not finished while an operand is read. -/
inductive Frame where
  | parenthesis
  | signed (sign : Sign)
  | infixed (rank : Nat) (operator : String) (left : Tree)
  | argument (receiver : Tree) (member : String)
  deriving DecidableEq, Repr

inductive ReaderState where
  /-- An operand has to follow. -/
  | operand (stack : List Frame)
  /-- A parenthesis and a type were read. -/
  | castType (type : String) (stack : List Frame)
  | complete (stack : List Frame) (tree : Tree)
  /-- The name of a member has to follow. -/
  | access (stack : List Frame) (receiver : Tree)
  | member (stack : List Frame) (receiver : Tree) (name : String)
  /-- An argument or the end of the arguments has to follow. -/
  | arguments (stack : List Frame) (receiver : Tree) (name : String)
  deriving DecidableEq, Repr

/-- Finishes signs, and binary operators that bind as tight as a rank or tighter. -/
def reduce (rank : Nat) : List Frame → Tree → List Frame × Tree
  | .signed sign :: stack, tree => reduce rank stack (.signed sign tree)
  | .infixed rank' operator left :: stack, tree =>
    if rank ≤ rank' then reduce rank stack (.infixed operator left tree)
    else (.infixed rank' operator left :: stack, tree)
  | stack, tree => (stack, tree)

def readWord (stack : List Frame) (letters : List Char) : Option ReaderState :=
  let text := String.ofList letters
  if letters.head?.any Char.isDigit then some (.complete stack (.number text))
  else if predefinedTypes.contains text then
    match stack with
    | .parenthesis :: rest => some (.castType text rest)
    | _ => none
  else some (.complete stack (.name text))

def readOperand (stack : List Frame) : Token → Option ReaderState
  | .word letters => readWord stack letters
  | .operator signs =>
    let text := String.ofList signs
    if prefixOperators.contains text then some (.operand (.signed (.operator text) :: stack))
    else none
  | .mark c => if c = '(' then some (.operand (.parenthesis :: stack)) else none

/-- A closing parenthesis after an operand. -/
def close (stack : List Frame) (tree : Tree) : Option ReaderState :=
  match reduce 0 stack tree with
  | (.parenthesis :: rest, tree) => some (.complete rest tree)
  | (.argument receiver name :: rest, tree) =>
    some (.complete rest (.invokedWith receiver name tree))
  | _ => none

def readAfterOperand (stack : List Frame) (tree : Tree) : Token → Option ReaderState
  | .word _ => none
  | .operator signs => do
    let text := String.ofList signs
    let rank ← precedence? text
    let (stack, tree) := reduce rank stack tree
    some (.operand (.infixed rank text tree :: stack))
  | .mark c =>
    if c = '.' then some (.access stack tree)
    else if c = ')' then close stack tree
    else none

def ReaderState.step : ReaderState → Token → Option ReaderState
  | operand stack, token => readOperand stack token
  | complete stack tree, token => readAfterOperand stack tree token
  | castType type stack, token =>
    if token = .mark ')' then some (.operand (.signed (.cast type) :: stack)) else none
  | access stack receiver, .word letters => some (.member stack receiver (String.ofList letters))
  | access _ _, _ => none
  | member stack receiver name, token =>
    if token = .mark '(' then some (.arguments stack receiver name) else none
  | arguments stack receiver name, token =>
    if token = .mark ')' then some (.complete stack (.invoked receiver name))
    else readOperand (.argument receiver name :: stack) token

def ReaderState.tree? : ReaderState → Option Tree
  | complete stack tree =>
    match reduce 0 stack tree with
    | ([], tree) => some tree
    | _ => none
  | _ => none

def ReaderState.run (reading : ReaderState) : List Token → Option ReaderState
  | [] => some reading
  | token :: rest => do
    let next ← reading.step token
    next.run rest

/-- The tree of a text, if it is an expression. -/
def read (text : String) : Option Tree := do
  let reading ← (ReaderState.operand []).run (tokens text.toList)
  reading.tree?

/-- Signs before an operand, the innermost first. -/
def signedBy (signs : List Sign) (operand : Tree) : Tree :=
  signs.foldl (fun tree sign => .signed sign tree) operand

/-- Signs are finished before anything else is. -/
theorem reduce_signs (rank : Nat) (signs : List Sign) (stack : List Frame) (tree : Tree) :
    reduce rank (signs.map .signed ++ stack) tree = reduce rank stack (signedBy signs tree) := by
  induction signs generalizing tree with
  | nil => rfl
  | cons sign rest ih => exact ih (.signed sign tree)

theorem signedBy_eq_signed (sign : Sign) (signs : List Sign) (operand : Tree) :
    ∃ outer inner, signedBy (sign :: signs) operand = .signed outer inner := by
  induction signs generalizing sign operand with
  | nil => exact ⟨sign, operand, rfl⟩
  | cons next rest ih => exact ih next (.signed sign operand)

section Steps

variable {stack : List Frame} {tree : Tree} {rest : List Token}

/-- What one step does is all that the first token of a run does. -/
theorem run_cons_of_step {reading next : ReaderState} {token : Token}
    (h : reading.step token = some next) : reading.run (token :: rest) = next.run rest := by
  change (reading.step token).bind (fun next => next.run rest) = next.run rest
  rw [h, Option.bind_some]

theorem run_number {letters : List Char} (h : letters.head?.any Char.isDigit = true) :
    (ReaderState.operand stack).run (.word letters :: rest) =
      (ReaderState.complete stack (.number (String.ofList letters))).run rest :=
  run_cons_of_step (if_pos h)

theorem run_name {text : String} (hLetter : text.toList.head?.any Char.isDigit = false)
    (hName : text ∉ predefinedTypes) :
    (ReaderState.operand stack).run (.word text.toList :: rest) =
      (ReaderState.complete stack (.name text)).run rest := by
  apply run_cons_of_step
  change readWord stack text.toList = _
  unfold readWord
  rw [if_neg (Bool.eq_false_iff.mp hLetter), String.ofList_toList,
    if_neg (mt List.contains_iff_mem.mp hName)]

theorem run_sign {signs : List Char} (h : String.ofList signs ∈ prefixOperators) :
    (ReaderState.operand stack).run (.operator signs :: rest) =
      (ReaderState.operand (.signed (.operator (String.ofList signs)) :: stack)).run rest :=
  run_cons_of_step (if_pos (List.contains_iff_mem.mpr h))

theorem run_cast {type : String} (hType : type ∈ predefinedTypes) :
    (ReaderState.operand stack).run (.mark '(' :: .word type.toList :: .mark ')' :: rest) =
      (ReaderState.operand (.signed (.cast type) :: stack)).run rest := by
  have hLetter : type.toList.head?.any Char.isDigit = false := by
    revert type
    decide
  have hOpen : (ReaderState.operand stack).step (.mark '(') =
      some (.operand (.parenthesis :: stack)) := rfl
  have hWord : (ReaderState.operand (.parenthesis :: stack)).step (.word type.toList) =
      some (.castType type stack) := by
    change readWord (.parenthesis :: stack) type.toList = _
    unfold readWord
    rw [if_neg (Bool.eq_false_iff.mp hLetter), String.ofList_toList,
      if_pos (List.contains_iff_mem.mpr hType)]
  have hClose : (ReaderState.castType type stack).step (.mark ')') =
      some (.operand (.signed (.cast type) :: stack)) := rfl
  rw [run_cons_of_step hOpen, run_cons_of_step hWord, run_cons_of_step hClose]

theorem close_signs (signs : List Sign) (stack : List Frame) (tree : Tree) :
    close (signs.map .signed ++ stack) tree = close stack (signedBy signs tree) := by
  unfold close
  rw [reduce_signs]

theorem run_parenthesis (signs : List Sign) :
    (ReaderState.complete (signs.map .signed ++ .parenthesis :: stack) tree).run
        (.mark ')' :: rest) =
      (ReaderState.complete stack (signedBy signs tree)).run rest :=
  run_cons_of_step (close_signs signs (.parenthesis :: stack) tree)

theorem run_argument (signs : List Sign) (receiver : Tree) (name : String) :
    (ReaderState.complete (signs.map .signed ++ .argument receiver name :: stack) tree).run
        (.mark ')' :: rest) =
      (ReaderState.complete stack (.invokedWith receiver name (signedBy signs tree))).run rest :=
  run_cons_of_step (close_signs signs (.argument receiver name :: stack) tree)

theorem run_binaryOperator {operator : List Char} {rank : Nat}
    (h : precedence? (String.ofList operator) = some rank) (signs : List Sign) :
    (ReaderState.complete (signs.map .signed ++ .parenthesis :: stack) tree).run
        (.operator operator :: rest) =
      (ReaderState.operand (.infixed rank (String.ofList operator) (signedBy signs tree) ::
        .parenthesis :: stack)).run rest := by
  have hReduced : reduce rank (signs.map .signed ++ .parenthesis :: stack) tree =
      (.parenthesis :: stack, signedBy signs tree) := reduce_signs rank signs _ tree
  apply run_cons_of_step
  change readAfterOperand _ tree (.operator operator) = _
  simp only [readAfterOperand, h, hReduced, Option.bind_eq_bind, Option.bind_some]

theorem run_infixed (signs : List Sign) (rank : Nat) (operator : String) (left : Tree) :
    (ReaderState.complete
        (signs.map .signed ++ .infixed rank operator left :: .parenthesis :: stack) tree).run
        (.mark ')' :: rest) =
      (ReaderState.complete stack (.infixed operator left (signedBy signs tree))).run rest := by
  have hReduced : reduce 0 (.infixed rank operator left :: .parenthesis :: stack)
      (signedBy signs tree) =
        (.parenthesis :: stack, .infixed operator left (signedBy signs tree)) :=
    if_pos (Nat.zero_le rank)
  apply run_cons_of_step
  change close _ tree = _
  rw [close_signs]
  unfold close
  rw [hReduced]

theorem run_access (letters : List Char) :
    (ReaderState.complete stack tree).run (.mark '.' :: .word letters :: .mark '(' :: rest) =
      (ReaderState.arguments stack tree (String.ofList letters)).run rest := rfl

/-- Without a closing parenthesis the argument is read as any operand. -/
theorem run_arguments {token : Token} (h : token ≠ .mark ')') (name : String) :
    (ReaderState.arguments stack tree name).run (token :: rest) =
      (ReaderState.operand (.argument tree name :: stack)).run (token :: rest) := by
  have hStep : (ReaderState.arguments stack tree name).step token =
      (ReaderState.operand (.argument tree name :: stack)).step token := if_neg h
  change ((ReaderState.arguments stack tree name).step token).bind _ = _
  rw [hStep]
  rfl

end Steps

example : read "-x.ToString()" =
    some (.signed (.operator "-") (.invoked (.name "x") "ToString")) := by
  decide

example : read "(a * -2 + b)" = some (.infixed "+"
    (.infixed "*" (.name "a") (.signed (.operator "-") (.number "2"))) (.name "b")) := by
  decide

end KotlinBackend.Output
