import KotlinBackend.Json.Value

/-!
# Reading JSON text

The reader goes through the characters once. Every step takes one unit of fuel; three units for each
character are enough, because a character is read at least at every third step. A fault says where
the text leaves the grammar and how far the reader had come. What follows the grammar and denotes no
data is read as an unreadable value: arrays and objects, for one, may be nested less than 128 deep.
-/

namespace KotlinBackend.Json

inductive Fault.Cause where
  | endOfValue
  | endOfList
  | endOfObject
  | endOfString
  | expectedValue
  | expectedWord
  | expectedColon
  | expectedListComma
  | expectedObjectComma
  | keyNotString
  | trailingComma
  | trailingCharacters
  | invalidNumber
  | invalidEscape
  | controlCharacter
  deriving DecidableEq, Repr

def Fault.Cause.message : Fault.Cause → String
  | endOfValue => "EOF while parsing a value"
  | endOfList => "EOF while parsing a list"
  | endOfObject => "EOF while parsing an object"
  | endOfString => "EOF while parsing a string"
  | expectedValue => "expected value"
  | expectedWord => "expected ident"
  | expectedColon => "expected `:`"
  | expectedListComma => "expected `,` or `]`"
  | expectedObjectComma => "expected `,` or `\x7d`"
  | keyNotString => "key must be a string"
  | trailingComma => "trailing comma"
  | trailingCharacters => "trailing characters"
  | invalidNumber => "invalid number"
  | invalidEscape => "invalid escape"
  | controlCharacter => "control character (\\u0000-\\u001F) found while parsing a string"

/-- A cause together with the unread text; `ahead` marks a fault found by looking at the next
character without reading it. -/
structure Fault where
  cause : Fault.Cause
  rest : List Char
  ahead : Bool

def failAhead (cause : Fault.Cause) (rest : List Char) : Except Fault α :=
  .error ⟨cause, rest, true⟩

def failHere (cause : Fault.Cause) (rest : List Char) : Except Fault α :=
  .error ⟨cause, rest, false⟩

def isSpace (c : Char) : Bool := c == ' ' || c == '\n' || c == '\t' || c == '\r'

def skipSpace (text : List Char) : List Char := text.dropWhile isSpace

def readWord (value : Json) : (word text : List Char) → Except Fault (Json × List Char)
  | [], text => .ok (value, text)
  | _ :: _, [] => failHere .endOfValue []
  | w :: word, c :: text => if w = c then readWord value word text else failHere .expectedWord text

def hexValue? (c : Char) : Option Nat :=
  if '0' ≤ c ∧ c ≤ '9' then some (c.toNat - '0'.toNat)
  else if 'a' ≤ c ∧ c ≤ 'f' then some (c.toNat - 'a'.toNat + 10)
  else if 'A' ≤ c ∧ c ≤ 'F' then some (c.toNat - 'A'.toNat + 10)
  else none

def readHex : List Char → Except Fault (Nat × List Char)
  | a :: b :: c :: d :: text =>
    match hexValue? a, hexValue? b, hexValue? c, hexValue? d with
    | some a, some b, some c, some d => .ok (((a * 16 + b) * 16 + c) * 16 + d, text)
    | _, _, _, _ => failHere .invalidEscape text
  | _ => failHere .endOfString []

def isLeading (code : Nat) : Bool := 0xd800 ≤ code && code ≤ 0xdbff

def isTrailing (code : Nat) : Bool := 0xdc00 ≤ code && code ≤ 0xdfff

/-- The characters of codes given from the last to the first, put before those that are done. Code
points above the first plane are written as a pair of surrogates; a surrogate without its partner is
no character. -/
def charsOfCodes? : (codes : List Nat) → (done : List Char) → Option (List Char)
  | [], done => some done
  | [code], done =>
    if isLeading code || isTrailing code then none else some (Char.ofNat code :: done)
  | code :: before :: codes, done =>
    if isLeading before && isTrailing code then
      let c := Char.ofNat (0x10000 + (before - 0xd800) * 0x400 + (code - 0xdc00))
      charsOfCodes? codes (c :: done)
    else if isLeading code || isTrailing code then none
    else charsOfCodes? (before :: codes) (Char.ofNat code :: done)

/-- The rest of a string after its opening quote. The codes read so far are given from the last to
the first. There is no string if one of them is a surrogate without its partner. -/
def readString (fuel : Nat) (codes : List Nat) (text : List Char) :
    Except Fault (Option String × List Char) :=
  match fuel, text with
  | 0, _ | _, [] => failHere .endOfString []
  | fuel + 1, c :: text =>
    if c = '"' then .ok ((charsOfCodes? codes []).map String.ofList, text)
    else if c = '\\' then
      match text with
      | [] => failHere .endOfString []
      | 'u' :: text => do
        let (code, text) ← readHex text
        readString fuel (code :: codes) text
      | e :: text =>
        match ['"', '\\', '/', 'b', 'f', 'n', 'r', 't'].zip
            ['"', '\\', '/', '\x08', '\x0c', '\n', '\r', '\t'] |>.lookup e with
        | some c => readString fuel (c.toNat :: codes) text
        | none => failHere .invalidEscape text
    else if c.toNat < 0x20 then failHere .controlCharacter text
    else readString fuel (c.toNat :: codes) text

def natOfDigits (digits : List Char) : Nat :=
  digits.foldl (fun n d => 10 * n + (d.toNat - '0'.toNat)) 0

def readExponent (text : List Char) : Except Fault (Int × List Char) := do
  let (negative, text) := match text with
    | '+' :: text => (false, text)
    | '-' :: text => (true, text)
    | text => (false, text)
  match text with
  | [] => failHere .endOfValue []
  | c :: rest =>
    if c.isDigit then
      let n : Int := natOfDigits (text.takeWhile Char.isDigit)
      .ok (if negative then -n else n, text.dropWhile Char.isDigit)
    else failHere .invalidNumber rest

/-- A number after its sign. The integer part has no leading zeros, and a point is followed by at
least one digit. -/
def readNumber (negative : Bool) (text : List Char) : Except Fault (Json × List Char) := do
  let whole := text.takeWhile Char.isDigit
  let rest := text.dropWhile Char.isDigit
  match whole, text with
  | [], [] => failHere .endOfValue []
  | [], _ :: text => failHere .invalidNumber text
  | '0' :: _ :: _, _ => failAhead .invalidNumber (text.drop 1)
  | _, _ =>
    let (fraction, rest) ← match rest with
      | '.' :: rest =>
        match rest.takeWhile Char.isDigit, rest with
        | [], [] => failAhead .endOfValue []
        | [], rest => failAhead .invalidNumber rest
        | fraction, rest => .ok (fraction, rest.dropWhile Char.isDigit)
      | rest => .ok ([], rest)
    let (exponent, rest) ← match rest with
      | 'e' :: rest | 'E' :: rest => do
        let (n, rest) ← readExponent rest
        .ok (some n, rest)
      | rest => .ok (none, rest)
    let number := match fraction, exponent with
      | [], none => Number.ofInteger? negative (natOfDigits whole)
      | _, _ =>
        let coefficient := natOfDigits (whole ++ fraction)
        Number.ofDecimal? negative ⟨coefficient, exponent.getD 0 - fraction.length⟩
    match number with
    | some n => .ok (.number n, rest)
    | none => .ok (.unreadable .numberOutOfRange, rest)

def ofString? : Option String → Json
  | some s => .string s
  | none => .unreadable .loneSurrogate

def ofMembers? (members : List (Option String × Json)) : Json :=
  match members.mapM fun (name, value) => name.map (·, value) with
  | some members => .object members
  | none => .unreadable .loneSurrogate

mutual

/-- A value. `levels` is the number of arrays and objects that may still be opened and one more. -/
def readValue (fuel levels : Nat) (text : List Char) : Except Fault (Json × List Char) :=
  match fuel with
  | 0 => failAhead .endOfValue text
  | fuel + 1 =>
    match skipSpace text with
    | [] => failAhead .endOfValue []
    | 'n' :: text => readWord .null ['u', 'l', 'l'] text
    | 't' :: text => readWord (.bool true) ['r', 'u', 'e'] text
    | 'f' :: text => readWord (.bool false) ['a', 'l', 's', 'e'] text
    | '"' :: text => do
      let (s, text) ← readString fuel [] text
      .ok (ofString? s, text)
    | '-' :: text => readNumber true text
    | '[' :: text => do
      let (items, text) ← readItems fuel (levels - 1) true text
      .ok (if levels ≤ 1 then .unreadable .tooDeep else .array items, text)
    | '{' :: text => do
      let (members, text) ← readMembers fuel (levels - 1) true text
      .ok (if levels ≤ 1 then .unreadable .tooDeep else ofMembers? members, text)
    | c :: text =>
      if c.isDigit then readNumber false (c :: text) else failAhead .expectedValue (c :: text)

/-- The items of an array up to its end; `first` holds before the first item. -/
def readItems (fuel levels : Nat) (first : Bool) (text : List Char) :
    Except Fault (List Json × List Char) :=
  match fuel with
  | 0 => failAhead .endOfList text
  | fuel + 1 =>
    match skipSpace text with
    | [] => failAhead .endOfList []
    | ']' :: text => .ok ([], text)
    | c :: text =>
      if first then readItem fuel levels (c :: text)
      else if c = ',' then
        match skipSpace text with
        | [] => failAhead .endOfValue []
        | ']' :: text => failAhead .trailingComma (']' :: text)
        | text => readItem fuel levels text
      else failAhead .expectedListComma (c :: text)

def readItem (fuel levels : Nat) (text : List Char) : Except Fault (List Json × List Char) :=
  match fuel with
  | 0 => failAhead .endOfList text
  | fuel + 1 => do
    let (item, text) ← readValue fuel levels text
    let (items, text) ← readItems fuel levels false text
    .ok (item :: items, text)

/-- The members of an object up to its end; `first` holds before the first member. -/
def readMembers (fuel levels : Nat) (first : Bool) (text : List Char) :
    Except Fault (List (Option String × Json) × List Char) :=
  match fuel with
  | 0 => failAhead .endOfObject text
  | fuel + 1 =>
    match skipSpace text with
    | [] => failAhead .endOfObject []
    | '}' :: text => .ok ([], text)
    | c :: text =>
      if first then readMember fuel levels (c :: text)
      else if c = ',' then
        match skipSpace text with
        | [] => failAhead .endOfValue []
        | '}' :: text => failAhead .trailingComma ('}' :: text)
        | text => readMember fuel levels text
      else failAhead .expectedObjectComma (c :: text)

def readMember (fuel levels : Nat) (text : List Char) :
    Except Fault (List (Option String × Json) × List Char) :=
  match fuel, text with
  | 0, _ => failAhead .endOfObject text
  | fuel + 1, '"' :: text => do
    let (name, text) ← readString fuel [] text
    match skipSpace text with
    | ':' :: text =>
      let (value, text) ← readValue fuel levels text
      let (members, text) ← readMembers fuel levels false text
      .ok ((name, value) :: members, text)
    | [] => failAhead .endOfObject []
    | text => failAhead .expectedColon text
  | _, _ => failAhead .keyNotString text

end

/-- A place in a text: lines count from one, columns count the bytes before it. -/
structure Place where
  line : Nat
  column : Nat

/-- The place after a number of characters, plus a number of bytes. -/
def placeAfter (text : List Char) (count extra : Nat) : Place :=
  let before := text.take count
  let line := before.reverse.takeWhile (· != '\n')
  ⟨before.count '\n' + 1, (String.ofList line).utf8ByteSize + extra⟩

def Fault.place (f : Fault) (text : List Char) : Place :=
  placeAfter text (text.length - f.rest.length) (if f.ahead ∧ ¬ f.rest.isEmpty then 1 else 0)

def Place.message (p : Place) : String :=
  " at line " ++ toString p.line ++ " column " ++ toString p.column

def readAll (text : List Char) : Except Fault Json :=
  match readValue (3 * text.length + 3) 128 text with
  | .error fault => .error fault
  | .ok (value, rest) =>
    match skipSpace rest with
    | [] => .ok value
    | rest => .error ⟨.trailingCharacters, rest, true⟩

/-- The place where the blanks at the end of a text start. -/
def endPlace (text : List Char) : Place :=
  placeAfter text (text.reverse.dropWhile isSpace).length 0

/-- The value of a text that follows the grammar, or the message for the first fault in it. Parts of
the value may be unreadable. -/
def read (text : String) : Except String Json :=
  match readAll text.toList with
  | .ok value => .ok value
  | .error fault => .error (fault.cause.message ++ (fault.place text.toList).message)

def parse (text : String) : Except String Json := do
  let value ← read text
  match value.defect? with
  | none => .ok value
  | some defect => .error (defect.message ++ (endPlace text.toList).message)

def parse? (text : String) : Option Json := (parse text).toOption

end KotlinBackend.Json
