import KotlinBackend.Json.Reader

/-!
# From JSON values to data

A decoder takes a value apart and says where its shape is wrong. A structure is an object whose
unknown members are ignored; a choice is a string for a variant without data and an object with one
member for a variant with data.
-/

namespace KotlinBackend.Json

/-- How a value fails to be the data that is asked for. -/
inductive Mismatch where
  | missing (name : String)
  | repeated (name : String)
  | kind (found expected : String)
  | range (n : Int) (expected : String)
  | unknownVariant (name : String)
  | malformed (reason : String)
  deriving DecidableEq, Repr

def Mismatch.message : Mismatch → String
  | missing name => "missing field `" ++ name ++ "`"
  | repeated name => "duplicate field `" ++ name ++ "`"
  | kind found expected => "invalid type: " ++ found ++ ", expected " ++ expected
  | range n expected => "invalid value: integer `" ++ toString n ++ "`, expected " ++ expected
  | unknownVariant name => "unknown variant `" ++ name ++ "`"
  | malformed reason => reason

abbrev Decoder (α : Type) := Json → Except Mismatch α

def kindName : Json → String
  | .null => "null"
  | .bool b => "boolean `" ++ toString b ++ "`"
  | .number (.integer n) => "integer `" ++ toString n ++ "`"
  | .number n => "floating point `" ++ (Decimal.Numeral.ofFloat n.toFloat).text
      Decimal.documentLayout ++ "`"
  | .string s => "string \"" ++ s ++ "\""
  | .array _ => "sequence"
  | .object _ => "map"
  | .unreadable defect => defect.message

def unexpected (value : Json) (expected : String) : Except Mismatch α :=
  match value with
  | .unreadable defect => .error (.malformed defect.message)
  | value => .error (.kind value.kindName expected)

/-- The value is nested more deeply than its decoder goes. -/
def tooDeep : Except Mismatch α := .error (.malformed "value is nested too deeply")

def decodeString : Decoder String
  | .string s => .ok s
  | value => unexpected value "a string"

def decodeBool : Decoder Bool
  | .bool b => .ok b
  | value => unexpected value "a boolean"

def decodeInt (least most : Int) (expected : String) : Decoder Int
  | .number (.integer n) => if least ≤ n ∧ n ≤ most then .ok n else .error (.range n expected)
  | value => unexpected value expected

def decodeNumber (expected : String) : Decoder Number
  | .number n => .ok n
  | value => unexpected value expected

/-- An optional value; `null` means that there is none. -/
def decodeOption (decode : Decoder α) : Decoder (Option α)
  | .null => .ok none
  | value => some <$> decode value

def decodeList (decode : Decoder α) : Decoder (List α)
  | .array items => items.mapM decode
  | value => unexpected value "a sequence"

def decodeMembers (expected : String) : Decoder (List (String × Json))
  | .object members => .ok members
  | value => unexpected value expected

/-- The value of a member, if the object has it. No name may occur twice. -/
def member? (members : List (String × Json)) (name : String) : Except Mismatch (Option Json) :=
  match members.filter (·.1 == name) with
  | [] => .ok none
  | [(_, value)] => .ok (some value)
  | _ => .error (.repeated name)

def required (members : List (String × Json)) (name : String) (decode : Decoder α) :
    Except Mismatch α := do
  match ← member? members name with
  | some value => decode value
  | none => .error (.missing name)

def defaulted (members : List (String × Json)) (name : String) (absent : α)
    (decode : Decoder α) : Except Mismatch α := do
  match ← member? members name with
  | some value => decode value
  | none => .ok absent

/-- A member that may be absent or `null`. -/
def optional (members : List (String × Json)) (name : String) (decode : Decoder α) :
    Except Mismatch (Option α) :=
  defaulted members name none (decodeOption decode)

/-- A list that is empty when it is absent. -/
def listed (members : List (String × Json)) (name : String) (decode : Decoder α) :
    Except Mismatch (List α) :=
  defaulted members name [] (decodeList decode)

/-- A flag that is off when it is absent. -/
def flag (members : List (String × Json)) (name : String) : Except Mismatch Bool :=
  defaulted members name false decodeBool

/-- A variant of a choice: its name, and its data if it was written with any. -/
structure Choice where
  name : String
  payload : Option Json

def decodeChoice : Decoder Choice
  | .string name => .ok ⟨name, none⟩
  | .object [(name, payload)] => .ok ⟨name, some payload⟩
  | value => unexpected value "a variant"

def Choice.plain (c : Choice) (value : α) : Except Mismatch α :=
  match c.payload with
  | none | some .null => .ok value
  | some payload => unexpected payload "no data"

def Choice.data (c : Choice) (decode : Decoder α) : Except Mismatch α :=
  match c.payload with
  | some payload => decode payload
  | none => unexpected (.string c.name) "a variant with data"

def Choice.unknown (c : Choice) : Except Mismatch α := .error (.unknownVariant c.name)

/-- A choice between variants without data, given by their names. -/
def decodeNamed (variants : List (String × α)) : Decoder α := fun value => do
  let c ← decodeChoice value
  match variants.lookup c.name with
  | some variant => c.plain variant
  | none => c.unknown

/-- The data that a text denotes, or the message for what is wrong with the text. Members that the
decoder ignores have only to follow the grammar. A mismatch is reported where the document ends. -/
def decodeText (decode : Decoder α) (text : String) : Except String α := do
  let value ← read text
  match decode value with
  | .ok a => .ok a
  | .error mismatch => .error (mismatch.message ++ (endPlace text.toList).message)

end KotlinBackend.Json
