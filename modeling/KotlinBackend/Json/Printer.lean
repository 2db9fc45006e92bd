import KotlinBackend.Json.Value
import KotlinBackend.Text.Quoted

/-!
# JSON text

The compact text of a value: no blanks, strings in double quotes with the short escapes, real
numbers by their shortest digits, and `null` for what denotes no data.
-/

namespace KotlinBackend.Json

def escapeChar (c : Char) : List Char :=
  if c = '"' then ['\\', '"']
  else if c = '\\' then ['\\', '\\']
  else if c = '\n' then ['\\', 'n']
  else if c = '\r' then ['\\', 'r']
  else if c = '\t' then ['\\', 't']
  else if c = '\x08' then ['\\', 'b']
  else if c = '\x0c' then ['\\', 'f']
  else if c.toNat < 0x20 then
    ['\\', 'u', '0', '0'] ++ (if c.toNat < 0x10 then ['0'] else []) ++ Text.hexDigits c.toNat
  else [c]

def quote (s : String) : String :=
  "\"" ++ String.ofList (s.toList.flatMap escapeChar) ++ "\""

def Number.text : Number → String
  | .integer n => toString n
  | n@(.real ..) => (Decimal.Numeral.ofFloat n.toFloat).text Decimal.documentLayout

mutual

def text : Json → String
  | .null => "null"
  | .bool true => "true"
  | .bool false => "false"
  | .number n => n.text
  | .string s => quote s
  | .array items => "[" ++ String.intercalate "," (itemTexts items) ++ "]"
  | .object members => "\x7b" ++ String.intercalate "," (memberTexts members) ++ "\x7d"
  | .unreadable _ => "null"

def itemTexts : List Json → List String
  | [] => []
  | item :: items => item.text :: itemTexts items

def memberTexts : List (String × Json) → List String
  | [] => []
  | (name, value) :: members => (quote name ++ ":" ++ value.text) :: memberTexts members

end

mutual

/-- The text of a value over several lines, each two blanks further in than the bracket around it;
`margin` stands before the lines after the first. -/
def linesText (margin : String) : Json → String
  | .array (item :: items) =>
    let inner := margin ++ "  "
    "[\n" ++ String.intercalate ",\n" (itemLines inner (item :: items)) ++ "\n" ++ margin ++ "]"
  | .object (member :: members) =>
    let inner := margin ++ "  "
    "\x7b\n" ++ String.intercalate ",\n" (memberLines inner (member :: members)) ++ "\n" ++
      margin ++ "\x7d"
  | .array [] => "[]"
  | .object [] => "\x7b\x7d"
  | .null => "null"
  | .bool true => "true"
  | .bool false => "false"
  | .number n => n.text
  | .string s => quote s
  | .unreadable _ => "null"

def itemLines (margin : String) : List Json → List String
  | [] => []
  | item :: items => (margin ++ item.linesText margin) :: itemLines margin items

def memberLines (margin : String) : List (String × Json) → List String
  | [] => []
  | (name, value) :: members =>
    (margin ++ quote name ++ ": " ++ value.linesText margin) :: memberLines margin members

end

mutual

/-- The same value with the members of every object in the order of their names. -/
def sortMembers : Json → Json
  | .array items => .array (sortItems items)
  | .object members =>
    .object ((sortEach members).mergeSort fun a b => decide (a.1 < b.1) || a.1 == b.1)
  | value => value

def sortItems : List Json → List Json
  | [] => []
  | item :: items => item.sortMembers :: sortItems items

def sortEach : List (String × Json) → List (String × Json)
  | [] => []
  | (name, value) :: members => (name, value.sortMembers) :: sortEach members

end

/-- The text that stands for a value where a document gives a file's content: a string is the
content itself, any other value stands for its compact text with sorted members. -/
def asContent : Json → String
  | .string s => s
  | value => value.sortMembers.text

end KotlinBackend.Json
