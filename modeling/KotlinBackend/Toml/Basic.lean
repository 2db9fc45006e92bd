import KotlinBackend.Json.Reader
import KotlinBackend.Text.Quoted

/-!
# TOML values

The values of a configuration file, and what can be wrong with its text. Numbers with a fraction or
an exponent and points in time are only recognised; they keep their text.
-/

namespace KotlinBackend.Toml

inductive Value where
  | text (content : String)
  | integer (n : Int)
  | decimal (numeral : String)
  | moment (numeral : String)
  | truth (b : Bool)
  | list (items : List Value)
  | table (entries : List (String × Value))
  deriving Inhabited

inductive Fault where
  | expected (what : String)
  | unknownEscape
  | unknownScalar (text : String)
  | redefined (key : String)
  | notTable (key : String)
  | tooDeep
  deriving DecidableEq, Repr

def Fault.message : Fault → String
  | expected what => "expected " ++ what
  | unknownEscape => "invalid escape sequence"
  | unknownScalar text => "invalid value " ++ Text.quoteString text
  | redefined key => "duplicate key " ++ Text.quoteString key
  | notTable key => "key " ++ Text.quoteString key ++ " does not hold a table"
  | tooDeep => "recursion limit exceeded"

/-- The least number of brackets around a value, and of parts of a key, that a document may not
have. -/
def nestingLimit : Nat := 80

abbrev Reader (α : Type) := List Char → Except Fault (α × List Char)

def isSpace (c : Char) : Bool := c == ' ' || c == '\t'

def skipSpace (text : List Char) : List Char := text.dropWhile isSpace

/-- The characters that stand for themselves: tabs and whatever is no ASCII control character. -/
def isPlain (c : Char) : Bool := c == '\t' || (0x20 ≤ c.toNat && c.toNat != 0x7f)

def newline? : List Char → Option (List Char)
  | '\n' :: text => some text
  | '\r' :: '\n' :: text => some text
  | _ => none

/-- The rest of a line: spaces and a comment up to its end or the end of the text. -/
def readLineEnd (text : List Char) : Except Fault (List Char) :=
  let rest := match skipSpace text with
    | '#' :: comment => comment.dropWhile isPlain
    | rest => rest
  match rest, newline? rest with
  | [], _ => .ok []
  | _, some next => .ok next
  | _, none => .error (.expected "the end of the line")

end KotlinBackend.Toml
