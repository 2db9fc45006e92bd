import KotlinBackend.Text.Blank
import KotlinBackend.Text.Quoted

/-!
# Escapes in string literals

Inside a literal a quote, a backslash and the control characters are escaped. Inside a string
template the braces are doubled as well, because a single brace opens or closes a hole.
-/

namespace KotlinBackend.Output

/-- The last four hexadecimal digits of a number, with leading zeros. -/
def fourHexDigits (n : Nat) : List Char :=
  let digits := Text.hexDigits n
  List.replicate (4 - digits.length) '0' ++ digits

def escapeChar (c : Char) : List Char :=
  if c = '"' then ['\\', '"']
  else if c = '\\' then ['\\', '\\']
  else if c = '\n' then ['\\', 'n']
  else if c = '\r' then ['\\', 'r']
  else if c = '\t' then ['\\', 't']
  else if c = '\x00' then ['\\', '0']
  else if Text.isControl c then '\\' :: 'u' :: fourHexDigits c.toNat
  else [c]

/-- A character inside the text of a string template. -/
def escapeTemplateChar (c : Char) : List Char :=
  if c = '{' then ['{', '{']
  else if c = '}' then ['}', '}']
  else escapeChar c

def escape (text : String) : String := String.ofList (text.toList.flatMap escapeChar)

def escapeTemplate (text : String) : String :=
  String.ofList (text.toList.flatMap escapeTemplateChar)

end KotlinBackend.Output
