import KotlinBackend.Text.Unprintable

/-!
# Quoted text in messages and listings

A quoted text shows its unprintable characters by short escapes or by their number in braces. Which
of the two quote marks is escaped depends on what is quoted: a string escapes `"`, and a single
character escapes `'`.
-/

namespace KotlinBackend.Text

/-- The quote marks that are escaped inside a quoted text. -/
structure QuoteStyle where
  single : Bool
  double : Bool

def stringStyle : QuoteStyle := ⟨false, true⟩

def characterStyle : QuoteStyle := ⟨true, false⟩

/-- Lower-case hexadecimal digits without leading zeros. -/
def hexDigits (n : Nat) : List Char := Nat.toDigits 16 n

def quoteChar (style : QuoteStyle) (c : Char) : List Char :=
  if c = '\x00' then ['\\', '0']
  else if c = '\t' then ['\\', 't']
  else if c = '\r' then ['\\', 'r']
  else if c = '\n' then ['\\', 'n']
  else if c = '\\' then ['\\', '\\']
  else if c = '"' then (if style.double then ['\\', '"'] else ['"'])
  else if c = '\'' then (if style.single then ['\\', '\''] else ['\''])
  else if isUnprintable c then ['\\', 'u', '{'] ++ hexDigits c.toNat ++ ['}']
  else [c]

def quoteBody (style : QuoteStyle) (text : String) : String :=
  String.ofList (text.toList.flatMap (quoteChar style))

def quoteString (text : String) : String := "\"" ++ quoteBody stringStyle text ++ "\""

def quoteCharacter (c : Char) : String :=
  "'" ++ String.ofList (quoteChar characterStyle c) ++ "'"

end KotlinBackend.Text
