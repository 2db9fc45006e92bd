import KotlinBackend.Toml.Basic

/-!
# Quoted text

Text stands in double quotes, where a backslash starts an escape, or in single quotes, where every
character stands for itself. Three quotes enclose text of several lines; a line end right after them
does not count.
-/

namespace KotlinBackend.Toml

def readCode (width : Nat) : Reader Char := fun text =>
  let digits := text.take width
  if digits.length = width ∧ digits.all (fun c => (Json.hexValue? c).isSome) then
    let code := digits.foldl (fun n c => 16 * n + (Json.hexValue? c).getD 0) 0
    if code.isValidChar then .ok (Char.ofNat code, text.drop width) else .error .unknownEscape
  else .error .unknownEscape

def readEscape : Reader Char
  | 'b' :: text => .ok ('\x08', text)
  | 't' :: text => .ok ('\t', text)
  | 'n' :: text => .ok ('\n', text)
  | 'f' :: text => .ok ('\x0c', text)
  | 'r' :: text => .ok ('\r', text)
  | '"' :: text => .ok ('"', text)
  | '\\' :: text => .ok ('\\', text)
  | 'u' :: text => readCode 4 text
  | 'U' :: text => readCode 8 text
  | _ => .error .unknownEscape

def readBasic (fuel : Nat) (done text : List Char) : Except Fault (String × List Char) :=
  match fuel, text with
  | _, '"' :: text => .ok (String.ofList done.reverse, text)
  | fuel + 1, '\\' :: text => do
    let (c, text) ← readEscape text
    readBasic fuel (c :: done) text
  | fuel + 1, c :: text =>
    if isPlain c then readBasic fuel (c :: done) text else .error (.expected "a closing quote")
  | _, _ => .error (.expected "a closing quote")

def readLiteral (text : List Char) : Except Fault (String × List Char) :=
  let content := text.takeWhile fun c => isPlain c && c != '\''
  match text.dropWhile fun c => isPlain c && c != '\'' with
  | '\'' :: rest => .ok (String.ofList content, rest)
  | _ => .error (.expected "a closing quote")

/-- The quotes that a text of several lines goes on with: those that belong to it, and whether it
ends after them. -/
def splitQuotes (quote : Char) (text : List Char) : List Char × Bool × List Char :=
  let run := (text.takeWhile (· == quote)).take 5
  if run.length < 3 then (run, false, text.drop run.length)
  else (run.drop 3, true, text.drop run.length)

/-- The text after a backslash at the end of a line: blanks are skipped up to the next word. -/
def afterLineEnd? (text : List Char) : Option (List Char) :=
  (newline? (skipSpace text)).map fun rest =>
    rest.dropWhile fun c => isSpace c || c == '\n' || c == '\r'

/-- The rest of a text of several lines; `escapes` holds in double quotes. -/
def readBlock (quote : Char) (escapes : Bool) (fuel : Nat) (done text : List Char) :
    Except Fault (String × List Char) :=
  match fuel, text with
  | 0, _ | _, [] => .error (.expected "closing quotes")
  | fuel + 1, c :: text =>
    if c = quote then
      match splitQuotes quote (c :: text) with
      | (quotes, true, rest) => .ok (String.ofList (quotes ++ done).reverse, rest)
      | (quotes, false, rest) => readBlock quote escapes fuel (quotes ++ done) rest
    else if c = '\\' ∧ escapes then
      match afterLineEnd? text with
      | some rest => readBlock quote escapes fuel done rest
      | none => do
        let (c, text) ← readEscape text
        readBlock quote escapes fuel (c :: done) text
    else match newline? (c :: text) with
      | some rest => readBlock quote escapes fuel ('\n' :: done) rest
      | none =>
        if isPlain c then readBlock quote escapes fuel (c :: done) text
        else .error (.expected "closing quotes")

def readLine : Reader String
  | '"' :: text => readBasic text.length [] text
  | '\'' :: text => readLiteral text
  | _ => .error (.expected "a quote")

def readQuoted : Reader String
  | '"' :: '"' :: '"' :: text => readBlock '"' true (text.length + 1) [] ((newline? text).getD text)
  | '\'' :: '\'' :: '\'' :: text =>
    readBlock '\'' false (text.length + 1) [] ((newline? text).getD text)
  | text => readLine text

def fourDigits (n : Nat) : List Char :=
  let digits := (Nat.toDigits 16 n).map Char.toUpper
  List.replicate (4 - digits.length) '0' ++ digits

/-- A control character inside double quotes; a text of several lines keeps its line ends. -/
def escapeControl (lines : Bool) (c : Char) : List Char :=
  if c = '\x08' then ['\\', 'b']
  else if c = '\t' then ['\\', 't']
  else if c = '\n' then (if lines then ['\n'] else ['\\', 'n'])
  else if c = '\x0c' then ['\\', 'f']
  else if c = '\r' then ['\\', 'r']
  else if c = '\\' then ['\\', '\\']
  else if isPlain c then [c]
  else ['\\', 'u'] ++ fourDigits c.toNat

/-- The characters of a text inside double quotes. No more than `most` quotes stand in a row
unescaped; `seen` of them stand before the text. -/
def escapeBody (lines : Bool) (most seen : Nat) : List Char → List Char
  | [] => []
  | '"' :: rest =>
    if most ≤ seen then '\\' :: '"' :: escapeBody lines most 0 rest
    else '"' :: escapeBody lines most (seen + 1) rest
  | c :: rest =>
    let escaped := escapeControl lines c
    escaped ++ escapeBody lines most 0 rest

def longestRow (c : Char) (current longest : Nat) : List Char → Nat
  | [] => longest
  | d :: rest =>
    if d = c then longestRow c (current + 1) (max (current + 1) longest) rest
    else longestRow c 0 longest rest

/-- A text in the plainest quotes that need no escapes; in double quotes with escapes if none do. -/
def quote (text : String) : String :=
  let chars := text.toList
  let hasLines := chars.contains '\n'
  let hasControls := chars.any fun c => !isPlain c && c != '\n'
  let hasBackslash := chars.contains '\\'
  let doubles := longestRow '"' 0 0 chars
  let singles := longestRow '\'' 0 0 chars
  let basic := "\"" ++ String.ofList (escapeBody false 0 0 chars) ++ "\""
  let start := if hasLines then "\n" else ""
  let basicBlock := "\"\"\"" ++ start ++ String.ofList (escapeBody true 2 0 chars) ++ "\"\"\""
  let literalBlock := "'''" ++ start ++ text ++ "'''"
  if hasControls then (if hasLines then basicBlock else basic)
  else if !hasBackslash && doubles == 0 && !hasLines then basic
  else if singles == 0 && !hasLines then "'" ++ text ++ "'"
  else if !hasBackslash && doubles ≤ 2 then basicBlock
  else if singles ≤ 2 then literalBlock
  else if hasLines then basicBlock
  else basic

end KotlinBackend.Toml
