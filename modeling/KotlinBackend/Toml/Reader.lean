import KotlinBackend.Toml.Quoted
import KotlinBackend.Toml.Scalar
import KotlinBackend.Toml.Table

/-!
# Reading TOML

A document is a sequence of lines: headers of tables, and keys with their values. Lists may go over
several lines, tables in braces may not. Both may be nested less than 80 deep, and a key has less
than 80 parts.
-/

namespace KotlinBackend.Toml

def isKeyChar (c : Char) : Bool := c.isAlphanum || c == '_' || c == '-'

def readKeyPart : Reader String
  | '"' :: text => readLine ('"' :: text)
  | '\'' :: text => readLine ('\'' :: text)
  | text =>
    match text.takeWhile isKeyChar with
    | [] => .error (.expected "a key")
    | part => .ok (String.ofList part, text.dropWhile isKeyChar)

/-- A key: parts with dots between them, the last one by itself. -/
def readKey (fuel : Nat) (path : List String) : Reader (List String × String) := fun text => do
  let (part, rest) ← readKeyPart (skipSpace text)
  match fuel, skipSpace rest with
  | fuel + 1, '.' :: rest => readKey fuel (path ++ [part]) rest
  | _, rest => if path.length + 1 < nestingLimit then .ok ((path, part), rest) else .error .tooDeep

def skipLines (fuel : Nat) (text : List Char) : List Char :=
  match fuel, skipSpace text with
  | fuel + 1, '#' :: comment => skipLines fuel (comment.dropWhile isPlain)
  | fuel + 1, rest =>
    match newline? rest with
    | some next => skipLines fuel next
    | none => rest
  | 0, rest => rest

mutual

def readValue (fuel depth : Nat) : Reader Value := fun text =>
  match fuel, text with
  | 0, _ => .error (.expected "a value")
  | _ + 1, '"' :: _ | _ + 1, '\'' :: _ => do
    let (content, rest) ← readQuoted text
    .ok (.text content, rest)
  | fuel + 1, '[' :: text =>
    if depth + 1 < nestingLimit then do
      let (items, rest) ← readItems fuel (depth + 1) text
      .ok (.list items, rest)
    else .error .tooDeep
  | fuel + 1, '{' :: text =>
    if depth + 1 < nestingLimit then
      match skipSpace text with
      | '}' :: rest => .ok (.table [], rest)
      | text => do
        let (entries, rest) ← readPairs fuel (depth + 1) [] text
        .ok (.table (Node.finishEntries entries), rest)
    else .error .tooDeep
  | _ + 1, text => readScalar text

def readItems (fuel depth : Nat) : Reader (List Value) := fun text =>
  match fuel, skipLines text.length text with
  | 0, _ => .error (.expected "a closing bracket")
  | _ + 1, ']' :: rest => .ok ([], rest)
  | fuel + 1, text => do
    let (item, rest) ← readValue fuel depth text
    match skipLines rest.length rest with
    | ',' :: rest =>
      let (items, rest) ← readItems fuel depth rest
      .ok (item :: items, rest)
    | ']' :: rest => .ok ([item], rest)
    | _ => .error (.expected "a comma or a closing bracket")

/-- The pairs of a table in braces up to its end, added to those before them. -/
def readPairs (fuel depth : Nat) (entries : Entries) : Reader Entries := fun text =>
  match fuel with
  | 0 => .error (.expected "a closing brace")
  | fuel + 1 => do
    let ((path, key, value), rest) ← readPair fuel depth text
    let entries ← entries.assign path key value
    match skipSpace rest with
    | ',' :: rest => readPairs fuel depth entries rest
    | '}' :: rest => .ok (entries, rest)
    | _ => .error (.expected "a comma or a closing brace")

def readPair (fuel depth : Nat) : Reader (List String × String × Value) := fun text =>
  match fuel with
  | 0 => .error (.expected "a key")
  | fuel + 1 => do
    let ((path, key), rest) ← readKey text.length [] text
    match rest with
    | '=' :: rest =>
      let (value, rest) ← readValue fuel depth (skipSpace rest)
      .ok ((path, key, value), rest)
    | _ => .error (.expected "an equals sign")

end

def readLines (fuel : Nat) (entries : Entries) (header : List String) (text : List Char) :
    Except Fault Entries :=
  match fuel with
  | 0 => .ok entries
  | fuel + 1 =>
    match skipLines text.length text with
    | [] => .ok entries
    | '[' :: '[' :: rest => do
      let ((path, key), rest) ← readKey rest.length [] rest
      match rest with
      | ']' :: ']' :: rest =>
        let rest ← readLineEnd rest
        let entries ← entries.openItem path key
        readLines fuel entries (path ++ [key]) rest
      | _ => .error (.expected "closing brackets")
    | '[' :: rest => do
      let ((path, key), rest) ← readKey rest.length [] rest
      match rest with
      | ']' :: rest =>
        let rest ← readLineEnd rest
        let entries ← entries.openTable path key
        readLines fuel entries (path ++ [key]) rest
      | _ => .error (.expected "a closing bracket")
    | text => do
      let ((path, key, value), rest) ← readPair (text.length + 2) 0 text
      let rest ← readLineEnd rest
      let entries ← entries.inHeader (Entries.assign path key value) header
      readLines fuel entries header rest

/-- The table that a document describes. A mark of the byte order at its start does not count. -/
def parse (text : String) : Except Fault (List (String × Value)) := do
  let chars := match text.toList with
    | '\ufeff' :: rest => rest
    | chars => chars
  let entries ← readLines (chars.length + 1) [] [] chars
  .ok (Node.finishEntries entries)

end KotlinBackend.Toml
