import KotlinBackend.Output.Code
import KotlinBackend.Output.Escape
import KotlinBackend.Text.Split

/-!
# Layouts of output trees

A tree can be written on a single line, or as lines that are indented by their depth. A conditional
is an expression on a single line and a statement in lines.
-/

namespace KotlinBackend.Output

mutual

def Code.onOneLine : Code → String
  | .nothing => ""
  | .text content => content
  | .multiline texts => String.intercalate " " texts
  | .list items (.inline separator) => String.intercalate separator (Code.itemsOnOneLine items)
  | .list items .lines => String.intercalate " " (Code.itemsOnOneLine items)
  | .list items .paragraphs => String.intercalate " " (Code.itemsOnOneLine items)
  | .interpolation parts => "$\"" ++ Part.allOnOneLine parts ++ "\""
  | .block header body =>
    let header := header.onOneLine
    String.intercalate " " ((if header.isEmpty then [] else [header]) ++ "\x7b" ::
      (Code.itemsOnOneLine body ++ ["\x7d"]))
  | .conditional condition thenBranch elseBranch =>
    "(" ++ condition.onOneLine ++ " ? " ++ thenBranch.onOneLine ++ " : " ++
      Code.elseOnOneLine elseBranch ++ ")"

/-- The items of a list, each on a single line; items that say nothing are left out. -/
def Code.itemsOnOneLine : List Code → List String
  | [] => []
  | item :: rest =>
    if item.isNothing then Code.itemsOnOneLine rest
    else item.onOneLine :: Code.itemsOnOneLine rest

def Part.onOneLine : Part → String
  | .text content => escapeTemplate content
  | .hole code => "\x7b" ++ code.onOneLine ++ "\x7d"

def Part.allOnOneLine : List Part → String
  | [] => ""
  | part :: rest => part.onOneLine ++ Part.allOnOneLine rest

def Code.elseOnOneLine : Option Code → String
  | none => "default"
  | some code => code.onOneLine

end

/-- A line at a depth. An empty line has no indent. -/
def lineAt (indent : String) (depth : Nat) (text : String) : String :=
  if text.isEmpty then "" else Text.replicate depth indent ++ text

def bracedLines (indent : String) (depth : Nat) (lines : List String) : List String :=
  lineAt indent depth "\x7b" :: (lines ++ [lineAt indent depth "\x7d"])

/-- The lines of a conditional as the continuation of another one. -/
def chainedLines (indent : String) (depth : Nat) : List String → List String
  | [] => []
  | first :: rest => (Text.replicate depth indent ++ "else " ++ Text.trimStart first) :: rest

/-- An empty line, except before the first of several paragraphs. -/
def paragraphGap (first : Bool) : List String := if first then [] else [""]

mutual

def Code.lines (indent : String) (depth : Nat) : Code → List String
  | .nothing => []
  | .text content => [lineAt indent depth content]
  | .multiline texts => texts.map (lineAt indent depth)
  | .list items (.inline separator) =>
    [lineAt indent depth (Code.list items (.inline separator)).onOneLine]
  | .list items .lines => Code.linesOfItems indent depth items
  | .list items .paragraphs => Code.linesOfParagraphs indent depth true items
  | .interpolation parts => [lineAt indent depth (Code.interpolation parts).onOneLine]
  | .block header body =>
    let header := header.onOneLine
    (if header.isEmpty then [] else [lineAt indent depth header]) ++
      bracedLines indent depth (Code.linesOfItems indent (depth + 1) body)
  | .conditional condition thenBranch elseBranch =>
    lineAt indent depth ("if (" ++ condition.onOneLine ++ ")") ::
      (bracedLines indent depth (thenBranch.lines indent (depth + 1)) ++
        Code.linesOfElse indent depth elseBranch)

def Code.linesOfItems (indent : String) (depth : Nat) : List Code → List String
  | [] => []
  | item :: rest => item.lines indent depth ++ Code.linesOfItems indent depth rest

def Code.linesOfParagraphs (indent : String) (depth : Nat) (first : Bool) :
    List Code → List String
  | [] => []
  | item :: rest =>
    if item.isNothing then Code.linesOfParagraphs indent depth first rest
    else paragraphGap first ++ item.lines indent depth ++
      Code.linesOfParagraphs indent depth false rest

def Code.linesOfElse (indent : String) (depth : Nat) : Option Code → List String
  | none => []
  | some code =>
    if code.isConditional then chainedLines indent depth (code.lines indent depth)
    else lineAt indent depth "else" ::
      bracedLines indent depth (code.lines indent (depth + 1))

end

def standardIndent : String := "    "

/-- The text of a tree in lines. A text that is not empty ends with a line break. -/
def Code.layout (code : Code) (indent : String) : String :=
  let text := String.intercalate "\n" (code.lines indent 0)
  if text.isEmpty then "" else text ++ "\n"

end KotlinBackend.Output
