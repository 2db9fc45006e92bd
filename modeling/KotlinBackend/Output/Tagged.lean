import KotlinBackend.Output.Code
import KotlinBackend.Text.Split

/-!
# Tagged text of output trees

Every node of a tree is written inside a tag named after its kind, for looking at the tree itself.
-/

namespace KotlinBackend.Output

def escapeTagChar (c : Char) : List Char :=
  if c = '&' then "&amp;".toList
  else if c = '<' then "&lt;".toList
  else if c = '>' then "&gt;".toList
  else if c = '"' then "&quot;".toList
  else [c]

def escapeTag (text : String) : String := String.ofList (text.toList.flatMap escapeTagChar)

def Join.attribute : Join → String
  | .inline separator => "inline:" ++ escapeTag separator
  | .lines => "lines"
  | .paragraphs => "paragraphs"

def taggedLine (depth : Nat) (text : String) : String := Text.replicate depth "  " ++ text

/-- Lines between the opening and the closing of a tag. -/
def tagged (depth : Nat) (opening closing : String) (children : List String) : List String :=
  taggedLine depth ("<" ++ opening ++ ">") ::
    (children ++ [taggedLine depth ("</" ++ closing ++ ">")])

def taggedText (depth : Nat) (tag text : String) : String :=
  taggedLine depth ("<" ++ tag ++ ">" ++ escapeTag text ++ "</" ++ tag ++ ">")

mutual

def Code.taggedLines (depth : Nat) : Code → List String
  | .nothing => [taggedLine depth "<None/>"]
  | .text content => [taggedText depth "Text" content]
  | .multiline texts =>
    tagged depth "Multiline" "Multiline" (texts.map (taggedText (depth + 1) "Line"))
  | .list items join =>
    tagged depth ("List join=\"" ++ join.attribute ++ "\"") "List"
      (Code.taggedItems (depth + 1) items)
  | .interpolation parts =>
    tagged depth "Interpolation" "Interpolation" (Part.taggedParts (depth + 1) parts)
  | .block header body =>
    tagged depth "Block" "Block"
      (tagged (depth + 1) "Header" "Header" (header.taggedLines (depth + 2)) ++
        tagged (depth + 1) "Body" "Body" (Code.taggedItems (depth + 2) body))
  | .conditional condition thenBranch elseBranch =>
    tagged depth "If" "If"
      (tagged (depth + 1) "Condition" "Condition" (condition.taggedLines (depth + 2)) ++
        tagged (depth + 1) "Then" "Then" (thenBranch.taggedLines (depth + 2)) ++
        Code.taggedElse (depth + 1) elseBranch)

def Code.taggedItems (depth : Nat) : List Code → List String
  | [] => []
  | item :: rest => item.taggedLines depth ++ Code.taggedItems depth rest

def Part.taggedParts (depth : Nat) : List Part → List String
  | [] => []
  | .text content :: rest => taggedText depth "Part" content :: Part.taggedParts depth rest
  | .hole code :: rest => code.taggedLines depth ++ Part.taggedParts depth rest

def Code.taggedElse (depth : Nat) : Option Code → List String
  | none => []
  | some code => tagged depth "Else" "Else" (code.taggedLines (depth + 1))

end

def Code.taggedLayout (code : Code) : String :=
  String.join ((code.taggedLines 0).map (· ++ "\n"))

end KotlinBackend.Output
