import KotlinBackend.Data.Tally

/-!
# Output trees

What is to be written, before it is laid out: a small closed set of formatting nodes. Layouts decide
where lines end.
-/

namespace KotlinBackend.Output

inductive Join where
  /-- On one line, with a separator. -/
  | inline (separator : String)
  /-- One item on a line. -/
  | lines
  /-- One item on a line, with an empty line between items. -/
  | paragraphs
  deriving DecidableEq, Repr

mutual

inductive Code where
  | nothing
  | list (items : List Code) (join : Join)
  | text (content : String)
  | multiline (texts : List String)
  /-- A string template. -/
  | interpolation (parts : List Part)
  /-- A line followed by an indented body in braces. -/
  | block (header : Code) (body : List Code)
  /-- A statement in lines, an expression on one line. -/
  | conditional (condition thenBranch : Code) (elseBranch : Option Code)

inductive Part where
  | text (content : String)
  | hole (code : Code)

end

instance : Inhabited Code := ⟨.nothing⟩

instance : Inhabited Part := ⟨.text ""⟩

namespace Code

def inline (items : List Code) (separator : String) : Code := .list items (.inline separator)

def glue (items : List Code) : Code := .inline items ""

/-- Words with blanks between them; empty words are left out. -/
def words (items : List String) : Code :=
  .inline ((items.filter (!·.isEmpty)).map .text) " "

def inLines (items : List Code) : Code := .list items .lines

def paragraphs (items : List Code) : Code := .list items .paragraphs

def statement (code : Code) : Code := glue [code, .text ";"]

def isNothing : Code → Bool
  | nothing => true
  | _ => false

def isConditional : Code → Bool
  | conditional .. => true
  | _ => false

def kind : Code → String
  | nothing => "None"
  | list .. => "List"
  | text _ => "Text"
  | multiline _ => "Multiline"
  | interpolation _ => "Interpolation"
  | block .. => "Block"
  | conditional .. => "If"

/-- What stands for a shape that has no code. -/
def marker (shape : String) : Code := .text ("/* UNSUPPORTED: " ++ shape ++ " */")

def mark (shape : String) : Tally Code := .once (.marker shape)

end Code

end KotlinBackend.Output
