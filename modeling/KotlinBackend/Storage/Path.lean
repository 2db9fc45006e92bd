import KotlinBackend.Text.Quoted
import KotlinBackend.Text.Split

/-!
# Paths

A path keeps its text as it was written, and two paths are the same when they have the same
components: empty components and dots do not count, except for a dot at the start. Steps upwards
are kept, since what they lead to depends on the files.
-/

namespace KotlinBackend

structure Path where
  text : String
  deriving DecidableEq, Repr, Inhabited

inductive Path.Component where
  | root
  | here
  | up
  | name (text : String)
  deriving DecidableEq, Repr, Inhabited

namespace Path

/-- The step that a piece between two slashes stands for; an empty piece stands for none. -/
def step? (piece : String) : Option Component :=
  if piece = "" then none
  else if piece = "." then some .here
  else if piece = ".." then some .up
  else some (.name piece)

/-- All steps that the text of a path spells out, its dots included. -/
def steps (p : Path) : List Component :=
  match Text.pieces '/' p.text with
  | "" :: rest => (if rest.isEmpty then [] else [.root]) ++ rest.filterMap step?
  | pieces => pieces.filterMap step?

def components (p : Path) : List Component :=
  match p.steps with
  | .here :: rest => .here :: rest.filter (· != .here)
  | steps => steps.filter (· != .here)

def same (p q : Path) : Bool := p.components == q.components

def isEmpty (p : Path) : Bool := p.text.isEmpty

/-- Whether a path can only lead to a directory, since a slash follows its last step. -/
def endsInSlash (p : Path) : Bool := Text.endsWith "/" p.text

def fileName? (p : Path) : Option String :=
  match p.components.getLast? with
  | some (.name text) => some text
  | _ => none

/-- Text from its end without the slashes and dots that do not count there. -/
def dropEnd : List Char → List Char
  | '/' :: rest => dropEnd rest
  | '.' :: '/' :: rest => dropEnd rest
  | chars => chars

/-- The path without its last component, if it has one to lose. -/
def parent? (p : Path) : Option Path :=
  if p.components.isEmpty || p.components == [.root] then none
  else
    let before := (dropEnd p.text.toList.reverse).dropWhile (· != '/')
    match dropEnd before, before with
    | [], _ :: _ => some ⟨"/"⟩
    | chars, _ => some ⟨String.ofList chars.reverse⟩

/-- A path continued by another one; a path from the root replaces what stands before it. -/
def join (p q : Path) : Path :=
  if Text.startsWith "/" q.text || p.isEmpty then q
  else if Text.endsWith "/" p.text then ⟨p.text ++ q.text⟩
  else ⟨p.text ++ "/" ++ q.text⟩

def quoted (p : Path) : String := Text.quoteString p.text

end Path

end KotlinBackend
