import KotlinBackend.Program.Revision

/-!
# Moving callables into facades

The generated language has no functions outside of classes. A facade is a static class that takes
such functions and properties in; the calls of what was moved then name the facade.
-/

namespace KotlinBackend

def Declaration.callable? : Declaration → Option CallableId
  | function decl => some decl.id
  | property decl => some decl.id
  | _ => none

theorem Declaration.isSome_callable?_iff {d : Declaration} :
    d.callable?.isSome = true ↔ (∃ decl, d = .function decl) ∨ ∃ decl, d = .property decl := by
  cases d <;> simp [Declaration.callable?]

/-- A function or property as a static member of a class. -/
def Declaration.moveInto (holder : ClassId) : Declaration → Declaration
  | function decl => .function { decl with id := decl.id.movedTo holder, isStatic := true }
  | property decl => .property { decl with id := decl.id.movedTo holder, isStatic := true }
  | other => other

/-- Where moved callables went. Of two entries for one callable the last counts. -/
abbrev Moves := List (CallableId × CallableId)

def Moves.target? (moves : Moves) (id : CallableId) : Option CallableId :=
  moves.reverse.lookup id

def Moves.into (holder : ClassId) (declarations : List Declaration) : Moves :=
  (declarations.filterMap Declaration.callable?).map fun id => (id, id.movedTo holder)

/-- The receiver of a call that goes to a static class: an object is not needed any more. -/
def dropObject : Option Expression → Option Expression
  | some (.object _) => none
  | receiver => receiver

/-- A call of a moved callable, pointed at its new place. -/
def Moves.step (moves : Moves) : Expression → Option Expression
  | .call c => (moves.target? c.callee).map fun target =>
    .call { c with callee := target, dispatchReceiver := dropObject c.dispatchReceiver }
  | _ => none

def SourceModule.retarget (m : SourceModule) (moves : Moves) : SourceModule :=
  (m.revise moves.step).value

def facadeClass (id : ClassId) (origin : Origin) (declarations : List Declaration) : ClassDecl :=
  { id, kind := .object, declarations, origin }

end KotlinBackend
