import KotlinBackend.Data.Tally
import KotlinBackend.Program.Module

/-!
# Announced declarations

A declaration marked as expected only announces what another module provides, and is removed at any
depth. The count is the number of declarations that were removed, not counting what was inside them.
-/

namespace KotlinBackend

mutual

def ClassDecl.withoutExpected : ClassDecl → Tally ClassDecl
  | decl@{ declarations, .. } => do
    let declarations ← Declaration.withoutExpectedList declarations
    pure { decl with declarations }

def Declaration.withoutExpected : Declaration → Tally Declaration
  | .ofClass decl => do
    let decl ← decl.withoutExpected
    pure (.ofClass decl)
  | .function decl => pure (.function decl)
  | .constructor decl => pure (.constructor decl)
  | .property decl => pure (.property decl)
  | .field decl => pure (.field decl)

def Declaration.withoutExpectedList : List Declaration → Tally (List Declaration)
  | [] => pure []
  | declaration :: rest =>
    if declaration.isExpect then do
      let _ ← Tally.once ()
      Declaration.withoutExpectedList rest
    else do
      let declaration ← declaration.withoutExpected
      let rest ← Declaration.withoutExpectedList rest
      pure (declaration :: rest)

end

def SourceFile.withoutExpected (f : SourceFile) : Tally SourceFile := do
  let declarations ← Declaration.withoutExpectedList f.declarations
  pure { f with declarations }

def stripExpected (m : SourceModule) : Tally SourceModule := do
  let files ← Tally.each SourceFile.withoutExpected m.files
  pure { m with files }

end KotlinBackend
