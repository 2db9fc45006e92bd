import KotlinBackend.Facade.Basic
import KotlinBackend.Text.Case

/-!
# Facades of files

The functions and properties of a file that are outside of classes go into one static class in the
same file, behind the declarations that stay.
-/

namespace KotlinBackend

/-- The facade of a file: `main.kt` in package `app` has `app/MainKt`. -/
def SourceFile.facadeId (f : SourceFile) : ClassId :=
  ⟨f.package, [Text.capitalize f.stem ++ "Kt"]⟩

def Declaration.isCallable (d : Declaration) : Bool := d.callable?.isSome

def SourceFile.callables (f : SourceFile) : List Declaration :=
  f.declarations.filter Declaration.isCallable

/-- A file with its functions and properties in a facade. The count tells whether there are any. -/
def SourceFile.mergeFacade (f : SourceFile) : Tally SourceFile :=
  if f.callables.isEmpty then pure f
  else
    let facade := facadeClass f.facadeId .fileFacade
      (f.callables.map (Declaration.moveInto f.facadeId))
    .once { f with
      declarations := f.declarations.filter (!·.isCallable) ++ [.ofClass facade] }

/-- Gives every file with functions or properties a facade. The count is the number of facades. -/
def mergeFileFacades (m : SourceModule) : Tally SourceModule := do
  let moves : Moves := m.files.flatMap fun f => Moves.into f.facadeId f.callables
  let files ← Tally.each SourceFile.mergeFacade m.files
  pure (SourceModule.retarget { m with files } moves)

end KotlinBackend
