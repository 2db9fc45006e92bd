import KotlinBackend.Program.Declaration

/-!
# Modules

A module is what is compiled at once: files, each with a package and its declarations.
-/

namespace KotlinBackend

structure SourceFile where
  name : String
  package : QualifiedName := .root
  declarations : List Declaration := []
  deriving Inhabited

structure SourceModule where
  name : String
  files : List SourceFile := []
  deriving Inhabited

/-- The last part of a file name, after the last separator of either kind. -/
def baseName (name : String) : String :=
  String.ofList (name.toList.reverse.takeWhile fun c => c != '/' && c != '\\').reverse

/-- The name of a file without its directories and its extensions. -/
def SourceFile.stem (f : SourceFile) : String :=
  let base := baseName f.name
  match Text.cutFirst '.' base with
  | some (stem, _) => if stem.isEmpty then base else stem
  | none => base

def SourceFile.classes (f : SourceFile) : List ClassDecl :=
  f.declarations.filterMap Declaration.class?

theorem SourceFile.mem_classes {f : SourceFile} {c : ClassDecl} :
    c ∈ f.classes ↔ .ofClass c ∈ f.declarations := by
  rw [SourceFile.classes, List.mem_filterMap]
  constructor
  · rintro ⟨d, hd, hClass⟩
    cases d with
    | ofClass decl =>
      obtain rfl := Option.some.inj hClass
      exact hd
    | function | constructor | property | field => cases hClass
  · intro h
    exact ⟨.ofClass c, h, rfl⟩

mutual

/-- The class and the classes nested in it. -/
def ClassDecl.declaredClasses : ClassDecl → List ClassId
  | { id, declarations, .. } => id :: Declaration.listDeclaredClasses declarations

def Declaration.declaredClasses : Declaration → List ClassId
  | .ofClass decl => decl.declaredClasses
  | .function _ => []
  | .constructor _ => []
  | .property _ => []
  | .field _ => []

def Declaration.listDeclaredClasses : List Declaration → List ClassId
  | [] => []
  | declaration :: declarations =>
    declaration.declaredClasses ++ Declaration.listDeclaredClasses declarations

end

/-- The classes declared anywhere in a module, nested ones included. -/
def SourceModule.declaredClasses (m : SourceModule) : List ClassId :=
  m.files.flatMap fun f => Declaration.listDeclaredClasses f.declarations

mutual

/-- The class of a given identifier in a class, itself included. -/
def ClassDecl.findClass? (id : ClassId) : ClassDecl → Option ClassDecl
  | decl@{ declarations, .. } =>
    if decl.id = id then some decl else Declaration.findClassIn? id declarations

def Declaration.findClass? (id : ClassId) : Declaration → Option ClassDecl
  | .ofClass decl => decl.findClass? id
  | .function _ => none
  | .constructor _ => none
  | .property _ => none
  | .field _ => none

def Declaration.findClassIn? (id : ClassId) : List Declaration → Option ClassDecl
  | [] => none
  | declaration :: declarations =>
    (declaration.findClass? id).or (Declaration.findClassIn? id declarations)

end

/-- The first class of a given identifier in a module. -/
def SourceModule.findClass? (m : SourceModule) (id : ClassId) : Option ClassDecl :=
  m.files.findSome? fun f => Declaration.findClassIn? id f.declarations

end KotlinBackend
