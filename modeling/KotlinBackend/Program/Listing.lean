import KotlinBackend.Program.Module

/-!
# Listing a program

A listing shows a program as indented lines, a line for each node and the parts of a node one step
further in.
-/

namespace KotlinBackend

/-- A line and how far it is indented. -/
structure ListingLine where
  depth : Nat
  text : String

abbrev Listing := List ListingLine

namespace Listing

def line (text : String) : Listing := [⟨0, text⟩]

def inside (lines : Listing) : Listing := lines.map fun l => { l with depth := l.depth + 1 }

def node (text : String) (children : Listing) : Listing := line text ++ inside children

/-- The text of a listing; every line ends with a line break. -/
def text (lines : Listing) : String :=
  String.join (lines.map fun l => Text.replicate l.depth "  " ++ l.text ++ "\n")

end Listing

open Listing

def originMark : Origin → String
  | .written => ""
  | origin => " origin:" ++ origin.word

mutual

def Expression.listing : Expression → Listing
  | .constant value => line ("CONST " ++ value.listing ++ " type:" ++ value.type.text)
  | .readValue name type => line ("GET_VALUE " ++ name ++ " type:" ++ type.text)
  | .self type => line ("THIS type:" ++ type.text)
  | .readField receiver field type =>
    node ("GET_FIELD " ++ field ++ " type:" ++ type.text) (Expression.listingOption receiver)
  | .object id => line ("GET_OBJECT " ++ id.text)
  | .call c => c.listing
  | .construct id _ arguments =>
    node ("CONSTRUCTOR_CALL " ++ id.text) (Expression.listingArguments arguments)
  | .concatenation parts => node "STRING_CONCATENATION" (Expression.listingList parts)
  | .typeOperation operator operand type =>
    node ("TYPE_OP " ++ operator.word ++ " " ++ type.text) operand.listing
  | .when branches type => node ("WHEN type:" ++ type.text) (Branch.listingList branches)
  | .block statements type => node ("BLOCK type:" ++ type.text) (Statement.listingList statements)
  | .unsupported kind => line ("UNSUPPORTED " ++ kind)

def Call.listing : Call → Listing
  | { callee, dispatchReceiver, extensionReceiver, arguments, type, .. } =>
    node ("CALL " ++ callee.text ++ " type:" ++ type.text)
      (Expression.listingReceiver "$this:" dispatchReceiver ++
        Expression.listingReceiver "$receiver:" extensionReceiver ++
        Expression.listingArguments arguments)

def Branch.listing : Branch → Listing
  | { condition, result } => node "BRANCH" (condition.listing ++ result.listing)

def Statement.listing : Statement → Listing
  | .evaluate expression => expression.listing
  | .declare name type initializer isVariable =>
    node ("VAR " ++ (if isVariable then "var " else "val ") ++ name ++ ":" ++ type.text)
      (Expression.listingOption initializer)
  | .assign name value => node ("SET_VALUE " ++ name) value.listing
  | .assignField receiver field value =>
    node ("SET_FIELD " ++ field) (Expression.listingOption receiver ++ value.listing)
  | .returns value => node "RETURN" (Expression.listingOption value)
  | .conditional condition thenBranch elseBranch =>
    node "IF" (condition.listing ++ node "THEN" (Statement.listingList thenBranch) ++
      (if elseBranch.isEmpty then [] else node "ELSE" (Statement.listingList elseBranch)))
  | .loop condition body =>
    node "WHILE" (condition.listing ++ inside (Statement.listingList body))
  | .throws value => node "THROW" value.listing

def Expression.listingOption : Option Expression → Listing
  | none => []
  | some expression => expression.listing

def Expression.listingReceiver (label : String) : Option Expression → Listing
  | none => []
  | some expression => node label expression.listing

def Expression.listingList : List Expression → Listing
  | [] => []
  | expression :: rest => expression.listing ++ Expression.listingList rest

def Expression.listingArguments : List (Option Expression) → Listing
  | [] => []
  | none :: rest => line "<default>" ++ Expression.listingArguments rest
  | some expression :: rest => expression.listing ++ Expression.listingArguments rest

def Branch.listingList : List Branch → Listing
  | [] => []
  | branch :: rest => branch.listing ++ Branch.listingList rest

def Statement.listingList : List Statement → Listing
  | [] => []
  | statement :: rest => statement.listing ++ Statement.listingList rest

end

def bodyListing (statements : List Statement) : Listing :=
  node "BODY" (Statement.listingList statements)

def bodyListingOption : Option (List Statement) → Listing
  | none => []
  | some statements => bodyListing statements

def accessorListing (label : String) : Option (List Statement) → Listing
  | none => []
  | some statements => node label (bodyListing statements)

def ValueParameter.listing (p : ValueParameter) : Listing :=
  node ("VALUE_PARAMETER " ++ p.name ++ ":" ++ p.type.text ++
      (if p.isVararg then " vararg" else ""))
    (Expression.listingReceiver "DEFAULT" p.defaultValue)

def FunctionDecl.listing (d : FunctionDecl) : Listing :=
  node ("FUN " ++ d.id.text ++ " returnType:" ++ d.returnType.text ++
      (if d.isStatic then " static" else "") ++ originMark d.origin)
    (d.extensionReceiver.toList.flatMap (fun r => line ("RECEIVER " ++ r.type.text)) ++
      d.valueParameters.flatMap ValueParameter.listing ++ bodyListingOption d.body)

def Delegation.listing (d : Delegation) : Listing :=
  node ("DELEGATE " ++ d.target.word) (Expression.listingArguments d.arguments)

def ConstructorDecl.listing (d : ConstructorDecl) : Listing :=
  node ("CONSTRUCTOR " ++ d.id.text ++ (if d.isPrimary then " primary" else "") ++
      originMark d.origin)
    (d.valueParameters.flatMap ValueParameter.listing ++
      d.delegation.toList.flatMap Delegation.listing ++ bodyListingOption d.body)

def PropertyDecl.listing (d : PropertyDecl) : Listing :=
  node ("PROPERTY " ++ d.id.text ++ " type:" ++ d.type.text ++
      (if d.isVariable then " var" else " val") ++ originMark d.origin)
    (Expression.listingOption d.initializer ++ accessorListing "GETTER" d.getter ++
      accessorListing "SETTER" d.setter)

def FieldDecl.listing (d : FieldDecl) : Listing :=
  node ("FIELD " ++ d.name ++ " type:" ++ d.type.text ++ (if d.isStatic then " static" else ""))
    (Expression.listingOption d.initializer)

mutual

def ClassDecl.listing : ClassDecl → Listing
  | { id, kind, modality, visibility, supertypes, annotations, enumEntries, declarations,
      origin, .. } =>
    node ("CLASS " ++ kind.word ++ " id:" ++ id.text ++ " modality:" ++ modality.word ++
        " visibility:" ++ visibility.word ++ originMark origin)
      (supertypes.flatMap (fun t => line ("SUPER " ++ t.text)) ++
        annotations.flatMap (fun a => line ("ANNOTATION " ++ a.id.text)) ++
        enumEntries.flatMap (fun e => line ("ENUM_ENTRY " ++ e)) ++
        Declaration.listingList declarations)

def Declaration.listing : Declaration → Listing
  | .ofClass decl => decl.listing
  | .function decl => decl.listing
  | .constructor decl => decl.listing
  | .property decl => decl.listing
  | .field decl => decl.listing

def Declaration.listingList : List Declaration → Listing
  | [] => []
  | declaration :: rest => declaration.listing ++ Declaration.listingList rest

end

def SourceFile.listing (f : SourceFile) : Listing :=
  node ("FILE name:" ++ f.name ++ " package:" ++ f.package.text)
    (Declaration.listingList f.declarations)

def SourceModule.listing (m : SourceModule) : Listing :=
  node ("MODULE name:" ++ m.name) (m.files.flatMap SourceFile.listing)

end KotlinBackend
