import KotlinBackend.Output.Body

/-!
# Code of declarations

Classes and their members become blocks. The members of a companion are written among the members of
the class around it. A file is a namespace with its classes.
-/

namespace KotlinBackend.Output

open Code (glue)

def memberVisibility : Visibility → String
  | .publicAccess => "public"
  | .protectedAccess => "protected"
  | .internalAccess => "internal"
  | .privateAccess | .localAccess => "private"

/-- A private class that is not nested is visible in its assembly. -/
def classVisibility (nested : Bool) (v : Visibility) : String :=
  if !v.isAccessible && !nested then "internal" else memberVisibility v

def memberModality : Modality → String
  | .abstract => "abstract"
  | .extensible => "virtual"
  | .final | .sealed => ""

def classWords (c : ClassDecl) : List String :=
  if c.isStaticHolder then ["static", "class"]
  else match c.kind with
    | .interface => ["interface"]
    | .enumeration => ["enum"]
    | .object | .annotationClass => ["sealed", "class"]
    | .plain =>
      match c.modality with
      | .final => ["sealed", "class"]
      | .abstract | .sealed => ["abstract", "class"]
      | .extensible => ["class"]

/-- A type parameter; its variance is only written where it may stand. -/
def typeParameterText (withVariance : Bool) (p : TypeParameter) : String :=
  if withVariance then
    match p.variance with
    | .out => "out " ++ p.name
    | .into => "in " ++ p.name
    | .invariant => p.name
  else p.name

def typeParameterList (withVariance : Bool) (parameters : List TypeParameter) : String :=
  if parameters.isEmpty then ""
  else "<" ++ String.intercalate ", " (parameters.map (typeParameterText withVariance)) ++ ">"

/-- The bounds of a type parameter; the bound that every type has is not written. -/
def constraintText (p : TypeParameter) : String :=
  let bounds := (p.bounds.map typeName).filter (· != objectName)
  if bounds.isEmpty then ""
  else " where " ++ p.name ++ " : " ++ String.intercalate ", " bounds

def constraints (parameters : List TypeParameter) : String :=
  String.join (parameters.map constraintText)

def addName (names : List String) (name : String) : List String :=
  if names.contains name then names else names ++ [name]

def supertypeNames (c : ClassDecl) : List String :=
  let implied := if c.kind = .annotationClass then ["System.Attribute"] else []
  let listed := if c.kind = .enumeration then [] else c.supertypes.map typeName
  (listed.filter (· != objectName)).foldl addName implied

def classHeader (nested : Bool) (c : ClassDecl) : Code :=
  let supertypes := supertypeNames c
  let declaration :=
    c.name ++ typeParameterList (c.kind == .interface) c.typeParameters ++
      (if supertypes.isEmpty then "" else " : " ++ String.intercalate ", " supertypes) ++
      constraints c.typeParameters
  .words (classVisibility nested c.visibility :: (classWords c ++ [declaration]))

def parameterText (p : ValueParameter) : String := parameterName p ++ " " ++ p.name

/-- Inherited members that are only repeated are not written. -/
def isEmitted (d : Declaration) : Bool := d.origin != .fakeOverride

/-- What every enumeration has. -/
def isEnumPlumbing : Declaration → Bool
  | .constructor _ => true
  | .function decl => ["values", "valueOf", "entries"].contains decl.id.name
  | .property decl => decl.id.name == "entries"
  | _ => false

/-- The words before a member: who sees it, and how it relates to instances and subclasses. Members
of an interface have no such words, except that they can be static. -/
def memberWords (owner : ClassDecl) (visibility : Visibility) (modality : Modality)
    (isStatic : Bool) : List String :=
  if owner.kind = .interface then (if isStatic then ["static"] else [])
  else [memberVisibility visibility, if isStatic then "static" else memberModality modality]

def defaultBody (mapped : String) (type : SourceType) : List Code :=
  if mapped == voidName then []
  else [.statement (.text ("return " ++ defaultValue mapped type))]

def isStaticIn (owner : ClassDecl) (inCompanion : Bool) (id : CallableId) (isStatic : Bool) :
    Bool :=
  id.isTopLevel || inCompanion || owner.isStaticHolder || isStatic

def receiverText (owner : ClassDecl) (receiver : ValueParameter) : String :=
  (if owner.isStaticHolder then "this " else "") ++ nullableName receiver.type ++ " " ++
    receiver.name

def functionHeader (owner : ClassDecl) (isStatic : Bool) (d : FunctionDecl) : Code :=
  let parameters :=
    d.extensionReceiver.toList.map (receiverText owner) ++ d.valueParameters.map parameterText
  let signature :=
    returnName d.returnType ++ " " ++ d.id.name ++ typeParameterList false d.typeParameters ++
      "(" ++ String.intercalate ", " parameters ++ ")" ++ constraints d.typeParameters
  .words (memberWords owner d.visibility d.modality isStatic ++ [signature])

def functionCode (g : Context) (owner : ClassDecl) (inCompanion : Bool) (d : FunctionDecl) :
    Tally Code := do
  let isStatic := isStaticIn owner inCompanion d.id d.isStatic
  let header := functionHeader owner isStatic d
  match d.body with
  | some body => do
    let statements ← statementCodes g ⟨owner.id, isStatic⟩ body
    pure (.block header statements)
  | none =>
    if owner.kind = .interface ∨ d.modality = .abstract then pure (.statement header)
    else pure (.block header (defaultBody (returnName d.returnType) d.returnType))

def constructorLikeCode (g : Context) (owner : ClassDecl) (parameters : List ValueParameter)
    (visibility : Visibility) (delegation : List Code) (body : Option (List Statement)) :
    Tally Code := do
  let head := memberVisibility visibility ++ " " ++ owner.name ++ "(" ++
    String.intercalate ", " (parameters.map parameterText) ++ ")"
  let statements ← statementCodes g ⟨owner.id, false⟩ (body.getD [])
  pure (.block (glue (.text head :: delegation)) statements)

def delegationWord : DelegationTarget → String
  | .sameClass => "this"
  | .baseClass => "base"

def delegationCode (g : Context) (owner : ClassDecl) (d : Delegation) : Tally (List Code) := do
  let arguments ← argumentList (argumentParts g ⟨owner.id, true⟩ d.arguments)
  pure [.text (" : " ++ delegationWord d.target), arguments]

def constructorCode (g : Context) (owner : ClassDecl) (d : ConstructorDecl) : Tally Code := do
  let delegation ← Tally.each (delegationCode g owner) d.delegation.toList
  constructorLikeCode g owner d.valueParameters d.visibility delegation.flatten d.body

def constPropertyCode (g : Context) (scope : Scope) (d : PropertyDecl) : Tally Code := do
  let type := nullableName d.type
  let value ← (optionCode g scope d.initializer).getD (pure (.text (defaultValue type d.type)))
  let head := memberVisibility d.visibility ++ " const " ++ type ++ " " ++ d.id.name ++ " = "
  pure (glue [.text head, value, .text ";"])

def accessorCode (g : Context) (scope : Scope) (name : String) (body : List Statement) :
    Tally Code := do
  let statements ← statementCodes g scope body
  pure (.block (.text name) statements)

def storedSetter (g : Context) (scope : Scope) (d : PropertyDecl) : Tally (List Code) :=
  match d.setter with
  | some body => do
    let code ← accessorCode g scope "set" body
    pure [code]
  | none => pure (if d.isVariable then [.text "set;"] else [])

def initializerCode (g : Context) (scope : Scope) (initializer : Option Expression) :
    Tally (List Code) :=
  match initializer with
  | some e => do
    let value ← expressionCode g scope e
    pure [.text " = ", value, .text ";"]
  | none => pure []

def storedPropertyCode (g : Context) (scope : Scope) (header : Code) (d : PropertyDecl) :
    Tally Code := do
  let setter ← storedSetter g scope d
  let initializer ← initializerCode g scope d.initializer
  pure (glue (.block header (.text "get;" :: setter) :: initializer))

def isSingleReturn : List Statement → Bool
  | [.returns (some _)] => true
  | _ => false

def computedPropertyCode (g : Context) (scope : Scope) (header : Code)
    (getter : List Statement) (setter : Option (List Statement)) : Tally Code := do
  let get ← accessorCode g scope "get" getter
  match setter with
  | some body => do
    let set ← accessorCode g scope "set" body
    pure (.block header [get, set])
  | none =>
    if isSingleReturn getter then pure (glue [.block header [get]])
    else pure (.block header [get])

def propertyCode (g : Context) (owner : ClassDecl) (inCompanion : Bool) (d : PropertyDecl) :
    Tally Code :=
  let isStatic := isStaticIn owner inCompanion d.id d.isStatic
  let scope : Scope := ⟨owner.id, isStatic⟩
  let header := Code.words (memberWords owner d.visibility d.modality isStatic ++
    [nullableName d.type, d.id.name])
  if d.isConst then constPropertyCode g scope d
  else match d.getter with
    | none => storedPropertyCode g scope header d
    | some getter => computedPropertyCode g scope header getter d.setter

def fieldCode (g : Context) (owner : ClassDecl) (inCompanion : Bool) (d : FieldDecl) :
    Tally Code := do
  let isStatic := inCompanion || owner.isStaticHolder || d.isStatic
  let words := [memberVisibility d.visibility] ++ (if isStatic then ["static"] else []) ++
    (if d.isFinal then ["readonly"] else []) ++ [nullableName d.type, d.name]
  match d.initializer with
  | none => pure (glue [.words words, .text ";"])
  | some e => do
    let value ← expressionCode g ⟨owner.id, isStatic⟩ e
    pure (glue [.words words, .text " = ", value, .text ";"])

def instanceCodes (c : ClassDecl) : List Code :=
  if c.kind = .object ∧ !c.isStaticHolder then
    [.text ("public static readonly " ++ c.name ++ " " ++ instanceField ++ " = new " ++ c.name ++
      "();")]
  else []

/-- An enumeration has no members but its values; other members are marked. -/
def enumCodes (c : ClassDecl) : Tally (List Code) := do
  let entries :=
    if c.enumEntries.isEmpty then [] else [Code.text (String.intercalate ", " c.enumEntries)]
  let extra := c.declarations.filter fun d => isEmitted d && !isEnumPlumbing d
  let marks ← Tally.each (fun _ => Code.mark "ENUM_MEMBER") extra
  pure (entries ++ marks)

mutual

def classCode (g : Context) (nested : Bool) : ClassDecl → Tally Code
  | decl@{ declarations, .. } => do
    let members ←
      if decl.kind = .enumeration then enumCodes decl
      else memberCodes g decl false declarations
    pure (.block (classHeader nested decl) [.paragraphs (instanceCodes decl ++ members)])

def companionCodes (g : Context) : ClassDecl → Tally (List Code)
  | decl@{ declarations, .. } => memberCodes g decl true declarations

/-- A member of a class; a companion stands for all its members. -/
def declarationCodes (g : Context) (owner : ClassDecl) (inCompanion : Bool) :
    Declaration → Tally (List Code)
  | .ofClass decl =>
    if decl.isCompanion then companionCodes g decl
    else do
      let code ← classCode g true decl
      pure [code]
  | .function decl => do
    let code ←
      if decl.id.name = Declaration.constructorName then
        constructorLikeCode g owner decl.valueParameters decl.visibility [] decl.body
      else functionCode g owner inCompanion decl
    pure [code]
  | .constructor decl =>
    if inCompanion then pure []
    else do
      let code ← constructorCode g owner decl
      pure [code]
  | .property decl => do
    let code ← propertyCode g owner inCompanion decl
    pure [code]
  | .field decl => do
    let code ← fieldCode g owner inCompanion decl
    pure [code]

def memberCodes (g : Context) (owner : ClassDecl) (inCompanion : Bool) :
    List Declaration → Tally (List Code)
  | [] => pure []
  | declaration :: rest => do
    let codes ←
      if isEmitted declaration then declarationCodes g owner inCompanion declaration else pure []
    let others ← memberCodes g owner inCompanion rest
    pure (codes ++ others)

end

def declarationKind : Declaration → String
  | .ofClass _ => "CLASS"
  | .function _ => "FUNCTION"
  | .constructor _ => "CONSTRUCTOR"
  | .property _ => "PROPERTY"
  | .field _ => "FIELD"

/-- A declaration of a file. Only classes can stand there. -/
def topLevelCode (g : Context) : Declaration → Tally Code
  | .ofClass decl => classCode g false decl
  | declaration => Code.mark ("TOP_LEVEL_" ++ declarationKind declaration)

/-- The code of a file: its classes in a namespace, unless it is in the root package. -/
def fileCode (g : Context) (f : SourceFile) : Tally Code := do
  let items ← Tally.each (topLevelCode g) f.declarations
  if f.package.isRoot then pure (.paragraphs items)
  else pure (.block (.text ("namespace " ++ f.package.text)) [.paragraphs items])

structure GeneratedFile where
  stem : String
  code : Code

/-- The output for a module. The count is the number of markers. -/
def generate (symbols : SymbolSource) (m : SourceModule) : Tally (List GeneratedFile) :=
  let g := Context.ofModule symbols m
  Tally.each (fun f => (fun code => ⟨f.stem, code⟩) <$> fileCode g f) m.files

end KotlinBackend.Output
