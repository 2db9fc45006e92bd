import KotlinBackend.Program.Encoding
import KotlinBackend.Symbol.Synthesis

/-!
# Symbols as JSON
-/

namespace KotlinBackend

open Json (ofList ofOption ofStrings ofNat)

def SymbolOrigin.toJson : SymbolOrigin → Json
  | .builtin => .string "Builtin"
  | .assembly name => Json.variant "Metadata" (.string name)

def ClassSymbol.members (c : ClassSymbol) : List (String × Json) :=
  [("id", c.id.toJson), ("name", .string c.name), ("kind", c.kind.toJson),
    ("modality", c.modality.toJson), ("visibility", c.visibility.toJson),
    ("type_parameters", ofList TypeParameter.toJson c.typeParameters),
    ("supertypes", ofList SourceType.toJson c.supertypes),
    ("enum_entries", ofStrings c.enumEntries), ("is_companion", .bool c.isCompanion),
    ("is_static_holder", .bool c.isStaticHolder), ("is_object", .bool c.isObject),
    ("is_interface", .bool c.isInterface), ("companion", ofOption ClassId.toJson c.companion),
    ("origin", c.origin.toJson)]

def ClassSymbol.toJson (c : ClassSymbol) : Json := .object c.members

def ParameterSymbol.toJson (p : ParameterSymbol) : Json :=
  .object [("name", .string p.name), ("type", p.type.toJson), ("has_default", .bool p.hasDefault),
    ("is_vararg", .bool p.isVararg)]

def FunctionSymbol.toJson (f : FunctionSymbol) : Json :=
  .object [("id", f.id.toJson), ("type_parameters", ofList TypeParameter.toJson f.typeParameters),
    ("extension_receiver", ofOption SourceType.toJson f.extensionReceiver),
    ("parameters", ofList ParameterSymbol.toJson f.parameters),
    ("return_type", f.returnType.toJson), ("is_static", .bool f.isStatic),
    ("is_operator", .bool f.isOperator), ("modality", f.modality.toJson),
    ("visibility", f.visibility.toJson),
    ("static_holder", ofOption ClassId.toJson f.staticHolder)]

def PropertySymbol.toJson (p : PropertySymbol) : Json :=
  .object [("id", p.id.toJson), ("type", p.type.toJson), ("is_var", .bool p.isVariable),
    ("is_const", .bool p.isConst), ("is_static", .bool p.isStatic),
    ("static_holder", ofOption ClassId.toJson p.staticHolder)]

def ConstructorSymbol.toJson (c : ConstructorSymbol) : Json :=
  .object [("class", c.id.toJson), ("parameters", ofList ParameterSymbol.toJson c.parameters),
    ("visibility", c.visibility.toJson)]

def MemberSymbol.toJson : MemberSymbol → Json
  | .ofClass symbol => Json.variant "class" symbol.id.toJson
  | .function symbol => Json.variant "function" symbol.toJson
  | .constructor symbol => Json.variant "constructor" symbol.toJson
  | .property symbol => Json.variant "property" symbol.toJson

def CallableSymbol.kindName : CallableSymbol → String
  | .function _ => "function"
  | .property _ => "property"

def CallableSymbol.toJson (c : CallableSymbol) : Json :=
  .object [("kind", .string c.kindName), ("id", c.id.toJson),
    ("static_holder", ofOption ClassId.toJson c.staticHolder)]

def SymbolGraph.packageJson (g : SymbolGraph) (package : QualifiedName) : Json :=
  .object [("name", .string package.text),
    ("classes", ofList (fun c => c.id.toJson) (g.classesIn package)),
    ("callables", ofList CallableSymbol.toJson (g.callablesIn package))]

def SymbolGraph.stateMembers (g : SymbolGraph) : List (String × Json) :=
  [("classes", ofList (fun (node : ClassNode) =>
      .object (node.toClassSymbol.members ++
        [("members", ofList MemberSymbol.toJson (g.members node.id))])) g.classes.toList),
    ("functions", ofList (fun (f : FunctionSymbol) => f.id.toJson) g.functions.toList),
    ("packages", ofList g.packageJson g.packages.keys)]

def SkippedType.toJson (s : SkippedType) : Json :=
  .object [("assembly", .string s.assembly), ("type_name", .string s.typeName),
    ("reason", .string s.reason.message), ("anomaly", .bool s.reason.isAnomaly)]

def SynthesisReport.toJson (r : SynthesisReport) : Json :=
  .object [("classes", ofNat r.classes), ("functions", ofNat r.functions),
    ("has_anomalies", .bool !r.anomalies.isEmpty), ("skipped", ofList SkippedType.toJson r.skipped)]

end KotlinBackend
