import KotlinBackend.Symbol.Source

/-!
# Built-in declarations

The symbols of the foundational classes of the language, written down by hand. A standard library is
compiled against them, and placeholder classes stand for them.
-/

namespace KotlinBackend.Builtins

open SourceType
open WellKnown (kotlin)

def typeNamed (name : String) : SourceType := .ofClass (kotlin name)

def typeVariable (name : String) : SourceType := .parameter name false

/-- A class of one argument that is a type variable. -/
def ofVariable (id : ClassId) (name : String) : SourceType := .generic id [typeVariable name]

/-- The type of what can be compared with a type. -/
def comparableTo (type : SourceType) : SourceType := .generic WellKnown.comparable [type]

def declareClass (id : ClassId) (kind : ClassKind) (modality : Modality)
    (typeParameters : List (String × Variance)) (supertypes : List SourceType) : Insertion :=
  .ofClass
    { id, kind, modality, supertypes
      typeParameters := typeParameters.map fun (name, variance) => { name, variance } }

def finalClass (name : String) (supertypes : List SourceType) : Insertion :=
  declareClass (kotlin name) .plain .final [] supertypes

def interface (id : ClassId) (typeParameters : List (String × Variance))
    (supertypes : List SourceType) : Insertion :=
  declareClass id .interface .abstract typeParameters supertypes

def parameterSymbols (parameters : List (String × SourceType)) : List ParameterSymbol :=
  parameters.map fun (name, type) => { name, type }

def function (owner : ClassId) (name : String) (parameters : List (String × SourceType))
    (returnType : SourceType) : Insertion :=
  .function { id := owner.member name, parameters := parameterSymbols parameters, returnType }

def operator (owner : ClassId) (name : String) (parameters : List (String × SourceType))
    (returnType : SourceType) : Insertion :=
  .function
    { id := owner.member name, parameters := parameterSymbols parameters, returnType
      isOperator := true }

/-- A property that can only be read. -/
def property (owner : ClassId) (name : String) (type : SourceType) : Insertion :=
  .property { id := owner.member name, type }

def core : List Insertion :=
  [declareClass WellKnown.any .plain .extensible [] [],
    function WellKnown.any "equals" [("other", top)] boolean,
    function WellKnown.any "hashCode" [] int,
    function WellKnown.any "toString" [] string,
    finalClass "Nothing" [],
    declareClass WellKnown.unit .object .final [] [any],
    declareClass WellKnown.annotationClass .interface .abstract [] [],
    interface WellKnown.comparable [("T", .into)] [],
    operator WellKnown.comparable "compareTo" [("other", typeVariable "T")] int,
    declareClass WellKnown.enumClass .plain .abstract [("E", .invariant)]
      [ofVariable WellKnown.comparable "E"],
    property WellKnown.enumClass "name" string,
    property WellKnown.enumClass "ordinal" int,
    declareClass WellKnown.throwable .plain .extensible [] [],
    property WellKnown.throwable "message" string.nullable,
    property WellKnown.throwable "cause" (ofClass WellKnown.throwable).nullable,
    .constructor { id := WellKnown.throwable },
    .constructor
      { id := WellKnown.throwable
        parameters := parameterSymbols [("message", string.nullable)] },
    finalClass "Boolean" [comparableTo boolean],
    operator WellKnown.boolean "not" [] boolean] ++
    ["and", "or", "xor"].map fun name =>
      function WellKnown.boolean name [("other", boolean)] boolean

/-- The number types from the narrowest to the widest. -/
def numberTypes : List String := ["Byte", "Short", "Int", "Long", "Float", "Double"]

def unsignedTypes : List String := ["UByte", "UShort", "UInt", "ULong"]

def arithmeticOperators : List String := ["plus", "minus", "times", "div", "rem"]

/-- The type in which two number types are added: the wider one, and at least the third. -/
def widerType (left right : String) : String :=
  let rank := max (max (numberTypes.idxOf left) (numberTypes.idxOf right)) 2
  numberTypes[rank]?.getD ""

/-- The operators of a number type with an operand of another one. -/
def mixedOperators (name operand : String) : List Insertion :=
  let other := [("other", typeNamed operand)]
  let result := typeNamed (widerType name operand)
  arithmeticOperators.map (fun op => operator (kotlin name) op other result) ++
    [operator (kotlin name) "compareTo" other int]

def numberType (name : String) : List Insertion :=
  let self := typeNamed name
  [finalClass name [ofClass WellKnown.number, comparableTo self]] ++
    numberTypes.flatMap (mixedOperators name) ++
    ["unaryMinus", "inc", "dec"].map fun op => operator (kotlin name) op [] self

def unsignedType (name : String) : List Insertion :=
  let self := typeNamed name
  let other := [("other", self)]
  [finalClass name [comparableTo self]] ++
    arithmeticOperators.map (fun op => operator (kotlin name) op other self) ++
    [operator (kotlin name) "compareTo" other int,
      function (kotlin name) "toString" [] string,
      function (kotlin name) "toInt" [] int,
      function (kotlin name) "toLong" [] long]

def numbers : List Insertion :=
  [declareClass WellKnown.number .plain .abstract [] [any]] ++
    numberTypes.map (fun target =>
      function WellKnown.number ("to" ++ target) [] (typeNamed target)) ++
    numberTypes.flatMap numberType ++
    [function WellKnown.int "toUInt" [] uint, function WellKnown.long "toULong" [] ulong] ++
    unsignedTypes.flatMap unsignedType

def texts : List Insertion :=
  [interface WellKnown.charSequence [] [],
    property WellKnown.charSequence "length" int,
    operator WellKnown.charSequence "get" [("index", int)] char,
    finalClass "Char" [comparableTo char],
    operator WellKnown.char "compareTo" [("other", char)] int,
    function WellKnown.char "toInt" [] int,
    finalClass "String" [ofClass WellKnown.charSequence, comparableTo string],
    operator WellKnown.string "plus" [("other", top)] string,
    operator WellKnown.string "compareTo" [("other", string)] int,
    operator WellKnown.string "get" [("index", int)] char,
    property WellKnown.string "length" int]

/-- The arrays of primitive types with the types of their elements. -/
def primitiveArrays : List (String × String) :=
  [("BooleanArray", "Boolean"), ("CharArray", "Char"), ("ByteArray", "Byte"),
    ("ShortArray", "Short"), ("IntArray", "Int"), ("LongArray", "Long"), ("FloatArray", "Float"),
    ("DoubleArray", "Double")]

/-- Reading the size and reading and writing an element of an array. -/
def arrayMembers (array : ClassId) (element : SourceType) : List Insertion :=
  [property array "size" int, operator array "get" [("index", int)] element,
    operator array "set" [("index", int), ("value", element)] unit]

def arrays : List Insertion :=
  [declareClass WellKnown.array .plain .final [("T", .invariant)] []] ++
    arrayMembers WellKnown.array (typeVariable "T") ++
    [operator WellKnown.array "iterator" [] (ofVariable WellKnown.iterator "T")] ++
    primitiveArrays.flatMap fun (name, element) =>
      finalClass name [] :: arrayMembers (kotlin name) (typeNamed element)

def iterables : List Insertion :=
  [interface WellKnown.iterator [("T", .out)] [],
    operator WellKnown.iterator "next" [] (typeVariable "T"),
    operator WellKnown.iterator "hasNext" [] boolean,
    interface WellKnown.mutableIterator [("T", .out)] [ofVariable WellKnown.iterator "T"],
    function WellKnown.mutableIterator "remove" [] unit,
    interface WellKnown.iterable [("T", .out)] [],
    operator WellKnown.iterable "iterator" [] (ofVariable WellKnown.iterator "T"),
    interface WellKnown.mutableIterable [("T", .out)] [ofVariable WellKnown.iterable "T"],
    operator WellKnown.mutableIterable "iterator" [] (ofVariable WellKnown.mutableIterator "T")]

def lists : List Insertion :=
  [interface WellKnown.collection [("E", .out)] [ofVariable WellKnown.iterable "E"],
    property WellKnown.collection "size" int,
    function WellKnown.collection "isEmpty" [] boolean,
    operator WellKnown.collection "contains" [("element", typeVariable "E")] boolean,
    interface WellKnown.mutableCollection [("E", .invariant)]
      [ofVariable WellKnown.collection "E", ofVariable WellKnown.mutableIterable "E"],
    function WellKnown.mutableCollection "add" [("element", typeVariable "E")] boolean,
    function WellKnown.mutableCollection "remove" [("element", typeVariable "E")] boolean,
    function WellKnown.mutableCollection "clear" [] unit,
    interface WellKnown.list [("E", .out)] [ofVariable WellKnown.collection "E"],
    operator WellKnown.list "get" [("index", int)] (typeVariable "E"),
    function WellKnown.list "indexOf" [("element", typeVariable "E")] int,
    interface WellKnown.mutableList [("E", .invariant)]
      [ofVariable WellKnown.list "E", ofVariable WellKnown.mutableCollection "E"],
    operator WellKnown.mutableList "set" [("index", int), ("element", typeVariable "E")]
      (typeVariable "E"),
    function WellKnown.mutableList "removeAt" [("index", int)] (typeVariable "E"),
    interface WellKnown.set [("E", .out)] [ofVariable WellKnown.collection "E"],
    interface WellKnown.mutableSet [("E", .invariant)]
      [ofVariable WellKnown.set "E", ofVariable WellKnown.mutableCollection "E"]]

def maps : List Insertion :=
  [interface WellKnown.map [("K", .invariant), ("V", .out)] [],
    property WellKnown.map "size" int,
    operator WellKnown.map "get" [("key", typeVariable "K")] (typeVariable "V").nullable,
    function WellKnown.map "containsKey" [("key", typeVariable "K")] boolean,
    property WellKnown.map "keys" (ofVariable WellKnown.set "K"),
    property WellKnown.map "values" (ofVariable WellKnown.collection "V"),
    interface WellKnown.mapEntry [("K", .out), ("V", .out)] [],
    property WellKnown.mapEntry "key" (typeVariable "K"),
    property WellKnown.mapEntry "value" (typeVariable "V"),
    interface WellKnown.mutableMap [("K", .invariant), ("V", .invariant)]
      [.generic WellKnown.map [typeVariable "K", typeVariable "V"]],
    function WellKnown.mutableMap "put" [("key", typeVariable "K"), ("value", typeVariable "V")]
      (typeVariable "V").nullable,
    function WellKnown.mutableMap "remove" [("key", typeVariable "K")] (typeVariable "V").nullable]

def console : List Insertion :=
  ["println", "print"].map fun name =>
    .function
      { id := .topLevel "kotlin.io" name
        parameters := parameterSymbols [("message", top)]
        returnType := unit }

def insertions : List Insertion :=
  core ++ numbers ++ texts ++ arrays ++ iterables ++ lists ++ maps ++ console

def graph : SymbolGraph := .ofInsertions insertions

end KotlinBackend.Builtins
