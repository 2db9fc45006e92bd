import KotlinBackend.Data.OrderedMap
import KotlinBackend.Symbol.Basic

/-!
# Symbol graphs

A graph holds symbols of each kind in the order in which they were added, and an index of the
positions of its classes by their identifiers. A class lists its members and a package its classes
and callables by their positions. Adding a symbol changes the graph in place and gives back the
position of the symbol, or fails.
-/

namespace KotlinBackend

/-- The position of a member of a class among the symbols of its kind. -/
inductive MemberRef where
  | ofClass (position : Nat)
  | function (position : Nat)
  | constructor (position : Nat)
  | property (position : Nat)
  deriving DecidableEq, Repr

/-- The position of a function or property of a package among the symbols of its kind. -/
inductive CallableRef where
  | function (position : Nat)
  | property (position : Nat)
  deriving DecidableEq, Repr

def CallableRef.position : CallableRef → Nat
  | function position => position
  | property position => position

def CallableRef.toMember : CallableRef → MemberRef
  | function position => .function position
  | property position => .property position

/-- A class as a graph holds it, with the positions of its members. One that was taken from a graph
brings them along. -/
structure ClassNode extends ClassSymbol where
  members : List MemberRef := []
  deriving Inhabited

def ClassSymbol.node (c : ClassSymbol) : ClassNode := { toClassSymbol := c }

structure PackageNode where
  classes : List Nat := []
  callables : OrderedMap String (List CallableRef) := ∅
  deriving Inhabited

/-- An index leads from the identifier of each class to a class of this identifier. -/
structure Indexed (index : OrderedMap ClassId Nat) (classes : Array ClassNode) : Prop where
  sound : ∀ {id position}, index.get? id = some position → classes[position]?.map (·.id) = some id
  complete : ∀ {node}, node ∈ classes → index.contains node.id = true

namespace Indexed

variable {index : OrderedMap ClassId Nat} {classes : Array ClassNode}

theorem empty : Indexed ∅ #[] where
  sound h := by cases h
  complete h := by simp at h

theorem modify (h : Indexed index classes) (position : Nat) {f : ClassNode → ClassNode}
    (hf : ∀ node, (f node).id = node.id) : Indexed index (classes.modify position f) where
  sound {id other} hFound := by
    rw [← h.sound hFound, Array.getElem?_modify]
    split
    · simp [hf, Function.comp_def]
    · rfl
  complete {node} hNode := by
    obtain ⟨k, hk⟩ := Array.mem_iff_getElem?.mp hNode
    rw [Array.getElem?_modify] at hk
    split at hk
    · obtain ⟨old, hOld, rfl⟩ := Option.map_eq_some_iff.mp hk
      rw [hf]
      exact h.complete (Array.mem_of_getElem? hOld)
    · exact h.complete (Array.mem_of_getElem? hk)

theorem push (h : Indexed index classes) (node : ClassNode) :
    Indexed (index.insert node.id classes.size) (classes.push node) where
  sound {id position} hFound := by
    rw [OrderedMap.insert, OrderedMap.get?_alter] at hFound
    split at hFound
    · rename_i hId
      obtain rfl := Option.some.inj hFound
      simp [eq_of_beq hId]
    · obtain ⟨old, hOld, hId⟩ := Option.map_eq_some_iff.mp (h.sound hFound)
      obtain ⟨hPosition, rfl⟩ := Array.getElem?_eq_some_iff.mp hOld
      rw [Array.getElem?_push_lt hPosition, Option.map_some, hId]
  complete {other} hOther := by
    rw [OrderedMap.insert, OrderedMap.contains_alter]
    rcases Array.mem_push.mp hOther with hOld | rfl
    · simp [h.complete hOld]
    · simp

end Indexed

structure SymbolGraph where
  classes : Array ClassNode := #[]
  functions : Array FunctionSymbol := #[]
  constructors : Array ConstructorSymbol := #[]
  properties : Array PropertySymbol := #[]
  index : OrderedMap ClassId Nat := ∅
  packages : OrderedMap QualifiedName PackageNode := ∅
  indexed : Indexed index classes := by exact Indexed.empty

inductive SymbolError where
  | duplicateClass (id : ClassId)
  | unknownOwner (owner : ClassId) (member : String)
  deriving DecidableEq, Repr

def SymbolError.message : SymbolError → String
  | duplicateClass id => "class " ++ id.text ++ " is already defined"
  | unknownOwner owner member =>
    "cannot add " ++ member ++ ": owner class " ++ owner.text ++ " is not defined"

/-- A change of a graph in place. An error comes with the graph as it is by then. -/
abbrev GraphUpdate := EStateM SymbolError SymbolGraph

namespace SymbolGraph

def empty : SymbolGraph := {}

instance : Inhabited SymbolGraph := ⟨empty⟩

def position? (g : SymbolGraph) (id : ClassId) : Option Nat := g.index.get? id

def addMember (g : SymbolGraph) (position : Nat) (member : MemberRef) : SymbolGraph :=
  { g with
    classes := g.classes.modify position fun node =>
      { node with members := node.members ++ [member] }
    indexed := g.indexed.modify position fun _ => rfl }

def setCompanionAt (g : SymbolGraph) (position : Nat) (companion : ClassId) : SymbolGraph :=
  { g with
    classes := g.classes.modify position fun node => { node with companion := some companion }
    indexed := g.indexed.modify position fun _ => rfl }

def pushClass (g : SymbolGraph) (node : ClassNode) : SymbolGraph :=
  { g with
    classes := g.classes.push node
    index := g.index.insert node.id g.classes.size
    indexed := g.indexed.push node }

def pushConstructor (g : SymbolGraph) (c : ConstructorSymbol) : SymbolGraph :=
  { g with constructors := g.constructors.push c }

def pushCallable (g : SymbolGraph) : CallableSymbol → SymbolGraph
  | .function f => { g with functions := g.functions.push f }
  | .property p => { g with properties := g.properties.push p }

def nextRef (g : SymbolGraph) : CallableSymbol → CallableRef
  | .function _ => .function g.functions.size
  | .property _ => .property g.properties.size

/-- Makes a package and the packages around it known. -/
def registerPackage (g : SymbolGraph) (package : QualifiedName) : SymbolGraph :=
  { g with packages := package.ancestors.foldl (fun m name => m.insertNew name {}) g.packages }

def alterPackage (g : SymbolGraph) (package : QualifiedName) (f : PackageNode → PackageNode) :
    SymbolGraph :=
  { g with packages := g.packages.alter package fun node => f (node.getD {}) }

def addToPackage (g : SymbolGraph) (package : QualifiedName) (position : Nat) : SymbolGraph :=
  g.alterPackage package fun node => { node with classes := node.classes ++ [position] }

def addCallable (g : SymbolGraph) (id : CallableId) (callable : CallableRef) : SymbolGraph :=
  (g.registerPackage id.package).alterPackage id.package fun node =>
    { node with callables := node.callables.alter id.name (·.getD [] ++ [callable]) }

/-- The position of the class that something is to be added to. -/
def requireClass (id : ClassId) (member : String) : GraphUpdate Nat := do
  match (← get).position? id with
  | some position => return position
  | none => throw (.unknownOwner id member)

/-- Refers to a member in the class that it belongs to. -/
def listIn (owner : ClassId) (label : String) (member : MemberRef) : GraphUpdate Unit := do
  let position ← requireClass owner label
  modify (·.addMember position member)

/-- Adds a class with the members that it brings along. A nested class becomes a member of its outer
class if that is known, and a class of its package otherwise. -/
def addClass (node : ClassNode) : GraphUpdate Nat := do
  let g ← get
  if (g.position? node.id).isSome then
    throw (.duplicateClass node.id)
  else
    let position := g.classes.size
    modify (·.registerPackage node.id.package)
    match node.id.outer?.bind g.position? with
    | some outer => modify (·.addMember outer (.ofClass position))
    | none => modify (·.addToPackage node.id.package position)
    modify (·.pushClass node)
    return position

def setCompanion (owner companion : ClassId) : GraphUpdate Unit := do
  let position ← requireClass owner companion.text
  modify (·.setCompanionAt position companion)

/-- Refers to a callable where it belongs: in the class that its identifier names, or else in its
package and also in the class that carries it. -/
def placeCallable (id : CallableId) (holder : Option ClassId) (ref : CallableRef) :
    GraphUpdate Unit :=
  match id.class?, holder with
  | some owner, _ => listIn owner id.text ref.toMember
  | none, some holder => do
    listIn holder id.text ref.toMember
    modify (·.addCallable id ref)
  | none, none => modify (·.addCallable id ref)

def addSymbol (c : CallableSymbol) : GraphUpdate Nat := do
  let ref := (← get).nextRef c
  placeCallable c.id c.staticHolder ref
  modify (·.pushCallable c)
  return ref.position

def addConstructor (c : ConstructorSymbol) : GraphUpdate Nat := do
  let position := (← get).constructors.size
  listIn c.id "<init>" (.constructor position)
  modify (·.pushConstructor c)
  return position

end SymbolGraph

inductive Insertion where
  | ofClass (node : ClassNode)
  | companion (owner companion : ClassId)
  | function (symbol : FunctionSymbol)
  | constructor (symbol : ConstructorSymbol)
  | property (symbol : PropertySymbol)

/-- Adds something and gives back the position of the symbol; a companion is no symbol of its
own. -/
def Insertion.perform : Insertion → GraphUpdate (Option Nat)
  | .ofClass node => some <$> SymbolGraph.addClass node
  | .companion owner chosen => do
    SymbolGraph.setCompanion owner chosen
    return none
  | .function symbol => some <$> SymbolGraph.addSymbol (.function symbol)
  | .constructor symbol => some <$> SymbolGraph.addConstructor symbol
  | .property symbol => some <$> SymbolGraph.addSymbol (.property symbol)

namespace SymbolGraph

/-- The graph after an insertion stands beside the position and beside an error alike. -/
def insert (g : SymbolGraph) (insertion : Insertion) :
    EStateM.Result SymbolError SymbolGraph (Option Nat) :=
  insertion.perform.run g

/-- Adds symbols up to the first one that cannot be added. -/
def insertAll (g : SymbolGraph) : List Insertion → SymbolGraph × Option SymbolError
  | [] => (g, none)
  | insertion :: rest =>
    match g.insert insertion with
    | .ok _ g' => g'.insertAll rest
    | .error e g' => (g', some e)

/-- The graph of symbols that are added one after another, up to the first one that cannot be. -/
def ofInsertions (insertions : List Insertion) : SymbolGraph := (empty.insertAll insertions).1

def node? (g : SymbolGraph) (id : ClassId) : Option ClassNode :=
  (g.position? id).bind (g.classes[·]?)

def class? (g : SymbolGraph) (id : ClassId) : Option ClassSymbol :=
  (g.node? id).map (·.toClassSymbol)

def contains (g : SymbolGraph) (id : ClassId) : Bool := (g.class? id).isSome

def member? (g : SymbolGraph) : MemberRef → Option MemberSymbol
  | .ofClass position => g.classes[position]?.map (.ofClass ·.toClassSymbol)
  | .function position => g.functions[position]?.map .function
  | .constructor position => g.constructors[position]?.map .constructor
  | .property position => g.properties[position]?.map .property

def callable? (g : SymbolGraph) : CallableRef → Option CallableSymbol
  | .function position => g.functions[position]?.map .function
  | .property position => g.properties[position]?.map .property

/-- The members of a class: those that it brought along, then those that were added to it. -/
def members (g : SymbolGraph) (id : ClassId) : List MemberSymbol :=
  match g.node? id with
  | some node => node.members.filterMap g.member?
  | none => []

def hasPackage (g : SymbolGraph) (package : QualifiedName) : Bool :=
  package.isRoot || g.packages.contains package

/-- What a package has; nothing if it is not known. -/
def package (g : SymbolGraph) (name : QualifiedName) : PackageNode :=
  (g.packages.get? name).getD {}

def callables (g : SymbolGraph) (package : QualifiedName) (name : String) :
    List CallableSymbol :=
  (((g.package package).callables.get? name).getD []).filterMap g.callable?

/-- The classes of a package that are not members of a class. -/
def classesIn (g : SymbolGraph) (package : QualifiedName) : List ClassSymbol :=
  (g.package package).classes.filterMap fun position => g.classes[position]?.map (·.toClassSymbol)

/-- The callables of a package, name by name. -/
def callablesIn (g : SymbolGraph) (package : QualifiedName) : List CallableSymbol :=
  (g.package package).callables.values.flatten.filterMap g.callable?

/-- The functions of an identifier: the overloads in its class or in its package. -/
def functionsOf (g : SymbolGraph) (id : CallableId) : List FunctionSymbol :=
  match id.class? with
  | some owner => ((g.members owner).filterMap MemberSymbol.function?).filter (·.id.name == id.name)
  | none => (g.callables id.package id.name).filterMap CallableSymbol.function?

end SymbolGraph

end KotlinBackend
