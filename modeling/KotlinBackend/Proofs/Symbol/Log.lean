import KotlinBackend.Data.Distinct
import KotlinBackend.Proofs.Enclosing
import KotlinBackend.Proofs.Symbol.Classes
import Mathlib.Data.List.Basic

/-!
# Logs of symbols

A log is the list of what was added to a graph. The queries of a graph are defined here once more,
on the log alone: they select entries in their order and know nothing of positions. What an entry
means depends on the entries before it in one respect only, whether the class around a nested class
was there first, and on the entries behind it in one respect only, which companion was set last. So
one more entry changes what the entries before it stand for at most by a new companion, and is
itself seen against the classes before it.
-/

namespace KotlinBackend

/-- An identifier outside of classes is known by its package and its name. -/
theorem CallableId.eq_iff_of_class? {id other : CallableId} (h : id.class? = none) :
    other = id ↔
      other.isTopLevel = true ∧ other.package = id.package ∧ other.name = id.name := by
  obtain ⟨owner, name⟩ := id
  obtain ⟨otherOwner, otherName⟩ := other
  cases owner with
  | inClass => cases h
  | inPackage package =>
    cases otherOwner <;>
      simp [CallableId.isTopLevel, CallableId.class?, CallableId.package, Owner.class?,
        Owner.package]

namespace Insertion

def node? : Insertion → Option ClassNode
  | .ofClass node => some node
  | _ => none

def symbol? (i : Insertion) : Option ClassSymbol := i.node?.map (·.toClassSymbol)

def function? : Insertion → Option FunctionSymbol
  | .function f => some f
  | _ => none

def constructor? : Insertion → Option ConstructorSymbol
  | .constructor c => some c
  | _ => none

def property? : Insertion → Option PropertySymbol
  | .property p => some p
  | _ => none

/-- A function or property of a package. -/
def callable? : Insertion → Option CallableSymbol
  | .function f => if f.id.isTopLevel then some (.function f) else none
  | .property p => if p.id.isTopLevel then some (.property p) else none
  | _ => none

/-- The companion that is set for a class. -/
def companionOf? (id : ClassId) : Insertion → Option ClassId
  | .companion owner chosen => if owner = id then some chosen else none
  | _ => none

/-- The references that a class brings along. -/
def brought (id : ClassId) : Insertion → List MemberRef
  | .ofClass node => if node.id = id then node.members else []
  | _ => []

/-- The package that becomes known. -/
def package? : Insertion → Option QualifiedName
  | .ofClass node => some node.id.package
  | i => i.callable?.map (·.id.package)

end Insertion

abbrev SymbolLog := List Insertion

namespace SymbolLog

variable (log : SymbolLog)

def classes : List ClassSymbol := log.filterMap Insertion.symbol?

def classIds : List ClassId := log.filterMap Insertion.class?

def callableSymbols : List CallableSymbol := log.filterMap Insertion.callable?

/-- A class with the companion that was set last, or else the one that it was added with. -/
def current (c : ClassSymbol) : ClassSymbol :=
  { c with companion := (log.filterMap (Insertion.companionOf? c.id)).getLast?.or c.companion }

/-- One class was there when the other was added. -/
def AddedBefore (first second : ClassId) : Prop :=
  first ∈ (classIds log).takeWhile (· ≠ second)

instance (first second : ClassId) : Decidable (AddedBefore log first second) :=
  inferInstanceAs (Decidable (first ∈ _))

def memberOf? (holder : ClassId) : Insertion → Option MemberSymbol
  | .ofClass node =>
    if node.id.outer? = some holder ∧ AddedBefore log holder node.id then
      some (.ofClass (current log node.toClassSymbol))
    else none
  | .companion _ _ => none
  | .function f => if f.id.holder? f.staticHolder = some holder then some (.function f) else none
  | .constructor c => if c.id = holder then some (.constructor c) else none
  | .property p => if p.id.holder? p.staticHolder = some holder then some (.property p) else none

/-- The nested classes that were added after a class, its constructors, and the functions and
properties that it lists. -/
def members (holder : ClassId) : List MemberSymbol := log.filterMap (memberOf? log holder)

/-- The entry behind a reference. -/
def symbolAt? : MemberRef → Option MemberSymbol
  | .ofClass position => ((classes log).map (current log))[position]?.map .ofClass
  | .function position => (log.filterMap Insertion.function?)[position]?.map .function
  | .constructor position => (log.filterMap Insertion.constructor?)[position]?.map .constructor
  | .property position => (log.filterMap Insertion.property?)[position]?.map .property

/-- The references that a class was added with. -/
def brought (holder : ClassId) : List MemberRef := log.flatMap (Insertion.brought holder)

/-- The entries behind the references that a class was added with. -/
def broughtMembers (holder : ClassId) : List MemberSymbol :=
  (brought log holder).filterMap (symbolAt? log)

def packageClass? (package : QualifiedName) : Insertion → Option ClassSymbol
  | .ofClass node =>
    if node.id.package = package ∧ ∀ outer ∈ node.id.outer?, ¬ AddedBefore log outer node.id then
      some (current log node.toClassSymbol)
    else none
  | _ => none

/-- The classes of a package that are not nested, or were added before the class around them. -/
def classesIn (package : QualifiedName) : List ClassSymbol :=
  log.filterMap (packageClass? log package)

def callables (package : QualifiedName) (name : String) : List CallableSymbol :=
  (callableSymbols log).filter fun c => c.id.package = package ∧ c.id.name = name

/-- The names of the callables of a package in the order in which they came up. -/
def names (package : QualifiedName) : List String :=
  distinct (((callableSymbols log).filter (·.id.package = package)).map (·.id.name))

def callablesIn (package : QualifiedName) : List CallableSymbol :=
  (names log package).flatMap (callables log package)

def functionsOf (id : CallableId) : List FunctionSymbol :=
  (log.filterMap Insertion.function?).filter fun f =>
    match id.class? with
    | some holder => f.id.holder? f.staticHolder = some holder ∧ f.id.name = id.name
    | none => f.id = id

/-- A package is known if it is the root package, or has something in it or inside of it. -/
def HasPackage (package : QualifiedName) : Prop :=
  package.isRoot = true ∨ ∃ i ∈ log, ∃ p ∈ i.package?, p.Within package

/-- Why something cannot be added. -/
abbrev refusal? (i : Insertion) : Option SymbolError := i.refusal? (classIds log)

end SymbolLog

/-- A member with its class changed, if it is a class. -/
def MemberSymbol.mapClass (f : ClassSymbol → ClassSymbol) : MemberSymbol → MemberSymbol
  | .ofClass c => .ofClass (f c)
  | member => member

namespace Insertion

/-- What an insertion changes about a class that is there. -/
def applyTo : Insertion → ClassSymbol → ClassSymbol
  | .companion owner chosen, c => if c.id = owner then { c with companion := some chosen } else c
  | _, c => c

/-- The class that lists what is added, where some classes are there. -/
def holder? (known : List ClassId) : Insertion → Option ClassId
  | .ofClass node => node.id.outer?.filter (· ∈ known)
  | .companion _ _ => none
  | i => i.owner?

/-- The package that lists a class that is added, where some classes are there. -/
def place? (known : List ClassId) : Insertion → Option QualifiedName
  | .ofClass node =>
    if (node.id.outer?.filter (· ∈ known)).isNone then some node.id.package else none
  | _ => none

def member? : Insertion → Option MemberSymbol
  | .ofClass node => some (.ofClass node.toClassSymbol)
  | .companion _ _ => none
  | .function f => some (.function f)
  | .constructor c => some (.constructor c)
  | .property p => some (.property p)

/-- The name under which a package lists a callable that is added. -/
def nameIn? (package : QualifiedName) (i : Insertion) : Option String :=
  i.callable?.bind fun c => if c.id.package = package then some c.id.name else none

theorem class?_eq (i : Insertion) : i.class? = i.symbol?.map (·.id) := by
  cases i <;> rfl

end Insertion

/-- Names with one more, unless it is there. -/
def addName (names : List String) : Option String → List String
  | some name => if name ∈ names then names else names ++ [name]
  | none => names

namespace SymbolLog

variable {log : SymbolLog} {i : Insertion}

/-- The classes of a log are distinct, and nothing is added to a class that is not there. -/
structure Valid (log : SymbolLog) : Prop where
  distinct : (classIds log).Nodup
  owned : ∀ i ∈ log, ∀ owner ∈ i.owner?, owner ∈ classIds log

theorem classIds_eq : classIds log = (classes log).map (·.id) := by
  rw [classIds, classes, List.map_filterMap]
  exact List.filterMap_congr fun i _ => i.class?_eq

theorem filterMap_append_singleton {α β : Type} (f : α → Option β) (items : List α) (a : α) :
    (items ++ [a]).filterMap f = items.filterMap f ++ (f a).toList := by
  rw [List.filterMap_append]
  cases h : f a <;> simp [h]

theorem classIds_append : classIds (log ++ [i]) = classIds log ++ i.class?.toList :=
  filterMap_append_singleton Insertion.class? log i

theorem valid_append (h : Valid log) (hAccepted : refusal? log i = none) : Valid (log ++ [i]) where
  distinct := by
    rw [classIds_append, List.nodup_append]
    refine ⟨h.distinct, by cases i.class? <;> simp, ?_⟩
    rintro id hid _ hClass rfl
    rw [Option.mem_toList] at hClass
    simp [Insertion.refusal?, hClass, hid] at hAccepted
  owned j hj owner hOwner := by
    rw [classIds_append, List.mem_append]
    refine .inl ?_
    rcases List.mem_append.mp hj with hj | hj
    · exact h.owned j hj owner hOwner
    · obtain rfl := List.mem_singleton.mp hj
      have hNone : j.class? = none := by
        cases j with
        | ofClass => cases hOwner
        | companion | function | constructor | property => rfl
      by_contra hAbsent
      rw [refusal?, Insertion.refusal?_of_not_mem hNone hOwner hAbsent] at hAccepted
      cases hAccepted

theorem current_append (c : ClassSymbol) : current (log ++ [i]) c = i.applyTo (current log c) := by
  rw [current, filterMap_append_singleton, List.getLast?_append]
  cases i with
  | companion owner chosen =>
    by_cases h : owner = c.id
    · simp [Insertion.companionOf?, Insertion.applyTo, current, h]
    · simp [Insertion.companionOf?, Insertion.applyTo, current, h, Ne.symm h]
  | ofClass | function | constructor | property => rfl

/-- Before a class is added no companion can be set for it. -/
theorem current_of_new {c : ClassSymbol} (h : Valid log) (hNew : c.id ∉ classIds log) :
    current log c = c := by
  have hNone : log.filterMap (Insertion.companionOf? c.id) = [] := by
    rw [List.filterMap_eq_nil_iff]
    intro j hj
    cases j with
    | companion owner chosen =>
      refine if_neg fun hEq => hNew ?_
      rw [← hEq]
      exact h.owned _ hj owner rfl
    | ofClass | function | constructor | property => rfl
  rw [current, hNone]
  rfl

theorem takeWhile_append_of_mem {second : ClassId} {ids later : List ClassId} (h : second ∈ ids) :
    (ids ++ later).takeWhile (· ≠ second) = ids.takeWhile (· ≠ second) := by
  induction ids with
  | nil => cases h
  | cons id rest ih =>
    by_cases hEq : id = second
    · simp [hEq]
    · have hRest : second ∈ rest := by simpa [Ne.symm hEq] using h
      simpa [hEq] using ih hRest

theorem addedBefore_append {first second : ClassId} (h : second ∈ classIds log) :
    AddedBefore (log ++ [i]) first second ↔ AddedBefore log first second := by
  rw [AddedBefore, AddedBefore, classIds_append, takeWhile_append_of_mem h]

theorem addedBefore_new {first : ClassId} {node : ClassNode} (hNew : node.id ∉ classIds log) :
    AddedBefore (log ++ [.ofClass node]) first node.id ↔ first ∈ classIds log := by
  have hOthers : ∀ id ∈ classIds log, decide (id ≠ node.id) = true := by
    intro id hid
    exact decide_eq_true fun hEq => hNew (hEq ▸ hid)
  rw [AddedBefore, classIds_append, List.takeWhile_append_of_pos hOthers]
  simp [Insertion.class?]

theorem memberOf?_append {j : Insertion} (holder : ClassId) (hj : j ∈ log) :
    memberOf? (log ++ [i]) holder j =
      (memberOf? log holder j).map (MemberSymbol.mapClass i.applyTo) := by
  cases j with
  | ofClass node =>
    have hClass : node.id ∈ classIds log := List.mem_filterMap.mpr ⟨_, hj, rfl⟩
    simp only [memberOf?, addedBefore_append hClass, current_append]
    split <;> rfl
  | companion => rfl
  | function | constructor | property =>
    simp only [memberOf?]
    split <;> rfl

theorem not_mem_of_accepted {node : ClassNode} (h : refusal? log (.ofClass node) = none) :
    node.id ∉ classIds log := by
  intro hMem
  simp [Insertion.refusal?, Insertion.class?, hMem] at h

theorem current_append_self {node : ClassNode} (h : Valid log) (hNew : node.id ∉ classIds log) :
    current (log ++ [.ofClass node]) node.toClassSymbol = node.toClassSymbol := by
  rw [current_append, current_of_new h hNew]
  rfl

theorem memberOf?_new (h : Valid log) (hAccepted : refusal? log i = none) (holder : ClassId) :
    memberOf? (log ++ [i]) holder i =
      if i.holder? (classIds log) = some holder then i.member? else none := by
  cases i with
  | ofClass node =>
    have hNew := not_mem_of_accepted hAccepted
    simp only [memberOf?, addedBefore_new hNew, current_append_self h hNew]
    refine if_congr ?_ rfl rfl
    simp [Insertion.holder?, Option.filter_eq_some_iff]
  | companion => rfl
  | function | property => rfl
  | constructor c => simp [memberOf?, Insertion.holder?, Insertion.owner?, Insertion.member?]

theorem members_append (h : Valid log) (hAccepted : refusal? log i = none) (holder : ClassId) :
    members (log ++ [i]) holder = (members log holder).map (MemberSymbol.mapClass i.applyTo) ++
      if i.holder? (classIds log) = some holder then i.member?.toList else [] := by
  rw [members, filterMap_append_singleton, memberOf?_new h hAccepted, members, List.map_filterMap]
  congr 1
  · exact List.filterMap_congr fun j hj => memberOf?_append holder hj
  · split <;> rfl

theorem brought_append (holder : ClassId) :
    brought (log ++ [i]) holder = brought log holder ++ i.brought holder := by
  simp [brought]

theorem packageClass?_append {j : Insertion} (package : QualifiedName) (hj : j ∈ log) :
    packageClass? (log ++ [i]) package j = (packageClass? log package j).map i.applyTo := by
  cases j with
  | ofClass node =>
    have hClass : node.id ∈ classIds log := List.mem_filterMap.mpr ⟨_, hj, rfl⟩
    simp only [packageClass?, addedBefore_append hClass, current_append]
    split <;> rfl
  | companion | function | constructor | property => rfl

theorem packageClass?_new (h : Valid log) (hAccepted : refusal? log i = none)
    (package : QualifiedName) :
    packageClass? (log ++ [i]) package i =
      if i.place? (classIds log) = some package then i.symbol? else none := by
  cases i with
  | ofClass node =>
    have hNew := not_mem_of_accepted hAccepted
    have hFree : (∀ outer ∈ node.id.outer?, outer ∉ classIds log) ↔
        (node.id.outer?.filter (· ∈ classIds log)).isNone = true := by
      cases node.id.outer? <;> simp [Option.filter]
    simp only [packageClass?, addedBefore_new hNew, current_append_self h hNew, hFree]
    refine if_congr ?_ rfl rfl
    simp [Insertion.place?, and_comm]
  | companion | function | constructor | property => rfl

theorem classesIn_append (h : Valid log) (hAccepted : refusal? log i = none)
    (package : QualifiedName) :
    classesIn (log ++ [i]) package = (classesIn log package).map i.applyTo ++
      if i.place? (classIds log) = some package then i.symbol?.toList else [] := by
  rw [classesIn, filterMap_append_singleton, packageClass?_new h hAccepted, classesIn,
    List.map_filterMap]
  congr 1
  · exact List.filterMap_congr fun j hj => packageClass?_append package hj
  · split <;> rfl

theorem classes_append (h : Valid log) (hAccepted : refusal? log i = none) :
    (classes (log ++ [i])).map (current (log ++ [i])) =
      ((classes log).map (current log)).map i.applyTo ++ i.symbol?.toList := by
  rw [classes, filterMap_append_singleton, List.map_append, List.map_map]
  congr 1
  · exact List.map_congr_left fun c _ => current_append c
  · cases i with
    | ofClass node =>
      have hNew := not_mem_of_accepted hAccepted
      simp [Insertion.symbol?, Insertion.node?, current_append_self h hNew]
    | companion | function | constructor | property => rfl

theorem callables_append (package : QualifiedName) (name : String) :
    callables (log ++ [i]) package name = callables log package name ++
      if i.nameIn? package = some name then i.callable?.toList else [] := by
  rw [callables, callableSymbols, filterMap_append_singleton, List.filter_append]
  congr 1
  cases hCallable : i.callable? with
  | none => simp
  | some c =>
    by_cases h : c.id.package = package <;> by_cases h' : c.id.name = name <;>
      simp [Insertion.nameIn?, hCallable, h, h']

theorem names_append (package : QualifiedName) :
    names (log ++ [i]) package = addName (names log package) (i.nameIn? package) := by
  have hName : (i.callable?.toList.filter (·.id.package = package)).map (·.id.name) =
      (i.nameIn? package).toList := by
    cases hCallable : i.callable? with
    | none => simp [Insertion.nameIn?, hCallable]
    | some c => by_cases h : c.id.package = package <;> simp [Insertion.nameIn?, hCallable, h]
  rw [names, callableSymbols, filterMap_append_singleton, List.filter_append, List.map_append,
    hName]
  cases i.nameIn? package with
  | none => rw [Option.toList_none, List.append_nil, addName, names, callableSymbols]
  | some name =>
    rw [Option.toList_some, distinct_append_singleton, addName]
    simp only [names, mem_distinct]
    rfl

theorem hasPackage_append (package : QualifiedName) :
    HasPackage (log ++ [i]) package ↔
      HasPackage log package ∨ ∃ p ∈ i.package?, p.Within package := by
  simp only [HasPackage, List.mem_append, List.mem_singleton, or_and_right, exists_or,
    exists_eq_left, or_assoc]

end SymbolLog

end KotlinBackend
