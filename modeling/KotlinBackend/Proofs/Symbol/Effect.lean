import KotlinBackend.Proofs.Symbol.Log

/-!
# The effect of an insertion

Everything that adding a symbol changes in a graph: one symbol at the end of the symbols of its
kind, one reference at the end of the members of a class, of the classes of a package or of the
callables of a name, the references that a class brings along, the packages that become known, and
the companion of a class. The rest stays. A class is changed at its position; identifiers being
distinct, this is the same as changing the classes of its identifier.
-/

namespace KotlinBackend

namespace CallableSymbol

variable (c : CallableSymbol)

theorem holder?_insertion (known : List ClassId) :
    c.insertion.holder? known = c.id.holder? c.staticHolder := by
  cases c <;> rfl

theorem callable?_insertion : c.insertion.callable? = if c.id.isTopLevel then some c else none := by
  cases c <;> rfl

theorem nameIn?_insertion (package : QualifiedName) :
    c.insertion.nameIn? package =
      if c.id.isTopLevel ∧ c.id.package = package then some c.id.name else none := by
  rw [Insertion.nameIn?, callable?_insertion]
  cases c.id.isTopLevel <;> simp

theorem package?_insertion :
    c.insertion.package? = if c.id.isTopLevel then some c.id.package else none := by
  have hPackage : c.insertion.package? = c.insertion.callable?.map (·.id.package) := by
    cases c <;> rfl
  rw [hPackage, callable?_insertion]
  split <;> rfl

end CallableSymbol

/-- The reference to what an insertion has added at a position. -/
def Insertion.refAt (position : Option Nat) : Insertion → Option MemberRef
  | .ofClass _ => position.map .ofClass
  | .companion _ _ => none
  | .function _ => position.map .function
  | .constructor _ => position.map .constructor
  | .property _ => position.map .property

namespace SymbolGraph

def symbols (g : SymbolGraph) : List ClassSymbol := g.classes.toList.map (·.toClassSymbol)

/-- The references to the members of a class. -/
def memberRefs (g : SymbolGraph) (id : ClassId) : List MemberRef :=
  ((g.node? id).map (·.members)).getD []

/-- The references to the callables of a name. -/
def callableRefs (g : SymbolGraph) (package : QualifiedName) (name : String) : List CallableRef :=
  ((g.package package).callables.get? name).getD []

def names (g : SymbolGraph) (package : QualifiedName) : List String :=
  (g.package package).callables.keys

/-- The reference to a callable that is added next. -/
def callableRef? (g : SymbolGraph) : Insertion → Option CallableRef
  | .function f => some (g.nextRef (.function f))
  | .property p => some (g.nextRef (.property p))
  | _ => none

/-- The reference to a member that is added next. -/
def memberRef? (g : SymbolGraph) : Insertion → Option MemberRef
  | .ofClass _ => some (.ofClass g.classes.size)
  | .constructor _ => some (.constructor g.constructors.size)
  | i => (g.callableRef? i).map CallableRef.toMember

/-- What an insertion does to a graph. -/
structure Effect (g : SymbolGraph) (i : Insertion) (position : Option Nat) (g' : SymbolGraph) :
    Prop where
  position : i.refAt position = g.memberRef? i
  symbols : g'.symbols = g.symbols.map i.applyTo ++ i.symbol?.toList
  functions : g'.functions.toList = g.functions.toList ++ i.function?.toList
  constructors : g'.constructors.toList = g.constructors.toList ++ i.constructor?.toList
  properties : g'.properties.toList = g.properties.toList ++ i.property?.toList
  members : ∀ id, g'.memberRefs id = i.brought id ++ g.memberRefs id ++
    if i.holder? g.classIds = some id then (g.memberRef? i).toList else []
  classes : ∀ package, (g'.package package).classes = (g.package package).classes ++
    if i.place? g.classIds = some package then [g.classes.size] else []
  callables : ∀ package name, g'.callableRefs package name = g.callableRefs package name ++
    if i.nameIn? package = some name then (g.callableRef? i).toList else []
  names : ∀ package, g'.names package = addName (g.names package) (i.nameIn? package)
  packages : ∀ package, g'.hasPackage package = true ↔
    g.hasPackage package = true ∨ ∃ p ∈ i.package?, p.Within package

variable {g g' : SymbolGraph}

theorem classIds_eq_map_symbols : g.classIds = g.symbols.map (·.id) := by
  simp [classIds, symbols]

theorem memberRefs_of_not_mem {id : ClassId} (h : id ∉ g.classIds) : g.memberRefs id = [] := by
  rw [memberRefs, node?, position?_eq_none_iff.mpr h]
  rfl

theorem modify_eq_map {nodes : List ClassNode} {id : ClassId} {n : Nat}
    (hDistinct : (nodes.map (·.id)).Nodup) (h : nodes[n]?.map (·.id) = some id)
    (f : ClassNode → ClassNode) :
    nodes.modify n f = nodes.map fun node => if node.id = id then f node else node := by
  induction nodes generalizing n with
  | nil => cases h
  | cons node rest ih =>
    obtain ⟨hNot, hRest⟩ := List.nodup_cons.mp hDistinct
    cases n with
    | zero =>
      obtain rfl : node.id = id := by simpa using h
      have hOthers : rest.map (fun other => if other.id = node.id then f other else other) =
          rest := by
        refine (List.map_congr_left fun other hOther => if_neg fun hId => hNot ?_).trans
          (List.map_id' rest)
        exact List.mem_map.mpr ⟨other, hOther, hId⟩
      simp [hOthers]
    | succ n =>
      rw [List.getElem?_cons_succ] at h
      have hNe : node.id ≠ id := by
        rintro rfl
        obtain ⟨other, hOther, hId⟩ := Option.map_eq_some_iff.mp h
        exact hNot (List.mem_map.mpr ⟨other, List.mem_of_getElem? hOther, hId⟩)
      simp [hNe, ih hRest h]

/-- Changing the class at the position of an identifier is changing the class of the identifier. -/
theorem toList_modify_position (hDistinct : g.classIds.Nodup) {id : ClassId} {position : Nat}
    (h : g.position? id = some position) (f : ClassNode → ClassNode) :
    (g.classes.modify position f).toList =
      g.classes.toList.map fun node => if node.id = id then f node else node := by
  rw [Array.toList_modify]
  refine modify_eq_map hDistinct ?_ f
  rw [Array.getElem?_toList]
  exact map_id_of_position? h

/-- The index leads to the changed class for its identifier and for no other. -/
theorem node?_modify {holder : ClassId} {position : Nat} (h : g.position? holder = some position)
    (f : ClassNode → ClassNode) (id : ClassId) :
    (g.position? id).bind ((g.classes.modify position f)[·]?) =
      (g.node? id).map fun node => if holder = id then f node else node := by
  rw [node?]
  cases hFound : g.position? id with
  | none => rfl
  | some found =>
    rw [Option.bind_some, Option.bind_some, Array.getElem?_modify]
    by_cases hId : holder = id
    · subst hId
      obtain rfl := Option.some.inj (h.symm.trans hFound)
      simp
    · have hNe : position ≠ found := by
        rintro rfl
        have hBoth := (map_id_of_position? h).symm.trans (map_id_of_position? hFound)
        exact hId (Option.some.inj hBoth)
      simp [hId, hNe]

/-- A reference is added to the class at its position and to no other. -/
theorem memberRefs_addMember {holder : ClassId} {position : Nat}
    (h : g.position? holder = some position) (member : MemberRef) (id : ClassId) :
    (g.addMember position member).memberRefs id =
      g.memberRefs id ++ if holder = id then [member] else [] := by
  have hNode : (g.addMember position member).node? id = _ := node?_modify h _ id
  rw [memberRefs, hNode, memberRefs]
  cases hFound : g.node? id with
  | none =>
    have hNe : holder ≠ id := by
      rintro rfl
      obtain ⟨node, hNode, _⟩ := Option.map_eq_some_iff.mp (map_id_of_position? h)
      rw [node?, h, Option.bind_some, hNode] at hFound
      cases hFound
    simp [hNe]
  | some node => by_cases hEq : holder = id <;> simp [hEq]

theorem memberRefs_setCompanionAt {owner : ClassId} {position : Nat}
    (h : g.position? owner = some position) (companion id : ClassId) :
    (g.setCompanionAt position companion).memberRefs id = g.memberRefs id := by
  have hNode : (g.setCompanionAt position companion).node? id = _ := node?_modify h _ id
  rw [memberRefs, hNode, memberRefs, Option.map_map]
  congr 2
  funext node
  simp only [Function.comp]
  split <;> rfl

theorem node?_pushClass (node : ClassNode) (id : ClassId) :
    (g.pushClass node).node? id = if node.id = id then some node else g.node? id := by
  have hPosition : (g.pushClass node).position? id =
      if id == node.id then some g.classes.size else g.position? id :=
    OrderedMap.get?_alter g.index node.id (fun _ => g.classes.size) id
  rw [node?, hPosition]
  by_cases hId : node.id = id
  · simp [hId, pushClass]
  · rw [if_neg (by simpa using Ne.symm hId), if_neg hId, node?]
    cases hFound : g.position? id with
    | none => rfl
    | some found =>
      obtain ⟨other, hOther, _⟩ := Option.map_eq_some_iff.mp (map_id_of_position? hFound)
      obtain ⟨hLength, _⟩ := Array.getElem?_eq_some_iff.mp hOther
      exact (Array.getElem?_push_lt hLength).trans (Array.getElem?_eq_getElem hLength).symm

/-- A new class has the members that it brings along. -/
theorem memberRefs_pushClass {node : ClassNode} (hNew : node.id ∉ g.classIds) (id : ClassId) :
    (g.pushClass node).memberRefs id = (Insertion.ofClass node).brought id ++ g.memberRefs id := by
  rw [memberRefs, node?_pushClass, Insertion.brought]
  by_cases hId : node.id = id
  · subst hId
    rw [memberRefs_of_not_mem hNew]
    simp
  · rw [if_neg hId, if_neg hId]
    rfl

theorem symbols_addMember (position : Nat) (member : MemberRef) :
    (g.addMember position member).symbols = g.symbols := by
  rw [symbols, addMember, Array.toList_modify, symbols]
  apply map_modify_of_eq
  intro node
  rfl

theorem symbols_setCompanionAt (hDistinct : g.classIds.Nodup) {owner : ClassId} {position : Nat}
    (h : g.position? owner = some position) (chosen : ClassId) :
    (g.setCompanionAt position chosen).symbols =
      g.symbols.map (Insertion.companion owner chosen).applyTo := by
  rw [symbols, setCompanionAt, toList_modify_position hDistinct h, symbols, List.map_map,
    List.map_map]
  refine List.map_congr_left fun node _ => ?_
  simp only [Function.comp, Insertion.applyTo]
  split <;> rfl

theorem symbols_pushClass (node : ClassNode) :
    (g.pushClass node).symbols = g.symbols ++ [node.toClassSymbol] := by
  simp [symbols, pushClass]

section Packages

variable {package : QualifiedName} (name : QualifiedName)

theorem symbols_registerPackage : (g.registerPackage name).symbols = g.symbols := by
  simp only [symbols, registerPackage]

theorem memberRefs_registerPackage : (g.registerPackage name).memberRefs = g.memberRefs := by
  funext id
  simp only [memberRefs, node?, position?, registerPackage]

theorem symbols_alterPackage (f : PackageNode → PackageNode) :
    (g.alterPackage name f).symbols = g.symbols := by
  simp only [symbols, alterPackage]

theorem memberRefs_alterPackage (f : PackageNode → PackageNode) :
    (g.alterPackage name f).memberRefs = g.memberRefs := by
  funext id
  simp only [memberRefs, node?, position?, alterPackage]

theorem get?_insertNew (packages : OrderedMap QualifiedName PackageNode)
    (keys : List QualifiedName) :
    ((keys.foldl (fun m key => m.insertNew key {}) packages).get? name).getD {} =
      (packages.get? name).getD {} := by
  induction keys generalizing packages with
  | nil => rfl
  | cons key rest ih =>
    rw [List.foldl_cons, ih, OrderedMap.insertNew, OrderedMap.get?_alter]
    by_cases h : name = key <;> simp [h]

theorem contains_insertNew (packages : OrderedMap QualifiedName PackageNode)
    (keys : List QualifiedName) :
    (keys.foldl (fun m key => m.insertNew key {}) packages).contains name = true ↔
      packages.contains name = true ∨ name ∈ keys := by
  induction keys generalizing packages with
  | nil => simp
  | cons key rest ih =>
    rw [List.foldl_cons, ih, OrderedMap.insertNew, OrderedMap.contains_alter, List.mem_cons]
    simp only [Bool.or_eq_true, beq_iff_eq]
    tauto

theorem package_registerPackage : (g.registerPackage package).package name = g.package name :=
  get?_insertNew name g.packages package.ancestors

theorem package_alterPackage (f : PackageNode → PackageNode) :
    (g.alterPackage package f).package name =
      if name = package then f (g.package package) else g.package name := by
  rw [SymbolGraph.package, alterPackage, OrderedMap.get?_alter]
  by_cases h : name = package <;> simp [h, SymbolGraph.package]

theorem hasPackage_registerPackage :
    (g.registerPackage package).hasPackage name = true ↔
      g.hasPackage name = true ∨ package.Within name := by
  simp only [hasPackage, registerPackage, Bool.or_eq_true, contains_insertNew,
    QualifiedName.mem_ancestors]
  by_cases hRoot : name.isRoot = true <;> simp [hRoot]

theorem hasPackage_alterPackage (f : PackageNode → PackageNode) :
    (g.alterPackage package f).hasPackage name = true ↔
      g.hasPackage name = true ∨ name = package := by
  simp only [hasPackage, alterPackage, Bool.or_eq_true, OrderedMap.contains_alter, beq_iff_eq]
  tauto

/-- A package that is changed after it was registered is known with the packages around it. -/
theorem hasPackage_alter_registerPackage (f : PackageNode → PackageNode) :
    ((g.registerPackage package).alterPackage package f).hasPackage name = true ↔
      g.hasPackage name = true ∨ package.Within name := by
  rw [hasPackage_alterPackage, hasPackage_registerPackage, or_assoc]
  refine or_congr_right (or_iff_left_of_imp ?_)
  rintro rfl
  exact Relation.ReflTransGen.refl

end Packages

section Callables

variable {id : CallableId} {callable : CallableRef} (package : QualifiedName)

theorem package_addCallable :
    (g.addCallable id callable).package package =
      if package = id.package then
        { g.package id.package with
          callables := (g.package id.package).callables.alter id.name (·.getD [] ++ [callable]) }
      else g.package package := by
  rw [addCallable, package_alterPackage, package_registerPackage, package_registerPackage]

theorem classes_addCallable :
    ((g.addCallable id callable).package package).classes = (g.package package).classes := by
  rw [package_addCallable]
  split
  · rename_i h
    rw [h]
  · rfl

theorem callableRefs_addCallable (name : String) :
    (g.addCallable id callable).callableRefs package name = g.callableRefs package name ++
      if id.package = package ∧ id.name = name then [callable] else [] := by
  rw [callableRefs, package_addCallable, callableRefs]
  by_cases hPackage : package = id.package
  · subst hPackage
    rw [if_pos rfl, OrderedMap.get?_alter]
    by_cases hName : name = id.name
    · simp [hName]
    · simp [hName, Ne.symm hName]
  · simp [hPackage, Ne.symm hPackage]

theorem names_addCallable :
    (g.addCallable id callable).names package =
      addName (g.names package) (if id.package = package then some id.name else none) := by
  rw [names, package_addCallable, names]
  by_cases hPackage : package = id.package
  · subst hPackage
    rw [if_pos rfl, if_pos rfl, OrderedMap.keys_alter, addName]
    simp only [OrderedMap.contains_iff_mem_keys]
  · rw [if_neg hPackage, if_neg (Ne.symm hPackage), addName]

end Callables

/-- What it does to a graph to refer to a callable of an identifier that a class may carry. -/
structure Placed (g : SymbolGraph) (id : CallableId) (carrier : Option ClassId)
    (ref : CallableRef) (g' : SymbolGraph) : Prop where
  symbols : g'.symbols = g.symbols
  functions : g'.functions = g.functions
  constructors : g'.constructors = g.constructors
  properties : g'.properties = g.properties
  members : ∀ c, g'.memberRefs c = g.memberRefs c ++
    if id.holder? carrier = some c then [ref.toMember] else []
  classes : ∀ package, (g'.package package).classes = (g.package package).classes
  callables : ∀ package name, g'.callableRefs package name = g.callableRefs package name ++
    if id.isTopLevel ∧ id.package = package ∧ id.name = name then [ref] else []
  names : ∀ package, g'.names package = addName (g.names package)
    (if id.isTopLevel ∧ id.package = package then some id.name else none)
  packages : ∀ package, g'.hasPackage package = true ↔
    g.hasPackage package = true ∨ id.isTopLevel ∧ id.package.Within package

section Placed

variable {id : CallableId} {carrier : Option ClassId} {holder : ClassId} {position : Nat}
  {ref : CallableRef}

theorem placed_member (hOwner : id.class? = some holder) (h : g.position? holder = some position) :
    Placed g id carrier ref (g.addMember position ref.toMember) := by
  have hTop : id.isTopLevel = false := by simp [CallableId.isTopLevel, hOwner]
  have hHolder : id.holder? carrier = some holder := by simp [CallableId.holder?, hOwner]
  exact
    { symbols := symbols_addMember position ref.toMember
      functions := rfl
      constructors := rfl
      properties := rfl
      members := fun c => by
        rw [memberRefs_addMember h, hHolder]
        simp only [Option.some.injEq]
      classes := fun _ => rfl
      callables := fun package name => by simp [hTop]; rfl
      names := fun package => by simp [hTop]; rfl
      packages := fun package => by simp [hTop]; rfl }

theorem placed_topLevel (hTop : id.class? = none) :
    Placed g id none ref (g.addCallable id ref) := by
  have hTop' : id.isTopLevel = true := by simp [CallableId.isTopLevel, hTop]
  exact
    { symbols := by rw [addCallable, symbols_alterPackage, symbols_registerPackage]
      functions := by simp only [addCallable, alterPackage, registerPackage]
      constructors := by simp only [addCallable, alterPackage, registerPackage]
      properties := by simp only [addCallable, alterPackage, registerPackage]
      members := fun c => by
        rw [addCallable, memberRefs_alterPackage, memberRefs_registerPackage]
        simp [CallableId.holder?, hTop]
      classes := classes_addCallable
      callables := fun package name => by
        simp only [hTop', true_and, callableRefs_addCallable]
      names := fun package => by simp only [hTop', true_and, names_addCallable]
      packages := fun package => by
        simp only [hTop', true_and, addCallable, hasPackage_alter_registerPackage] }

theorem placed_carried (hTop : id.class? = none) (h : g.position? holder = some position) :
    Placed g id (some holder) ref ((g.addMember position ref.toMember).addCallable id ref) := by
  have hCallable : Placed (g.addMember position ref.toMember) id none ref _ := placed_topLevel hTop
  exact
    { hCallable with
      symbols := hCallable.symbols.trans (symbols_addMember position ref.toMember)
      members := fun c => by
        rw [hCallable.members, memberRefs_addMember h]
        simp [CallableId.holder?, hTop] }

end Placed

/-- A callable that is referred to is added at the end of the symbols of its kind. -/
theorem effect_pushCallable {c : CallableSymbol} {placed : SymbolGraph}
    (h : Placed g c.id c.staticHolder (g.nextRef c) placed) :
    Effect g c.insertion (some (g.nextRef c).position) (placed.pushCallable c) := by
  have hClasses : (placed.pushCallable c).symbols = placed.symbols ∧
      (placed.pushCallable c).memberRefs = placed.memberRefs := by
    cases c <;> exact ⟨rfl, rfl⟩
  have hPackages : (placed.pushCallable c).package = placed.package ∧
      (placed.pushCallable c).hasPackage = placed.hasPackage := by
    cases c <;> exact ⟨rfl, rfl⟩
  have hRef : g.callableRef? c.insertion = some (g.nextRef c) := by cases c <;> rfl
  have hMember : g.memberRef? c.insertion = some (g.nextRef c).toMember := by cases c <;> rfl
  exact
    { position := by cases c <;> rfl
      symbols := by
        have hNone : c.insertion.symbol? = none ∧ c.insertion.applyTo = fun symbol => symbol := by
          cases c <;> exact ⟨rfl, rfl⟩
        rw [hClasses.1, h.symbols, hNone.1, hNone.2, List.map_id', Option.toList_none,
          List.append_nil]
      functions := by
        cases c <;> simp [pushCallable, h.functions, CallableSymbol.insertion, Insertion.function?]
      constructors := by
        cases c <;>
          simp [pushCallable, h.constructors, CallableSymbol.insertion, Insertion.constructor?]
      properties := by
        cases c <;> simp [pushCallable, h.properties, CallableSymbol.insertion, Insertion.property?]
      members := fun id => by
        have hNone : c.insertion.brought id = [] := by cases c <;> rfl
        rw [hClasses.2, h.members, hNone, c.holder?_insertion, hMember, List.nil_append]
        rfl
      classes := fun package => by
        have hNone : c.insertion.place? g.classIds = none := by cases c <;> rfl
        rw [hPackages.1, h.classes, hNone, if_neg (by simp), List.append_nil]
      callables := fun package name => by
        rw [callableRefs, hPackages.1, c.nameIn?_insertion, hRef]
        refine (h.callables package name).trans ?_
        congr 1
        refine if_congr ?_ rfl rfl
        simp [and_assoc]
      names := fun package => by
        rw [names, hPackages.1, c.nameIn?_insertion]
        exact h.names package
      packages := fun package => by
        rw [hPackages.2, c.package?_insertion]
        refine (h.packages package).trans (or_congr_right ?_)
        cases c.id.isTopLevel <;> simp }

theorem effect_constructor {c : ConstructorSymbol} {position : Nat}
    (h : g.position? c.id = some position) :
    Effect g (.constructor c) (some g.constructors.size)
      ((g.addMember position (.constructor g.constructors.size)).pushConstructor c) where
  position := rfl
  symbols := by
    simp only [Insertion.symbol?, Insertion.node?, Option.map_none, Option.toList_none,
      List.append_nil]
    exact (symbols_addMember _ _).trans (List.map_id' _).symm
  functions := (List.append_nil _).symm
  constructors := by simp [Insertion.constructor?, addMember, pushConstructor]
  properties := (List.append_nil _).symm
  members id := by
    refine (memberRefs_addMember h (.constructor g.constructors.size) id).trans ?_
    simp [Insertion.brought, Insertion.holder?, Insertion.owner?, memberRef?]
  classes _ := (List.append_nil _).symm
  callables _ _ := (List.append_nil _).symm
  names _ := rfl
  packages package := by simp [Insertion.package?, Insertion.callable?]; rfl

theorem effect_companion (hDistinct : g.classIds.Nodup) {owner chosen : ClassId} {position : Nat}
    (h : g.position? owner = some position) :
    Effect g (.companion owner chosen) none (g.setCompanionAt position chosen) where
  position := rfl
  symbols := (symbols_setCompanionAt hDistinct h chosen).trans (List.append_nil _).symm
  functions := (List.append_nil _).symm
  constructors := (List.append_nil _).symm
  properties := (List.append_nil _).symm
  members id := by
    rw [memberRefs_setCompanionAt h]
    simp [Insertion.brought, Insertion.holder?]
  classes _ := (List.append_nil _).symm
  callables _ _ := (List.append_nil _).symm
  names _ := rfl
  packages package := by simp [Insertion.package?, Insertion.callable?]; rfl

/-- A nested class becomes a member of the class around it. -/
theorem effect_nested {node : ClassNode} {outer : ClassId} {position : Nat}
    (hNew : node.id ∉ g.classIds) (hOuter : node.id.outer? = some outer)
    (h : g.position? outer = some position) :
    Effect g (.ofClass node) (some g.classes.size)
      (((g.registerPackage node.id.package).addMember position
        (.ofClass g.classes.size)).pushClass node) := by
  have hHolder : (Insertion.ofClass node).holder? g.classIds = some outer := by
    simp [Insertion.holder?, hOuter, mem_classIds_of_position? h]
  have hPlace : (Insertion.ofClass node).place? g.classIds = none := by
    simp [Insertion.place?, hOuter, mem_classIds_of_position? h]
  have hAbsent : node.id ∉ ((g.registerPackage node.id.package).addMember position
      (.ofClass g.classes.size)).classIds := by
    rwa [classIds_addMember, classIds_registerPackage]
  exact
    { position := rfl
      symbols := by
        rw [symbols_pushClass, symbols_addMember, symbols_registerPackage]
        exact congrArg (· ++ [node.toClassSymbol]) (List.map_id' _).symm
      functions := (List.append_nil _).symm
      constructors := (List.append_nil _).symm
      properties := (List.append_nil _).symm
      members := fun id => by
        rw [memberRefs_pushClass hAbsent,
          memberRefs_addMember (g := g.registerPackage node.id.package) h,
          memberRefs_registerPackage, hHolder, List.append_assoc]
        simp only [Option.some.injEq]
        rfl
      classes := fun package => by
        rw [hPlace, if_neg (by simp), List.append_nil]
        exact congrArg PackageNode.classes (package_registerPackage package)
      callables := fun package name => by
        refine .trans ?_ (List.append_nil _).symm
        exact congrArg (fun node => (node.callables.get? name).getD [])
          (package_registerPackage package)
      names := fun package =>
        congrArg (fun node => node.callables.keys) (package_registerPackage package)
      packages := fun package => by
        refine (hasPackage_registerPackage package).trans (or_congr_right ?_)
        simp [Insertion.package?] }

/-- A class becomes a class of its package if no class around it is there. -/
theorem effect_free {node : ClassNode} (hNew : node.id ∉ g.classIds)
    (h : node.id.outer?.bind g.position? = none) :
    Effect g (.ofClass node) (some g.classes.size)
      (((g.registerPackage node.id.package).addToPackage node.id.package
        g.classes.size).pushClass node) := by
  have hAbsent : node.id.outer?.filter (· ∈ g.classIds) = none := by
    rw [Option.filter_eq_none_iff]
    intro outer hOuter
    rw [hOuter, Option.bind_some, position?_eq_none_iff] at h
    simpa using h
  have hHolder : (Insertion.ofClass node).holder? g.classIds = none := hAbsent
  have hPlace : (Insertion.ofClass node).place? g.classIds = some node.id.package := by
    rw [Insertion.place?, hAbsent]
    rfl
  let placed := (g.registerPackage node.id.package).addToPackage node.id.package g.classes.size
  have hOther : node.id ∉ placed.classIds := by
    unfold placed
    rwa [addToPackage, classIds_alterPackage, classIds_registerPackage]
  have hRefs : placed.memberRefs = g.memberRefs := by
    unfold placed
    rw [addToPackage, memberRefs_alterPackage, memberRefs_registerPackage]
  have hPackage (package : QualifiedName) : placed.package package =
      if package = node.id.package then
        { g.package node.id.package with
          classes := (g.package node.id.package).classes ++ [g.classes.size] }
      else g.package package := by
    unfold placed
    rw [addToPackage, package_alterPackage, package_registerPackage, package_registerPackage]
  have hKnown (package : QualifiedName) : placed.hasPackage package = true ↔
      g.hasPackage package = true ∨ node.id.package.Within package :=
    hasPackage_alter_registerPackage package _
  exact
    { position := rfl
      symbols := by
        rw [symbols_pushClass, addToPackage, symbols_alterPackage, symbols_registerPackage]
        exact congrArg (· ++ [node.toClassSymbol]) (List.map_id' _).symm
      functions := (List.append_nil _).symm
      constructors := (List.append_nil _).symm
      properties := (List.append_nil _).symm
      members := fun id => by
        rw [memberRefs_pushClass hOther, hRefs, hHolder, if_neg (by simp), List.append_nil]
      classes := fun package => by
        refine (congrArg PackageNode.classes (hPackage package)).trans ?_
        rw [hPlace]
        by_cases hEq : package = node.id.package <;> simp [hEq, eq_comm]
      callables := fun package name => by
        refine .trans ?_ (List.append_nil _).symm
        refine (congrArg (fun node => (node.callables.get? name).getD [])
          (hPackage package)).trans ?_
        split
        · rename_i hEq
          rw [hEq, callableRefs]
        · rfl
      names := fun package => by
        refine (congrArg (fun node => node.callables.keys) (hPackage package)).trans ?_
        split
        · rename_i hEq
          rw [hEq]
          rfl
        · rfl
      packages := fun package => by
        refine (hKnown package).trans (or_congr_right ?_)
        simp [Insertion.package?] }

theorem effect_insert (hDistinct : g.classIds.Nodup) {i : Insertion} {position : Option Nat}
    (h : g.insert i = .ok position g') : Effect g i position g' := by
  cases inserts_of_insert h with
  | nested hNew hOuter hPosition => exact effect_nested hNew hOuter hPosition
  | free hNew hFree => exact effect_free hNew hFree
  | companion hPosition => exact effect_companion hDistinct hPosition
  | constructor hPosition => exact effect_constructor hPosition
  | member hOwner hPosition => exact effect_pushCallable (placed_member hOwner hPosition)
  | carried hTop hHolder hPosition =>
    refine effect_pushCallable ?_
    rw [hHolder]
    exact placed_carried hTop hPosition
  | topLevel hTop hHolder =>
    refine effect_pushCallable ?_
    rw [hHolder]
    exact placed_topLevel hTop

end SymbolGraph

end KotlinBackend
