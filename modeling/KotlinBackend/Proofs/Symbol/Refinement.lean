import KotlinBackend.Proofs.Symbol.Effect
import Mathlib.Data.List.Nodup

/-!
# Graphs and their logs

Whatever is tried on an empty graph, the graph answers every query as the log of the accepted
insertions does, and the references that it makes lead to symbols. A class that was taken from a
graph brings references along, and they come before its own members; a new class has none. The
invariant says that the symbols of the references of each list are the entries that the log selects;
an insertion keeps it by its effect.
-/

namespace KotlinBackend

/-- A class that is added brings no references along. -/
def Insertion.IsNew (i : Insertion) : Prop := ∀ node ∈ i.node?, node.members = []

instance (i : Insertion) : Decidable i.IsNew :=
  inferInstanceAs (Decidable (∀ node ∈ i.node?, node.members = []))

theorem Insertion.isNew_of_class? {i : Insertion} (h : i.class? = none) : i.IsNew := by
  intro node hNode
  cases i with
  | ofClass => cases h
  | companion | function | constructor | property => cases hNode

theorem SymbolLog.brought_of_isNew {log : SymbolLog} (h : ∀ i ∈ log, i.IsNew) (id : ClassId) :
    brought log id = [] := by
  rw [brought, List.flatMap_eq_nil_iff]
  intro i hi
  cases i with
  | ofClass node =>
    have hNone : node.members = [] := h _ hi node rfl
    rw [Insertion.brought, hNone, ite_self]
  | companion | function | constructor | property => rfl

/-- The functions of a name among the members that a class was added with. -/
def SymbolLog.broughtFunctions (log : SymbolLog) (id : CallableId) : List FunctionSymbol :=
  id.class?.toList.flatMap fun holder =>
    ((broughtMembers log holder).filterMap MemberSymbol.function?).filter (·.id.name == id.name)

theorem SymbolLog.broughtFunctions_of_isNew {log : SymbolLog} (h : ∀ i ∈ log, i.IsNew)
    (id : CallableId) : broughtFunctions log id = [] := by
  rw [broughtFunctions, List.flatMap_eq_nil_iff]
  intro holder _
  rw [broughtMembers, brought_of_isNew h]
  rfl

namespace SymbolGraph

/-- Tries to add something and goes on with the graph that comes back. -/
def attempt (g : SymbolGraph) (i : Insertion) : SymbolGraph :=
  match g.insert i with
  | .ok _ g' => g'
  | .error _ g' => g'

def attemptAll (g : SymbolGraph) (insertions : List Insertion) : SymbolGraph :=
  insertions.foldl attempt g

/-- Those of some insertions that are not refused when they are tried one after another. -/
def accepted (g : SymbolGraph) : List Insertion → SymbolLog
  | [] => []
  | i :: rest =>
    match g.insert i with
    | .ok _ g' => i :: g'.accepted rest
    | .error _ g' => g'.accepted rest

/-- A graph answers every query as a log does. -/
structure Answers (g : SymbolGraph) (log : SymbolLog) : Prop where
  distinct : (SymbolLog.classIds log).Nodup
  class? : ∀ id, g.class? id =
    ((SymbolLog.classes log).find? (·.id = id)).map (SymbolLog.current log)
  members : ∀ id, g.members id = SymbolLog.broughtMembers log id ++ SymbolLog.members log id
  classesIn : ∀ package, g.classesIn package = SymbolLog.classesIn log package
  callables : ∀ package name, g.callables package name = SymbolLog.callables log package name
  callablesIn : ∀ package, g.callablesIn package = SymbolLog.callablesIn log package
  functionsOf : ∀ id, g.functionsOf id =
    SymbolLog.broughtFunctions log id ++ SymbolLog.functionsOf log id
  hasPackage : ∀ package, g.hasPackage package = true ↔ SymbolLog.HasPackage log package
  /-- What is tried next is refused for the reason that the log gives, and leaves the graph as it
  is. -/
  refusal : ∀ i e g', g.insert i = .error e g' ↔ SymbolLog.refusal? log i = some e ∧ g' = g

/-- All references that no class brought along lead to symbols. -/
structure InRange (g : SymbolGraph) (log : SymbolLog) : Prop where
  index : ∀ id position, g.position? id = some position →
    g.classes[position]?.map (·.id) = some id
  members : ∀ node ∈ g.classes.toList, ∀ ref ∈ node.members,
    ref ∈ SymbolLog.brought log node.id ∨ (g.member? ref).isSome = true
  classes : ∀ package, ∀ position ∈ (g.package package).classes, position < g.classes.size
  callables : ∀ package, ∀ refs ∈ (g.package package).callables.values, ∀ ref ∈ refs,
    (g.callable? ref).isSome = true
  /-- What is added next is found at the position that comes back. -/
  next : ∀ i position g', g.insert i = .ok position g' →
    (i.refAt position).map g'.member? = i.member?.map some

section References

variable {ρ α : Type} {refs : List ρ} {find find' : ρ → Option α} {items : List α}

theorem map_update {update : α → α} (h : refs.map find = items.map some)
    (hUpdate : ∀ ref a, find ref = some a → find' ref = some (update a)) :
    refs.map find' = (items.map update).map some := by
  induction refs generalizing items with
  | nil =>
    obtain rfl : items = [] := by simpa using h.symm
    rfl
  | cons ref rest ih =>
    cases items with
    | nil => cases h
    | cons a others =>
      obtain ⟨hFirst, hRest⟩ := List.cons.inj h
      rw [List.map_cons, hUpdate ref a hFirst, ih hRest]
      rfl

theorem filterMap_eq (h : refs.map find = items.map some) : refs.filterMap find = items := by
  have hSome : (refs.map find).filterMap id = items := by
    rw [h, List.filterMap_map]
    exact List.filterMap_some
  rwa [List.filterMap_map] at hSome

theorem isSome_of_map_eq (h : refs.map find = items.map some) {ref : ρ} (hRef : ref ∈ refs) :
    (find ref).isSome = true := by
  have hMem : find ref ∈ items.map some := h ▸ List.mem_map_of_mem hRef
  obtain ⟨a, _, ha⟩ := List.mem_map.mp hMem
  rw [← ha]
  rfl

theorem getElem?_of_append {before after : Array α} {added : List α} {position : Nat} {a : α}
    (h : after.toList = before.toList ++ added) (hFound : before[position]? = some a) :
    after[position]? = some a := by
  rw [← Array.getElem?_toList] at hFound ⊢
  obtain ⟨hLength, _⟩ := List.getElem?_eq_some_iff.mp hFound
  rw [h, List.getElem?_append_left hLength, hFound]

theorem getElem?_last {before after : Array α} {a : α}
    (h : after.toList = before.toList ++ [a]) : after[before.size]? = some a := by
  rw [← Array.getElem?_toList, h]
  simp

end References

variable {g g' : SymbolGraph} {i : Insertion} {position : Option Nat} {log : SymbolLog}

theorem member?_ofClass (position : Nat) :
    g.member? (.ofClass position) = g.symbols[position]?.map .ofClass := by
  simp [member?, symbols, Function.comp_def]

namespace Effect

theorem getElem?_symbols (h : Effect g i position g') {position : Nat} {c : ClassSymbol}
    (hFound : g.symbols[position]? = some c) : g'.symbols[position]? = some (i.applyTo c) := by
  obtain ⟨hLength, rfl⟩ := List.getElem?_eq_some_iff.mp hFound
  rw [h.symbols, List.getElem?_append_left (by simpa using hLength), List.getElem?_map, hFound,
    Option.map_some]

/-- A reference keeps its symbol, up to a new companion. -/
theorem member?_eq_some (h : Effect g i position g') {ref : MemberRef} {member : MemberSymbol}
    (hMember : g.member? ref = some member) :
    g'.member? ref = some (member.mapClass i.applyTo) := by
  cases ref with
  | ofClass position =>
    rw [member?_ofClass, Option.map_eq_some_iff] at hMember
    obtain ⟨c, hFound, rfl⟩ := hMember
    rw [member?_ofClass, h.getElem?_symbols hFound]
    rfl
  | function position =>
    obtain ⟨f, hFound, rfl⟩ := Option.map_eq_some_iff.mp hMember
    exact congrArg (Option.map _) (getElem?_of_append h.functions hFound)
  | constructor position =>
    obtain ⟨c, hFound, rfl⟩ := Option.map_eq_some_iff.mp hMember
    exact congrArg (Option.map _) (getElem?_of_append h.constructors hFound)
  | property position =>
    obtain ⟨p, hFound, rfl⟩ := Option.map_eq_some_iff.mp hMember
    exact congrArg (Option.map _) (getElem?_of_append h.properties hFound)

theorem callable?_eq_some (h : Effect g i position g') {ref : CallableRef} {c : CallableSymbol}
    (hCallable : g.callable? ref = some c) : g'.callable? ref = some c := by
  cases ref with
  | function position =>
    obtain ⟨f, hFound, rfl⟩ := Option.map_eq_some_iff.mp hCallable
    exact congrArg (Option.map _) (getElem?_of_append h.functions hFound)
  | property position =>
    obtain ⟨p, hFound, rfl⟩ := Option.map_eq_some_iff.mp hCallable
    exact congrArg (Option.map _) (getElem?_of_append h.properties hFound)

theorem getElem?_symbols_new {node : ClassNode} (h : Effect g (.ofClass node) position g') :
    g'.symbols[g.classes.size]? = some node.toClassSymbol := by
  have hLength : (g.symbols.map (Insertion.ofClass node).applyTo).length = g.classes.size := by
    simp [SymbolGraph.symbols]
  rw [h.symbols, List.getElem?_append_right (Nat.le_of_eq hLength), hLength, Nat.sub_self]
  rfl

/-- The new reference leads to what was added. -/
theorem member?_new (h : Effect g i position g') :
    (g.memberRef? i).map g'.member? = i.member?.map some := by
  cases i with
  | ofClass node =>
    refine congrArg some ((member?_ofClass _).trans ?_)
    exact congrArg (Option.map _) h.getElem?_symbols_new
  | companion => rfl
  | function f => exact congrArg some (congrArg (Option.map _) (getElem?_last h.functions))
  | constructor c => exact congrArg some (congrArg (Option.map _) (getElem?_last h.constructors))
  | property p => exact congrArg some (congrArg (Option.map _) (getElem?_last h.properties))

theorem callable?_new (h : Effect g i position g') {c : CallableSymbol}
    (hCallable : i.callable? = some c) :
    (g.callableRef? i).map g'.callable? = some (some c) := by
  cases i with
  | ofClass | companion | constructor => cases hCallable
  | function f =>
    obtain ⟨_, rfl⟩ : f.id.isTopLevel = true ∧ .function f = c := by
      simpa [Insertion.callable?] using hCallable
    exact congrArg some (congrArg (Option.map _) (getElem?_last h.functions))
  | property p =>
    obtain ⟨_, rfl⟩ : p.id.isTopLevel = true ∧ .property p = c := by
      simpa [Insertion.callable?] using hCallable
    exact congrArg some (congrArg (Option.map _) (getElem?_last h.properties))

end Effect

/-- The symbols behind the references of a graph are the entries of a log. -/
structure Follows (g : SymbolGraph) (log : SymbolLog) : Prop where
  valid : SymbolLog.Valid log
  symbols : g.symbols = (SymbolLog.classes log).map (SymbolLog.current log)
  functions : g.functions.toList = log.filterMap Insertion.function?
  constructors : g.constructors.toList = log.filterMap Insertion.constructor?
  properties : g.properties.toList = log.filterMap Insertion.property?
  members : ∀ id, ∃ own, g.memberRefs id = SymbolLog.brought log id ++ own ∧
    own.map g.member? = (SymbolLog.members log id).map some
  classes : ∀ package, (g.package package).classes.map (g.symbols[·]?) =
    (SymbolLog.classesIn log package).map some
  callables : ∀ package name, (g.callableRefs package name).map g.callable? =
    (SymbolLog.callables log package name).map some
  names : ∀ package, g.names package = SymbolLog.names log package
  packages : ∀ package, g.hasPackage package = true ↔ SymbolLog.HasPackage log package

theorem Follows.classIds (h : g.Follows log) : g.classIds = SymbolLog.classIds log := by
  rw [classIds_eq_map_symbols, h.symbols, SymbolLog.classIds_eq, List.map_map]
  rfl

theorem follows_empty : empty.Follows [] where
  valid := ⟨List.nodup_nil, fun _ h => by cases h⟩
  symbols := rfl
  functions := rfl
  constructors := rfl
  properties := rfl
  members _ := ⟨[], rfl, rfl⟩
  classes _ := rfl
  callables _ _ := rfl
  names _ := rfl
  packages package := by
    have hNone : empty.packages.contains package = false := rfl
    simp [hasPackage, hNone, SymbolLog.HasPackage]

theorem Follows.refusal (h : g.Follows log) (i : Insertion) (e : SymbolError) (g' : SymbolGraph) :
    g.insert i = .error e g' ↔ SymbolLog.refusal? log i = some e ∧ g' = g := by
  rw [insert_eq_error_iff, h.classIds]

/-- A class brings references along only when it is new, so its own members come after them. -/
theorem Follows.members_append (h : g.Follows log) (hAccepted : SymbolLog.refusal? log i = none)
    (hEffect : Effect g i position g') (id : ClassId) :
    ∃ own, g'.memberRefs id = SymbolLog.brought (log ++ [i]) id ++ own ∧
      own.map g'.member? = (SymbolLog.members (log ++ [i]) id).map some := by
  obtain ⟨own, hRefs, hOwn⟩ := h.members id
  have hSwap : i.brought id ++ g.memberRefs id =
      SymbolLog.brought log id ++ i.brought id ++ own := by
    by_cases hNone : i.brought id = []
    · rw [hNone, hRefs, List.nil_append, List.append_nil]
    · have hNew : id ∉ g.classIds := by
        cases i with
        | ofClass node =>
          obtain ⟨rfl, _⟩ : node.id = id ∧ ¬ node.members = [] := by
            simpa [Insertion.brought] using hNone
          rw [h.classIds]
          exact SymbolLog.not_mem_of_accepted hAccepted
        | companion | function | constructor | property => exact absurd rfl hNone
      have hNil := memberRefs_of_not_mem hNew
      obtain ⟨hBrought, rfl⟩ := List.append_eq_nil_iff.mp (hRefs.symm.trans hNil)
      rw [hNil, hBrought, List.nil_append]
  refine ⟨own ++ if i.holder? g.classIds = some id then (g.memberRef? i).toList else [], ?_, ?_⟩
  · rw [hEffect.members, SymbolLog.brought_append, hSwap, List.append_assoc]
  · rw [SymbolLog.members_append h.valid hAccepted, List.map_append, List.map_append,
      map_update hOwn fun _ _ => hEffect.member?_eq_some, h.classIds]
    congr 1
    split
    · rw [← Option.toList_map, ← Option.toList_map, hEffect.member?_new]
    · rfl

/-- An insertion that is not refused extends the log. -/
theorem Follows.insert (h : g.Follows log) (hInsert : g.insert i = .ok position g') :
    g'.Follows (log ++ [i]) := by
  have hAccepted : SymbolLog.refusal? log i = none := by
    rw [Option.eq_none_iff_forall_ne_some]
    intro e hRefused
    rw [(h.refusal i e g).mpr ⟨hRefused, rfl⟩] at hInsert
    cases hInsert
  have hEffect := effect_insert (h.classIds ▸ h.valid.distinct) hInsert
  exact
    { valid := SymbolLog.valid_append h.valid hAccepted
      symbols := by
        rw [hEffect.symbols, h.symbols, SymbolLog.classes_append h.valid hAccepted]
      functions := by
        rw [hEffect.functions, h.functions, SymbolLog.filterMap_append_singleton]
      constructors := by
        rw [hEffect.constructors, h.constructors, SymbolLog.filterMap_append_singleton]
      properties := by
        rw [hEffect.properties, h.properties, SymbolLog.filterMap_append_singleton]
      members := h.members_append hAccepted hEffect
      classes := fun package => by
        rw [hEffect.classes, SymbolLog.classesIn_append h.valid hAccepted, List.map_append,
          List.map_append, map_update (h.classes package) fun _ _ => hEffect.getElem?_symbols,
          h.classIds]
        congr 1
        split
        · cases i with
          | ofClass node => exact congrArg (· :: []) hEffect.getElem?_symbols_new
          | companion | function | constructor | property => contradiction
        · rfl
      callables := fun package name => by
        have hOld : (g.callableRefs package name).map g'.callable? =
            ((SymbolLog.callables log package name).map fun c => c).map some :=
          map_update (h.callables package name) fun _ _ => hEffect.callable?_eq_some
        rw [List.map_id'] at hOld
        rw [hEffect.callables, SymbolLog.callables_append, List.map_append, List.map_append, hOld]
        congr 1
        split
        · rename_i hName
          obtain ⟨c, hCallable, _⟩ := Option.bind_eq_some_iff.mp hName
          rw [← Option.toList_map, ← Option.toList_map, hEffect.callable?_new hCallable, hCallable]
          rfl
        · rfl
      names := fun package => by rw [hEffect.names, h.names, SymbolLog.names_append]
      packages := fun package => by
        rw [hEffect.packages, h.packages, SymbolLog.hasPackage_append] }

theorem attempt_of_error {e : SymbolError} (h : g.insert i = .error e g') : g.attempt i = g := by
  rw [attempt, h]
  exact (insert_eq_error_iff.mp h).2

theorem Follows.attemptAll (h : g.Follows log) (insertions : List Insertion) :
    (g.attemptAll insertions).Follows (log ++ g.accepted insertions) := by
  induction insertions generalizing g log with
  | nil => simpa [SymbolGraph.attemptAll, accepted] using h
  | cons i rest ih =>
    rw [SymbolGraph.attemptAll, List.foldl_cons, attempt, accepted]
    cases hInsert : g.insert i with
    | ok position g' =>
      have hRest := ih (h.insert hInsert)
      rwa [List.append_assoc] at hRest
    | error e g' =>
      obtain rfl := (insert_eq_error_iff.mp hInsert).2
      exact ih h

theorem accepted_append (before after : List Insertion) :
    g.accepted (before ++ after) = g.accepted before ++ (g.attemptAll before).accepted after := by
  induction before generalizing g with
  | nil => rfl
  | cons i rest ih =>
    rw [List.cons_append, accepted, accepted, SymbolGraph.attemptAll, List.foldl_cons, attempt]
    cases g.insert i with
    | ok position g' => exact congrArg (i :: ·) ih
    | error e g' => exact ih

theorem mem_of_mem_accepted {insertions : List Insertion} (h : i ∈ g.accepted insertions) :
    i ∈ insertions := by
  induction insertions generalizing g with
  | nil => cases h
  | cons first rest ih =>
    rw [accepted] at h
    split at h
    · rcases List.mem_cons.mp h with rfl | hRest
      · exact List.mem_cons_self
      · exact List.mem_cons_of_mem _ (ih hRest)
    · exact List.mem_cons_of_mem _ (ih h)

/-- What is refused leaves no trace. -/
theorem refused_append {before : List Insertion} {e : SymbolError}
    (h : (g.attemptAll before).insert i = .error e g') :
    g.attemptAll (before ++ [i]) = g.attemptAll before ∧
      g.accepted (before ++ [i]) = g.accepted before := by
  constructor
  · have hAttempt := attempt_of_error h
    rwa [SymbolGraph.attemptAll, List.foldl_append]
  · have hNone : (g.attemptAll before).accepted [i] = [] := by
      simp only [accepted, h]
    rw [accepted_append, hNone, List.append_nil]

/-- Where no identifier is twice, the index leads to each class. -/
theorem node?_of_mem (hDistinct : g.classIds.Nodup) {node : ClassNode}
    (h : node ∈ g.classes.toList) : g.node? node.id = some node := by
  have hSome := isSome_position?_iff.mpr (List.mem_map_of_mem h)
  obtain ⟨found, hFound⟩ := Option.isSome_iff_exists.mp hSome
  obtain ⟨other, hOther, hId⟩ := Option.map_eq_some_iff.mp (map_id_of_position? hFound)
  have hSame := List.inj_on_of_nodup_map hDistinct (Array.mem_of_getElem? hOther).val h hId
  rw [node?, hFound, Option.bind_some, hOther, hSame]

theorem class?_eq_find?_symbols (hDistinct : g.classIds.Nodup) (id : ClassId) :
    g.class? id = g.symbols.find? (·.id == id) := by
  have hFind : g.symbols.find? (·.id == id) =
      (g.classes.toList.find? (·.id == id)).map (·.toClassSymbol) := by
    rw [symbols, List.find?_map]
    rfl
  rw [class?, hFind]
  cases hFound : g.classes.toList.find? (·.id == id) with
  | none =>
    have hAbsent : id ∉ g.classIds := by
      intro hMem
      obtain ⟨node, hNode, hId⟩ := List.mem_map.mp hMem
      exact absurd hId (by simpa using List.find?_eq_none.mp hFound node hNode)
    rw [node?, position?_eq_none_iff.mpr hAbsent]
    rfl
  | some node =>
    obtain rfl : node.id = id := by simpa using List.find?_some hFound
    rw [node?_of_mem hDistinct (List.mem_of_find?_eq_some hFound)]

theorem members_eq_filterMap (id : ClassId) :
    g.members id = (g.memberRefs id).filterMap g.member? := by
  rw [SymbolGraph.members, memberRefs]
  cases g.node? id <;> rfl

/-- A reference leads to the entry of the log at its position. -/
theorem Follows.member?_eq (h : g.Follows log) : g.member? = SymbolLog.symbolAt? log := by
  funext ref
  cases ref with
  | ofClass n => rw [member?_ofClass, h.symbols, SymbolLog.symbolAt?]
  | function n => rw [member?, ← Array.getElem?_toList, h.functions, SymbolLog.symbolAt?]
  | constructor n => rw [member?, ← Array.getElem?_toList, h.constructors, SymbolLog.symbolAt?]
  | property n => rw [member?, ← Array.getElem?_toList, h.properties, SymbolLog.symbolAt?]

theorem Follows.members_eq (h : g.Follows log) (id : ClassId) :
    g.members id = SymbolLog.broughtMembers log id ++ SymbolLog.members log id := by
  obtain ⟨own, hRefs, hOwn⟩ := h.members id
  rw [members_eq_filterMap, hRefs, List.filterMap_append, filterMap_eq hOwn, h.member?_eq]
  rfl

theorem Follows.members_of_isNew (h : g.Follows log) (hNew : ∀ i ∈ log, i.IsNew) (id : ClassId) :
    g.members id = SymbolLog.members log id := by
  rw [h.members_eq, SymbolLog.broughtMembers, SymbolLog.brought_of_isNew hNew]
  rfl

theorem functions_members (log : SymbolLog) (holder : ClassId) :
    (SymbolLog.members log holder).filterMap MemberSymbol.function? =
      (log.filterMap Insertion.function?).filter fun f =>
        f.id.holder? f.staticHolder = some holder := by
  rw [SymbolLog.members, List.filterMap_filterMap, List.filter_filterMap]
  refine List.filterMap_congr fun j _ => ?_
  cases j with
  | companion => rfl
  | ofClass | constructor | property =>
    simp only [SymbolLog.memberOf?, Insertion.function?]
    split <;> rfl
  | function f =>
    by_cases h : f.id.holder? f.staticHolder = some holder <;>
      simp [SymbolLog.memberOf?, Insertion.function?, MemberSymbol.function?, Option.filter_some, h]

theorem functions_callables (log : SymbolLog) {id : CallableId} (hTop : id.class? = none) :
    (SymbolLog.callables log id.package id.name).filterMap CallableSymbol.function? =
      (log.filterMap Insertion.function?).filter fun f => f.id = id := by
  rw [SymbolLog.callables, SymbolLog.callableSymbols, List.filter_filterMap,
    List.filterMap_filterMap, List.filter_filterMap]
  refine List.filterMap_congr fun j _ => ?_
  cases j with
  | ofClass | companion | constructor => rfl
  | property p =>
    cases hTopLevel : p.id.isTopLevel with
    | false => simp [Insertion.callable?, Insertion.function?, hTopLevel]
    | true =>
      by_cases h : p.id.package = id.package ∧ p.id.name = id.name <;>
        simp [Insertion.callable?, Insertion.function?, hTopLevel, Option.filter_some,
          CallableSymbol.id, CallableSymbol.function?, h]
  | function f =>
    simp only [Insertion.function?, Option.filter_some, CallableId.eq_iff_of_class? hTop]
    cases hTopLevel : f.id.isTopLevel with
    | false => simp [Insertion.callable?, hTopLevel]
    | true =>
      by_cases h : f.id.package = id.package ∧ f.id.name = id.name <;>
        simp [Insertion.callable?, hTopLevel, Option.filter_some, CallableSymbol.id,
          CallableSymbol.function?, h]

/-- No name is twice, so the lists of callables are those that are found by the names. -/
theorem Follows.values_callables (h : g.Follows log) (package : QualifiedName) :
    (g.package package).callables.values = (g.names package).map (g.callableRefs package) := by
  have hNodup : (g.package package).callables.keys.Nodup := by
    have hNames := h.names package
    rw [SymbolGraph.names] at hNames
    rw [hNames]
    exact nodup_distinct _
  have hValues := congrArg (List.map (·.getD [])) (OrderedMap.map_get?_keys hNodup)
  rw [List.map_map, List.map_map] at hValues
  refine (List.map_id' _).symm.trans ?_
  exact hValues.symm

theorem Follows.answers (h : g.Follows log) : g.Answers log where
  distinct := h.valid.distinct
  class? id := by
    rw [class?_eq_find?_symbols (h.classIds ▸ h.valid.distinct), h.symbols, List.find?_map]
    rfl
  members := h.members_eq
  classesIn package := by
    rw [← filterMap_eq (h.classes package), SymbolGraph.classesIn]
    simp [SymbolGraph.symbols]
  callables package name := filterMap_eq (h.callables package name)
  callablesIn package := by
    rw [SymbolGraph.callablesIn, h.values_callables, ← List.flatMap_def, List.filterMap_flatMap,
      SymbolLog.callablesIn, h.names]
    exact List.flatMap_congr fun name _ => filterMap_eq (h.callables package name)
  functionsOf id := by
    rw [SymbolGraph.functionsOf, SymbolLog.functionsOf, SymbolLog.broughtFunctions]
    cases hClass : id.class? with
    | some holder =>
      simp only [Option.toList_some, List.flatMap_singleton]
      rw [h.members_eq, List.filterMap_append, functions_members, List.filter_append,
        List.filter_filter]
      congr 1
      refine List.filter_congr fun f _ => ?_
      by_cases hName : f.id.name = id.name <;> simp [hName]
    | none =>
      have hCallables : g.callables id.package id.name = _ := filterMap_eq (h.callables _ _)
      simp only [hCallables, functions_callables log hClass]
      rfl
  hasPackage := h.packages
  refusal := h.refusal

theorem Follows.inRange (h : g.Follows log) : g.InRange log where
  index _ _ := map_id_of_position?
  members node hNode ref hRef := by
    have hRefs : g.memberRefs node.id = node.members := by
      rw [memberRefs, node?_of_mem (h.classIds ▸ h.valid.distinct) hNode]
      rfl
    obtain ⟨own, hSplit, hOwn⟩ := h.members node.id
    rw [← hRefs, hSplit] at hRef
    rcases List.mem_append.mp hRef with hBrought | hRef
    · exact .inl hBrought
    · exact .inr (isSome_of_map_eq hOwn hRef)
  classes package position hPosition := by
    have hSome := isSome_of_map_eq (h.classes package) hPosition
    simpa [SymbolGraph.symbols] using hSome
  callables package refs hRefs ref hRef := by
    rw [h.values_callables] at hRefs
    obtain ⟨name, _, rfl⟩ := List.mem_map.mp hRefs
    exact isSome_of_map_eq (h.callables package name) hRef
  next _ _ _ hInsert := by
    have hEffect := effect_insert (h.classIds ▸ h.valid.distinct) hInsert
    rw [hEffect.position, hEffect.member?_new]

end SymbolGraph

open SymbolGraph

/-- A nested class before and one after the class around them, a constructor of it, and a companion
of a class that is not there. -/
def shapeInsertions : List Insertion :=
  let shape := ClassId.inPackage "geo" "Shape"
  [.ofClass { id := shape.nested "Early" }, .ofClass { id := shape },
    .companion (ClassId.inPackage "geo" "Point") shape, .ofClass { id := shape.nested "Late" },
    .constructor { id := shape }]

-- A class that was taken from a graph with a function may refer to it where there is none.
example :
    let shape : ClassNode := { id := ClassId.inPackage "geo" "Shape", members := [.function 0] }
    let g := empty.attemptAll [.ofClass shape]
    (g.memberRefs shape.id).map (fun ref => (g.member? ref).isSome) = [false] := by
  decide +kernel

end KotlinBackend
