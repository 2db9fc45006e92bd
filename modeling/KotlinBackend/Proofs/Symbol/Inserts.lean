import KotlinBackend.Data.Except
import KotlinBackend.Symbol.Graph

/-!
# What an insertion does

An insertion either fails, with the graph as it was before, or changes the graph in one of seven
ways. Which of them applies is told by the positions of the classes alone, and with the index these
are the identifiers that the graph has. The changes in place are run here and nowhere else.
-/

namespace KotlinBackend

/-- The class that lists a callable: the one that its identifier names, or else the one that carries
it. -/
def CallableId.holder? (id : CallableId) (carrier : Option ClassId) : Option ClassId :=
  id.class?.or carrier

/-- A function or property as something to be added. -/
def CallableSymbol.insertion : CallableSymbol → Insertion
  | .function f => .function f
  | .property p => .property p

namespace Insertion

def class? : Insertion → Option ClassId
  | .ofClass node => some node.id
  | .companion _ _ => none
  | .function _ => none
  | .constructor _ => none
  | .property _ => none

/-- The class that has to be there before something of it is added. -/
def owner? : Insertion → Option ClassId
  | .ofClass _ => none
  | .companion owner _ => some owner
  | .function f => f.id.holder? f.staticHolder
  | .constructor c => some c.id
  | .property p => p.id.holder? p.staticHolder

/-- How a message calls what is added to a class. -/
def label : Insertion → String
  | .ofClass node => node.id.text
  | .companion _ chosen => chosen.text
  | .function f => f.id.text
  | .constructor _ => "<init>"
  | .property p => p.id.text

/-- Why something cannot be added where some classes are there. -/
def refusal? (known : List ClassId) (i : Insertion) : Option SymbolError :=
  match i.class? with
  | some id => if id ∈ known then some (.duplicateClass id) else none
  | none => i.owner?.bind fun owner =>
    if owner ∈ known then none else some (.unknownOwner owner i.label)

section Refusal

variable {known : List ClassId} {i : Insertion} {owner : ClassId}

theorem refusal?_of_mem (hClass : i.class? = none) (hOwner : i.owner? = some owner)
    (h : owner ∈ known) : i.refusal? known = none := by
  simp [refusal?, hClass, hOwner, h]

theorem refusal?_of_not_mem (hClass : i.class? = none) (hOwner : i.owner? = some owner)
    (h : owner ∉ known) : i.refusal? known = some (.unknownOwner owner i.label) := by
  simp [refusal?, hClass, hOwner, h]

end Refusal

end Insertion

namespace CallableSymbol

variable (c : CallableSymbol)

theorem class?_insertion : c.insertion.class? = none := by
  cases c <;> rfl

theorem owner?_insertion : c.insertion.owner? = c.id.holder? c.staticHolder := by
  cases c <;> rfl

theorem label_insertion : c.insertion.label = c.id.text := by
  cases c <;> rfl

end CallableSymbol

namespace SymbolGraph

/-- The identifiers of the classes of a graph in the order in which they were added. -/
def classIds (g : SymbolGraph) : List ClassId := g.classes.toList.map (·.id)

variable {g g' : SymbolGraph} {id owner : ClassId} {position : Nat} {handle : Option Nat}
  {i : Insertion} {e : SymbolError}

theorem map_id_of_position? (h : g.position? id = some position) :
    g.classes[position]?.map (·.id) = some id :=
  g.indexed.sound h

theorem isSome_position?_iff : (g.position? id).isSome = true ↔ id ∈ g.classIds := by
  constructor
  · intro h
    obtain ⟨position, hPosition⟩ := Option.isSome_iff_exists.mp h
    obtain ⟨node, hNode, rfl⟩ := Option.map_eq_some_iff.mp (map_id_of_position? hPosition)
    exact List.mem_map_of_mem (Array.mem_of_getElem? hNode).val
  · intro h
    obtain ⟨node, hNode, rfl⟩ := List.mem_map.mp h
    exact g.indexed.complete (Array.mem_def.mpr hNode)

theorem position?_eq_none_iff : g.position? id = none ↔ id ∉ g.classIds := by
  rw [← isSome_position?_iff, Bool.not_eq_true, Option.isSome_eq_false_iff,
    Option.isNone_iff_eq_none]

theorem mem_classIds_of_position? (h : g.position? id = some position) : id ∈ g.classIds := by
  rw [← isSome_position?_iff, h]
  rfl

/-- The ways in which an insertion changes a graph, with the position that it gives back. -/
inductive Inserts (g : SymbolGraph) : Insertion → Option Nat → SymbolGraph → Prop
  | nested {node : ClassNode} {outer : ClassId} {position : Nat} (hNew : node.id ∉ g.classIds)
      (hOuter : node.id.outer? = some outer) (hPosition : g.position? outer = some position) :
      Inserts g (.ofClass node) (some g.classes.size)
        (((g.registerPackage node.id.package).addMember position
          (.ofClass g.classes.size)).pushClass node)
  | free {node : ClassNode} (hNew : node.id ∉ g.classIds)
      (hFree : node.id.outer?.bind g.position? = none) :
      Inserts g (.ofClass node) (some g.classes.size)
        (((g.registerPackage node.id.package).addToPackage node.id.package
          g.classes.size).pushClass node)
  | companion {owner chosen : ClassId} {position : Nat}
      (hPosition : g.position? owner = some position) :
      Inserts g (.companion owner chosen) none (g.setCompanionAt position chosen)
  | constructor {c : ConstructorSymbol} {position : Nat}
      (hPosition : g.position? c.id = some position) :
      Inserts g (.constructor c) (some g.constructors.size)
        ((g.addMember position (.constructor g.constructors.size)).pushConstructor c)
  | member {c : CallableSymbol} {owner : ClassId} {position : Nat}
      (hOwner : c.id.class? = some owner) (hPosition : g.position? owner = some position) :
      Inserts g c.insertion (some (g.nextRef c).position)
        ((g.addMember position (g.nextRef c).toMember).pushCallable c)
  | carried {c : CallableSymbol} {holder : ClassId} {position : Nat} (hTop : c.id.class? = none)
      (hHolder : c.staticHolder = some holder) (hPosition : g.position? holder = some position) :
      Inserts g c.insertion (some (g.nextRef c).position)
        (((g.addMember position (g.nextRef c).toMember).addCallable c.id (g.nextRef c)).pushCallable
          c)
  | topLevel {c : CallableSymbol} (hTop : c.id.class? = none) (hHolder : c.staticHolder = none) :
      Inserts g c.insertion (some (g.nextRef c).position)
        ((g.addCallable c.id (g.nextRef c)).pushCallable c)

section Run

variable {label : String} {member : MemberRef} {ref : CallableRef} {callable : CallableId}
  {carrier : Option ClassId} {placed : SymbolGraph}

theorem run_requireClass_of_some (h : g.position? id = some position) :
    (requireClass id label).run g = .ok position g := by
  rw [requireClass, run_get_bind, h]
  rfl

theorem run_requireClass_of_none (h : g.position? id = none) :
    (requireClass id label).run g = .error (.unknownOwner id label) g := by
  rw [requireClass, run_get_bind, h]
  rfl

theorem run_listIn_of_some (h : g.position? owner = some position) :
    (listIn owner label member).run g = .ok () (g.addMember position member) := by
  rw [listIn, run_bind_of_ok (run_requireClass_of_some h)]
  rfl

theorem run_listIn_of_none (h : g.position? owner = none) :
    (listIn owner label member).run g = .error (.unknownOwner owner label) g := by
  rw [listIn, run_bind_of_error (run_requireClass_of_none h)]

/-- A callable without a place for it is refused before anything is changed. -/
theorem run_placeCallable_of_none (hHolder : callable.holder? carrier = some owner)
    (h : g.position? owner = none) :
    (placeCallable callable carrier ref).run g = .error (.unknownOwner owner callable.text) g := by
  unfold placeCallable
  split
  · rename_i named hNamed
    obtain rfl : named = owner := by simpa [CallableId.holder?, hNamed] using hHolder
    exact run_listIn_of_none h
  · rename_i holder hTop
    obtain rfl : holder = owner := by simpa [CallableId.holder?, hTop] using hHolder
    exact run_bind_of_error (run_listIn_of_none h)
  · rename_i hTop
    simp [CallableId.holder?, hTop] at hHolder

theorem run_addSymbol_of_ok {c : CallableSymbol}
    (h : (placeCallable c.id c.staticHolder (g.nextRef c)).run g = .ok () placed) :
    (addSymbol c).run g = .ok (g.nextRef c).position (placed.pushCallable c) := by
  rw [addSymbol, run_get_bind]
  exact run_bind_of_ok h

theorem run_addSymbol_of_error {c : CallableSymbol}
    (h : (placeCallable c.id c.staticHolder (g.nextRef c)).run g = .error e g) :
    (addSymbol c).run g = .error e g := by
  rw [addSymbol, run_get_bind]
  exact run_bind_of_error h

theorem insert_insertion (c : CallableSymbol) :
    g.insert c.insertion = (some <$> addSymbol c).run g := by
  cases c <;> rfl

end Run

/-- What becomes of an insertion: it is refused and leaves the graph alone, or it is done. -/
inductive Verdict (g : SymbolGraph) (i : Insertion) : Prop
  | refused {e : SymbolError} (hRun : g.insert i = .error e g)
      (hReason : i.refusal? g.classIds = some e)
  | done {handle : Option Nat} {g' : SymbolGraph} (hRun : g.insert i = .ok handle g')
      (hInserts : Inserts g i handle g') (hAccepted : i.refusal? g.classIds = none)

theorem verdict_class (g : SymbolGraph) (node : ClassNode) : Verdict g (.ofClass node) := by
  by_cases hNew : node.id ∈ g.classIds
  · have hSome := isSome_position?_iff.mpr hNew
    have hRun : (addClass node).run g = .error (.duplicateClass node.id) g := by
      rw [addClass, run_get_bind, if_pos hSome]
      rfl
    exact .refused (run_map_of_error hRun) (by simp [Insertion.refusal?, Insertion.class?, hNew])
  · have hNone : ¬ (g.position? node.id).isSome = true := mt isSome_position?_iff.mp hNew
    have hAccepted : (Insertion.ofClass node).refusal? g.classIds = none := by
      simp [Insertion.refusal?, Insertion.class?, hNew]
    cases hPosition : node.id.outer?.bind g.position? with
    | none =>
      refine .done (run_map_of_ok ?_) (.free hNew hPosition) hAccepted
      rw [addClass, run_get_bind, if_neg hNone, hPosition]
      rfl
    | some position =>
      obtain ⟨outer, hOuter, hFound⟩ := Option.bind_eq_some_iff.mp hPosition
      refine .done (run_map_of_ok ?_) (.nested hNew hOuter hFound) hAccepted
      rw [addClass, run_get_bind, if_neg hNone, hPosition]
      rfl

theorem verdict_companion (g : SymbolGraph) (owner chosen : ClassId) :
    Verdict g (.companion owner chosen) := by
  cases hPosition : g.position? owner with
  | none =>
    have hReason := Insertion.refusal?_of_not_mem (i := .companion owner chosen) rfl rfl
      (position?_eq_none_iff.mp hPosition)
    refine .refused (run_bind_of_error ?_) hReason
    exact run_bind_of_error (run_requireClass_of_none hPosition)
  | some position =>
    have hAccepted := Insertion.refusal?_of_mem (i := .companion owner chosen) rfl rfl
      (mem_classIds_of_position? hPosition)
    have hRun : (setCompanion owner chosen).run g = .ok () (g.setCompanionAt position chosen) :=
      run_bind_of_ok (run_requireClass_of_some hPosition)
    exact .done (run_bind_of_ok hRun) (.companion hPosition) hAccepted

theorem verdict_constructor (g : SymbolGraph) (c : ConstructorSymbol) :
    Verdict g (.constructor c) := by
  cases hPosition : g.position? c.id with
  | none =>
    have hReason := Insertion.refusal?_of_not_mem (i := .constructor c) rfl rfl
      (position?_eq_none_iff.mp hPosition)
    refine .refused (run_map_of_error ?_) hReason
    rw [addConstructor, run_get_bind]
    exact run_bind_of_error (run_listIn_of_none hPosition)
  | some position =>
    have hAccepted := Insertion.refusal?_of_mem (i := .constructor c) rfl rfl
      (mem_classIds_of_position? hPosition)
    refine .done (run_map_of_ok ?_) (.constructor hPosition) hAccepted
    rw [addConstructor, run_get_bind]
    exact run_bind_of_ok (run_listIn_of_some hPosition)

theorem verdict_callable (g : SymbolGraph) (c : CallableSymbol) : Verdict g c.insertion := by
  have hOwner := c.owner?_insertion
  cases hHolder : c.id.holder? c.staticHolder with
  | none =>
    obtain ⟨hTop, hCarrier⟩ := Option.or_eq_none_iff.mp hHolder
    have hAccepted : c.insertion.refusal? g.classIds = none := by
      simp [Insertion.refusal?, c.class?_insertion, hOwner, hHolder]
    refine .done ?_ (.topLevel hTop hCarrier) hAccepted
    refine (insert_insertion c).trans (run_map_of_ok (run_addSymbol_of_ok ?_))
    unfold placeCallable
    rw [hTop, hCarrier]
    rfl
  | some owner =>
    cases hPosition : g.position? owner with
    | none =>
      have hReason := Insertion.refusal?_of_not_mem c.class?_insertion (hOwner.trans hHolder)
        (position?_eq_none_iff.mp hPosition)
      rw [c.label_insertion] at hReason
      refine .refused ?_ hReason
      refine (insert_insertion c).trans (run_map_of_error (run_addSymbol_of_error ?_))
      exact run_placeCallable_of_none hHolder hPosition
    | some position =>
      have hAccepted := Insertion.refusal?_of_mem c.class?_insertion (hOwner.trans hHolder)
        (mem_classIds_of_position? hPosition)
      cases hNamed : c.id.class? with
      | some named =>
        obtain rfl : named = owner := by simpa [CallableId.holder?, hNamed] using hHolder
        refine .done ?_ (.member hNamed hPosition) hAccepted
        refine (insert_insertion c).trans (run_map_of_ok (run_addSymbol_of_ok ?_))
        unfold placeCallable
        rw [hNamed]
        exact run_listIn_of_some hPosition
      | none =>
        have hCarrier : c.staticHolder = some owner := by
          simpa [CallableId.holder?, hNamed] using hHolder
        refine .done ?_ (.carried hNamed hCarrier hPosition) hAccepted
        refine (insert_insertion c).trans (run_map_of_ok (run_addSymbol_of_ok ?_))
        unfold placeCallable
        rw [hNamed, hCarrier]
        exact run_bind_of_ok (run_listIn_of_some hPosition)

theorem verdict (g : SymbolGraph) (i : Insertion) : Verdict g i := by
  cases i with
  | ofClass node => exact verdict_class g node
  | companion owner chosen => exact verdict_companion g owner chosen
  | function f => exact verdict_callable g (.function f)
  | constructor c => exact verdict_constructor g c
  | property p => exact verdict_callable g (.property p)

theorem inserts_of_insert (h : g.insert i = .ok handle g') : Inserts g i handle g' := by
  rcases verdict g i with ⟨hRun, -⟩ | ⟨hRun, hInserts, -⟩
  · rw [hRun] at h
    cases h
  · rw [hRun] at h
    cases h
    exact hInserts

theorem refusal?_of_insert (h : g.insert i = .ok handle g') : i.refusal? g.classIds = none := by
  rcases verdict g i with ⟨hRun, -⟩ | ⟨-, -, hAccepted⟩
  · rw [hRun] at h
    cases h
  · exact hAccepted

/-- Something is refused for its reason, and what is refused leaves the graph as it was. -/
theorem insert_eq_error_iff :
    g.insert i = .error e g' ↔ i.refusal? g.classIds = some e ∧ g' = g := by
  rcases verdict g i with ⟨hRun, hReason⟩ | ⟨hRun, -, hAccepted⟩
  · rw [hRun, hReason, EStateM.Result.error.injEq, Option.some.injEq, eq_comm (a := g)]
  · simp [hRun, hAccepted]

end SymbolGraph

end KotlinBackend
