import KotlinBackend.Proofs.Symbol.Trial

/-!
# What the trials of a synthesis contribute

The log of a synthesized graph has one part for each trial. A part adds to classes that it brings
along itself and to no others, so that what the graph says about a class can be read off the part of
the trial that brought the class along, whatever was tried before and after.
-/

namespace KotlinBackend

open Metadata (Assembly TypeDef)

namespace SymbolGraph

variable {g : SymbolGraph} {log : SymbolLog}

/-- Those of some insertions that come before the first one that is refused. -/
def admitted (g : SymbolGraph) : List Insertion → SymbolLog
  | [] => []
  | i :: rest =>
    match g.insert i with
    | .ok _ g' => i :: g'.admitted rest
    | .error _ _ => []

theorem mem_of_mem_admitted {i : Insertion} {is : List Insertion} (h : i ∈ g.admitted is) :
    i ∈ is := by
  induction is generalizing g with
  | nil => exact h
  | cons first rest ih =>
    rw [admitted] at h
    split at h
    · rcases List.mem_cons.mp h with rfl | hRest
      · exact List.mem_cons_self
      · exact List.mem_cons_of_mem _ (ih hRest)
    · cases h

theorem Follows.insertAll (h : g.Follows log) (is : List Insertion) :
    (g.insertAll is).1.Follows (log ++ g.admitted is) := by
  induction is generalizing g log with
  | nil => simpa [SymbolGraph.insertAll, admitted] using h
  | cons i rest ih =>
    rw [SymbolGraph.insertAll, admitted]
    cases hInsert : g.insert i with
    | ok position g' =>
      have hRest := ih (h.insert hInsert)
      rwa [List.append_assoc] at hRest
    | error e g' =>
      obtain rfl := (insert_eq_error_iff.mp hInsert).2
      simpa using h

theorem admitted_of_insertAll {is : List Insertion} (h : (g.insertAll is).2 = none) :
    g.admitted is = is := by
  induction is generalizing g with
  | nil => rfl
  | cons i rest ih =>
    rw [SymbolGraph.insertAll] at h
    rw [admitted]
    cases hInsert : g.insert i with
    | ok position g' =>
      rw [hInsert] at h
      exact congrArg (i :: ·) (ih h)
    | error e g' =>
      rw [hInsert] at h
      cases h

end SymbolGraph

namespace Insertion

def symbolOf? (id : ClassId) (i : Insertion) : Option ClassSymbol := i.symbol?.filter (·.id = id)

def functionOf? (id : ClassId) : Insertion → Option FunctionSymbol
  | .function f => if f.id.holder? f.staticHolder = some id then some f else none
  | _ => none

def propertyOf? (id : ClassId) : Insertion → Option PropertySymbol
  | .property p => if p.id.holder? p.staticHolder = some id then some p else none
  | _ => none

/-- Something is a class of an identifier, or it is added to that class. -/
def Concerns (i : Insertion) (id : ClassId) : Prop := i.class? = some id ∨ i.owner? = some id

variable {i : Insertion} {id : ClassId}

theorem id_of_symbolOf? {c : ClassSymbol} (h : i.symbolOf? id = some c) : c.id = id :=
  of_decide_eq_true (Option.filter_eq_some_iff.mp h).2

theorem concerns_of_symbolOf? {c : ClassSymbol} (h : i.symbolOf? id = some c) :
    i.Concerns id := by
  refine .inl ?_
  rw [i.class?_eq, (Option.filter_eq_some_iff.mp h).1, Option.map_some, id_of_symbolOf? h]

theorem concerns_of_functionOf? {f : FunctionSymbol} (h : i.functionOf? id = some f) :
    i.Concerns id := by
  cases i with
  | function g =>
    obtain ⟨hHolder, _⟩ := Option.ite_none_right_eq_some.mp h
    exact .inr hHolder
  | ofClass | companion | constructor | property => cases h

theorem concerns_of_propertyOf? {p : PropertySymbol} (h : i.propertyOf? id = some p) :
    i.Concerns id := by
  cases i with
  | property q =>
    obtain ⟨hHolder, _⟩ := Option.ite_none_right_eq_some.mp h
    exact .inr hHolder
  | ofClass | companion | constructor | function => cases h

theorem concerns_of_companionOf? {chosen : ClassId} (h : i.companionOf? id = some chosen) :
    i.Concerns id := by
  cases i with
  | companion owner other =>
    obtain ⟨hOwner, _⟩ := Option.ite_none_right_eq_some.mp h
    exact .inr (congrArg some hOwner)
  | ofClass | function | constructor | property => cases h

end Insertion

namespace SymbolLog

/-- Whatever is added to a class comes after the class, or the class is one of some that are there
already. -/
def OwnedFrom (ids : List ClassId) : List Insertion → Prop
  | [] => True
  | i :: rest => (∀ owner ∈ i.owner?, owner ∈ ids) ∧ OwnedFrom (ids ++ i.class?.toList) rest

/-- Whatever is added belongs to classes that are added as well. -/
def SelfOwned (part : SymbolLog) : Prop := ∀ i ∈ part, ∀ owner ∈ i.owner?, owner ∈ classIds part

variable {ids : List ClassId} {part part' : SymbolLog}

theorem classIds_cons (i : Insertion) (part : SymbolLog) :
    classIds (i :: part) = i.class?.toList ++ classIds part := by
  rw [classIds, List.filterMap_cons]
  cases i.class? <;> rfl

theorem OwnedFrom.append (h : OwnedFrom ids part) (h' : OwnedFrom (ids ++ classIds part) part') :
    OwnedFrom ids (part ++ part') := by
  induction part generalizing ids with
  | nil => simpa [classIds] using h'
  | cons i rest ih =>
    rw [classIds_cons, ← List.append_assoc] at h'
    exact ⟨h.1, ih h.2 h'⟩

theorem OwnedFrom.admitted (h : OwnedFrom ids part) (g : SymbolGraph) :
    OwnedFrom ids (g.admitted part) := by
  induction part generalizing ids g with
  | nil => trivial
  | cons i rest ih =>
    rw [SymbolGraph.admitted]
    cases g.insert i with
    | ok position g' => exact ⟨h.1, ih h.2 g'⟩
    | error e g' => trivial

theorem ownedFrom_of_memberOf (h : ∀ i ∈ part, i.MemberOf ids) : OwnedFrom ids part := by
  induction part with
  | nil => trivial
  | cons i rest ih =>
    obtain ⟨⟨hNone, hOwner⟩, hRest⟩ := List.forall_mem_cons.mp h
    refine ⟨hOwner, ?_⟩
    rw [hNone, Option.toList_none, List.append_nil]
    exact ih hRest

theorem OwnedFrom.owner_mem (h : OwnedFrom ids part) :
    ∀ i ∈ part, ∀ owner ∈ i.owner?, owner ∈ ids ++ classIds part := by
  induction part generalizing ids with
  | nil => exact List.forall_mem_nil _
  | cons i rest ih =>
    rw [classIds_cons, ← List.append_assoc]
    refine List.forall_mem_cons.mpr ⟨?_, ih h.2⟩
    intro owner hOwner
    exact List.mem_append_left _ (List.mem_append_left _ (h.1 owner hOwner))

theorem OwnedFrom.selfOwned (h : OwnedFrom [] part) : SelfOwned part := h.owner_mem

theorem selfOwned_flatMap {α : Type} {parts : List α} {f : α → SymbolLog}
    (h : ∀ a ∈ parts, SelfOwned (f a)) : SelfOwned (parts.flatMap f) := by
  intro i hi owner hOwner
  obtain ⟨a, ha, hi⟩ := List.mem_flatMap.mp hi
  obtain ⟨j, hj, hClass⟩ := List.mem_filterMap.mp (h a ha i hi owner hOwner)
  exact List.mem_filterMap.mpr ⟨j, List.mem_flatMap.mpr ⟨a, ha, hj⟩, hClass⟩

theorem SelfOwned.mem_classIds {i : Insertion} {id : ClassId} (h : SelfOwned part) (hi : i ∈ part)
    (hConcerns : i.Concerns id) : id ∈ classIds part := by
  rcases hConcerns with hClass | hOwner
  · exact List.mem_filterMap.mpr ⟨i, hi, hClass⟩
  · exact h i hi id hOwner

theorem find?_classes (log : SymbolLog) (id : ClassId) :
    (classes log).find? (·.id = id) = (log.filterMap (Insertion.symbolOf? id)).head? := by
  rw [← List.head?_filter, classes, List.filter_filterMap]
  rfl

/-- What concerns a class of a part of a log is in that part. -/
theorem filterMap_part {β : Type} {before after : SymbolLog} {id : ClassId}
    {f : Insertion → Option β} (hDistinct : (classIds (before ++ part ++ after)).Nodup)
    (hBefore : SelfOwned before) (hAfter : SelfOwned after) (hId : id ∈ classIds part)
    (hf : ∀ i b, f i = some b → i.Concerns id) :
    (before ++ part ++ after).filterMap f = part.filterMap f := by
  have hNone : ∀ other : SymbolLog, SelfOwned other → id ∉ classIds other →
      other.filterMap f = [] := by
    intro other hOther hAbsent
    rw [List.filterMap_eq_nil_iff]
    intro i hi
    rw [Option.eq_none_iff_forall_ne_some]
    intro b hb
    exact hAbsent (hOther.mem_classIds hi (hf i b hb))
  -- The class occurs once in the log, hence neither before nor after the part.
  simp only [classIds, List.filterMap_append, List.nodup_append] at hDistinct
  obtain ⟨⟨_, _, hFirst⟩, _, hLast⟩ := hDistinct
  have hNotBefore : id ∉ classIds before := fun h => hFirst id h id hId rfl
  have hNotAfter : id ∉ classIds after :=
    fun h => hLast id (List.mem_append_right _ hId) id h rfl
  rw [List.filterMap_append, List.filterMap_append, hNone before hBefore hNotBefore,
    hNone after hAfter hNotAfter, List.nil_append, List.append_nil]

end SymbolLog

/-- The class of a type and what it brings along. -/
def Metadata.TypeDef.insertions (known : ClassId → Bool) (origin : SymbolOrigin) (t : TypeDef) :
    List Insertion :=
  .ofClass (t.classSymbol known origin).node :: t.memberInsertions known origin

/-- What a trial adds to the log of the graph. -/
def Trial.contribution (known : ClassId → Bool) (c : Trial) : SymbolLog :=
  if c.type.isAccepted && !c.state.definedBy.contains c.type.classId then
    c.state.graph.admitted (c.type.insertions known (.assembly c.assembly))
  else []

section Contributions

variable {known : ClassId → Bool} {s s' : Synthesis} {log : SymbolLog} {cs : List Trial}

theorem Metadata.TypeDef.classIds_companionInsertions (t : TypeDef) (origin : SymbolOrigin) :
    SymbolLog.classIds (t.companionInsertions origin) = t.companion?.toList := by
  unfold TypeDef.companionInsertions
  cases t.companion? <;> rfl

/-- A companion comes before the link to it and before all members, and the class of the type before
everything. -/
theorem Metadata.TypeDef.ownedFrom_insertions (known : ClassId → Bool) (origin : SymbolOrigin)
    (t : TypeDef) : SymbolLog.OwnedFrom [] (t.insertions known origin) := by
  refine ⟨(fun _ hOwner => by cases hOwner), ?_⟩
  change SymbolLog.OwnedFrom [t.classId] (t.memberInsertions known origin)
  rw [TypeDef.memberInsertions_eq]
  refine SymbolLog.OwnedFrom.append ?_ (SymbolLog.ownedFrom_of_memberOf ?_)
  · split
    · unfold TypeDef.companionInsertions
      split
      · refine ⟨(fun _ hOwner => by cases hOwner), ?_, trivial⟩
        rintro _ ⟨⟩
        exact List.mem_cons_self
      · trivial
    · trivial
  · have hIds : SymbolLog.classIds
        (if t.shape = .plainClass then t.companionInsertions origin else []) =
        t.companionClass?.toList := by
      rw [TypeDef.companionClass?]
      split
      · exact t.classIds_companionInsertions origin
      · rfl
    rw [hIds]
    exact t.ownMembers_memberOf

theorem Metadata.TypeDef.isNew_insertions (known : ClassId → Bool) (origin : SymbolOrigin)
    (t : TypeDef) : ∀ i ∈ t.insertions known origin, i.IsNew := by
  rw [TypeDef.insertions, TypeDef.memberInsertions_eq, List.forall_mem_cons, List.forall_mem_append]
  refine ⟨?_, ?_, fun i hi => Insertion.isNew_of_class? (t.ownMembers_memberOf i hi).1⟩
  · rintro _ ⟨⟩
    rfl
  · split
    · unfold TypeDef.companionInsertions
      split
      · simp [Insertion.IsNew, Insertion.node?]
      · exact List.forall_mem_nil _
    · exact List.forall_mem_nil _

theorem Trial.isNew_contribution (known : ClassId → Bool) (c : Trial) :
    ∀ i ∈ c.contribution known, i.IsNew := by
  intro i hi
  rw [contribution] at hi
  split at hi
  · exact c.type.isNew_insertions known _ i (SymbolGraph.mem_of_mem_admitted hi)
  · cases hi

theorem Trial.selfOwned_contribution (known : ClassId → Bool) (c : Trial) :
    SymbolLog.SelfOwned (c.contribution known) := by
  rw [contribution]
  split
  · exact ((c.type.ownedFrom_insertions known _).admitted _).selfOwned
  · exact List.forall_mem_nil _

/-- A type without defect whose class is new is added as its insertions are. -/
theorem Synthesis.addType_eq_insertAll (known : ClassId → Bool) (assembly : String) {t : TypeDef}
    (hAccepted : t.isAccepted = true) (hNew : s.definedBy.contains t.classId = false) :
    (s.addType known assembly t).1.graph =
        (s.graph.insertAll (t.insertions known (.assembly assembly))).1 ∧
      (s.addType known assembly t).2 =
        (s.graph.insertAll (t.insertions known (.assembly assembly))).2.map .conflict := by
  have hDefect : t.defect? = none := Option.isNone_iff_eq_none.mp hAccepted
  have hUndefined : s.definedBy.get? t.classId = none := by
    simpa [OrderedMap.contains] using hNew
  simp only [Synthesis.addType, hDefect, hUndefined, TypeDef.insertions, SymbolGraph.insertAll]
  cases s.graph.insert (.ofClass (t.classSymbol known (.assembly assembly)).node) <;>
    exact ⟨rfl, rfl⟩

theorem Trial.follows_next (known : ClassId → Bool) (c : Trial) (h : c.state.graph.Follows log) :
    (c.next known).graph.Follows (log ++ c.contribution known) := by
  rw [graph_next, result, contribution]
  by_cases hNew : (c.type.isAccepted && !c.state.definedBy.contains c.type.classId) = true
  · obtain ⟨hAccepted, hUndefined⟩ := Bool.and_eq_true_iff.mp hNew
    rw [Bool.not_eq_true'] at hUndefined
    rw [if_pos hNew, (Synthesis.addType_eq_insertAll known _ hAccepted hUndefined).1]
    exact h.insertAll _
  · -- A type that is skipped leaves the graph as it is.
    have hSkip : c.type.isAccepted = false ∨ c.state.Defines c.type.classId := by
      cases hAccepted : c.type.isAccepted with
      | false => exact .inl rfl
      | true => simpa [hAccepted, Synthesis.Defines] using hNew
    obtain ⟨reason, hAdd⟩ : ∃ reason, c.state.addType known c.assembly c.type =
        (c.state, some reason) := Synthesis.addType_skipped hSkip _
    rw [if_neg hNew, List.append_nil, hAdd]
    exact h

theorem Synthesis.Run.follows (h : s.Run known cs s') (hFollows : s.graph.Follows log) :
    s'.graph.Follows (log ++ cs.flatMap (Trial.contribution known)) := by
  induction h generalizing log with
  | done s visited => simpa using hFollows
  | @trial s s' rest assembly t visited _ ih =>
    have hNext := Trial.follows_next known ⟨assembly, t, { s with visited }⟩ hFollows
    rw [List.flatMap_cons, ← List.append_assoc]
    exact ih hNext

theorem Trial.contribution_of_accepted {c : Trial} (h : c.failure? known = none) :
    c.contribution known = c.type.insertions known (.assembly c.assembly) := by
  have hAccepted := Trial.isAccepted_of_failure? h
  have hNew : c.state.definedBy.contains c.type.classId = false := by
    rw [Bool.eq_false_iff]
    intro hDefined
    obtain ⟨reason, hAdd⟩ : ∃ reason, c.state.addType known c.assembly c.type =
        (c.state, some reason) := Synthesis.addType_skipped (.inr hDefined) _
    rw [Trial.failure?, Trial.result, hAdd] at h
    cases h
  rw [contribution, hAccepted, hNew]
  refine SymbolGraph.admitted_of_insertAll ?_
  have hConflict := (Synthesis.addType_eq_insertAll known c.assembly hAccepted hNew).2
  rw [Trial.failure?, Trial.result, hConflict] at h
  exact Option.map_eq_none_iff.mp h

end Contributions

def MemberSymbol.property? : MemberSymbol → Option PropertySymbol
  | property symbol => some symbol
  | _ => none

namespace SymbolGraph

def functionsIn (g : SymbolGraph) (id : ClassId) : List FunctionSymbol :=
  (g.members id).filterMap MemberSymbol.function?

def propertiesIn (g : SymbolGraph) (id : ClassId) : List PropertySymbol :=
  (g.members id).filterMap MemberSymbol.property?

/-- About the classes of a part of its log, a graph says what the part says. -/
structure Shows (g : SymbolGraph) (part : SymbolLog) : Prop where
  class? : ∀ id ∈ SymbolLog.classIds part, g.class? id =
    ((SymbolLog.classes part).find? (·.id = id)).map (SymbolLog.current part)
  functions : ∀ id ∈ SymbolLog.classIds part,
    g.functionsIn id = part.filterMap (Insertion.functionOf? id)
  properties : ∀ id ∈ SymbolLog.classIds part,
    g.propertiesIn id = part.filterMap (Insertion.propertyOf? id)
  callables : ∀ i ∈ part, ∀ c ∈ i.callable?, c ∈ g.callables c.id.package c.id.name

variable {g : SymbolGraph} {log : SymbolLog}

theorem Follows.functionsIn (h : g.Follows log) (hNew : ∀ i ∈ log, i.IsNew) (id : ClassId) :
    g.functionsIn id = log.filterMap (Insertion.functionOf? id) := by
  rw [SymbolGraph.functionsIn, h.members_of_isNew hNew, SymbolLog.members, List.filterMap_filterMap]
  refine List.filterMap_congr fun i _ => ?_
  cases i with
  | companion => rfl
  | ofClass | function | constructor | property =>
    simp only [SymbolLog.memberOf?, Insertion.functionOf?]
    split <;> rfl

theorem Follows.propertiesIn (h : g.Follows log) (hNew : ∀ i ∈ log, i.IsNew) (id : ClassId) :
    g.propertiesIn id = log.filterMap (Insertion.propertyOf? id) := by
  rw [SymbolGraph.propertiesIn, h.members_of_isNew hNew, SymbolLog.members,
    List.filterMap_filterMap]
  refine List.filterMap_congr fun i _ => ?_
  cases i with
  | companion => rfl
  | ofClass | function | constructor | property =>
    simp only [SymbolLog.memberOf?, Insertion.propertyOf?]
    split <;> rfl

/-- A graph shows every part of its log that only adds to classes of its own, provided that the rest
of the log does not add to them. -/
theorem Follows.shows {before part after : SymbolLog} (h : g.Follows (before ++ part ++ after))
    (hNew : ∀ i ∈ before ++ part ++ after, i.IsNew)
    (hBefore : SymbolLog.SelfOwned before) (hAfter : SymbolLog.SelfOwned after) :
    g.Shows part where
  class? id hId := by
    have hLocal {β : Type} {f : Insertion → Option β} :=
      SymbolLog.filterMap_part (f := f) h.valid.distinct hBefore hAfter hId
    rw [h.answers.class?, SymbolLog.find?_classes, SymbolLog.find?_classes,
      hLocal fun _ _ => Insertion.concerns_of_symbolOf?]
    -- The companion of the class is chosen by links, which concern the class as well.
    refine Option.map_congr fun c hc => ?_
    obtain ⟨i, _, hFound⟩ := List.mem_filterMap.mp (List.mem_of_head? hc)
    rw [SymbolLog.current, SymbolLog.current, Insertion.id_of_symbolOf? hFound,
      hLocal fun _ _ => Insertion.concerns_of_companionOf?]
  functions id hId := by
    rw [h.functionsIn hNew]
    exact SymbolLog.filterMap_part h.valid.distinct hBefore hAfter hId
      fun _ _ => Insertion.concerns_of_functionOf?
  properties id hId := by
    rw [h.propertiesIn hNew]
    exact SymbolLog.filterMap_part h.valid.distinct hBefore hAfter hId
      fun _ _ => Insertion.concerns_of_propertyOf?
  callables i hi c hc := by
    rw [h.answers.callables, SymbolLog.callables, List.mem_filter]
    refine ⟨List.mem_filterMap.mpr ⟨i, ?_, hc⟩, by simp⟩
    exact List.mem_append_left _ (List.mem_append_right _ hi)

end SymbolGraph

theorem Accepts.shows {assemblies : List Assembly} {assembly : String} {t : TypeDef}
    (h : Accepts assemblies assembly t) :
    (synthesize assemblies).graph.Shows
      (t.insertions (foreignClasses assemblies).contains (.assembly assembly)) := by
  obtain ⟨s, hTried, hAdded⟩ := h
  obtain ⟨before, after, hTrials⟩ := List.append_of_mem hTried
  have hFollows := (run_trials assemblies).follows SymbolGraph.follows_empty
  have hOwn : Trial.contribution (foreignClasses assemblies).contains ⟨assembly, t, s⟩ =
      t.insertions (foreignClasses assemblies).contains (.assembly assembly) :=
    Trial.contribution_of_accepted hAdded
  have hNew : ∀ i ∈ (trials assemblies).flatMap (Trial.contribution
      (foreignClasses assemblies).contains), i.IsNew := by
    intro i hi
    obtain ⟨c, _, hi⟩ := List.mem_flatMap.mp hi
    exact c.isNew_contribution _ i hi
  rw [hTrials, List.flatMap_append, List.flatMap_cons, hOwn, List.nil_append,
    ← List.append_assoc] at hFollows
  rw [hTrials, List.flatMap_append, List.flatMap_cons, hOwn, ← List.append_assoc] at hNew
  exact hFollows.shows hNew (SymbolLog.selfOwned_flatMap fun c _ => c.selfOwned_contribution _)
    (SymbolLog.selfOwned_flatMap fun c _ => c.selfOwned_contribution _)

end KotlinBackend
