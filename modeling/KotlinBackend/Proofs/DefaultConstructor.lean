import KotlinBackend.Proofs.Mention.Occurrence
import KotlinBackend.Proofs.Settled.Passes
import Mathlib.Data.List.Forall2

/-!
# Which classes gain a constructor

A class gains a constructor without parameters by what it was before any class in it gained one.
The rules `Completed` say what becomes of a declaration: classes at any depth get at most one
constructor behind their other members, and nothing else changes. Nested classes are completed
first, and this does not change which constructors the class around them has.
-/

namespace KotlinBackend

/-- The default values of some parameters, one for each of them. -/
def DefaultsOf (parameters : List ValueParameter) (defaults : List Expression) : Prop :=
  List.Forall₂ (fun p e => p.defaultValue = some e) parameters defaults

/-- A value with the name of a parameter is read somewhere in an expression. -/
def Expression.ReadsOneOf (e : Expression) (parameters : List ValueParameter) : Prop :=
  ∃ p ∈ parameters, ∃ type, e.Contains (.expression (.readValue p.name type))

/-- A constructor takes nothing and calls another one of its class with all its default values. -/
structure ConstructorDecl.PassesDefaultsTo (d target : ConstructorDecl) (id : ClassId) : Prop where
  defaults : ∃ defaults, DefaultsOf target.valueParameters defaults ∧
    (∀ e ∈ defaults, ¬ e.ReadsOneOf target.valueParameters) ∧
    d.delegation = some ⟨.sameClass, defaults.map some⟩
  unchanged : d =
    { id := id
      valueParameters := []
      delegation := d.delegation
      body := none
      isPrimary := false
      visibility := target.visibility
      origin := .defaultConstructor }

structure ClassDecl.Gains (c : ClassDecl) (d : ConstructorDecl) : Prop where
  instantiable : c.isInstantiable = true
  noneParameterless : ∀ k ∈ c.constructors, k.valueParameters ≠ []
  passes : ∃ target, c.constructors.filter (·.visibility.isAccessible) = [target] ∧
    d.PassesDefaultsTo target c.id

mutual

inductive ClassDecl.Completed : ClassDecl → ClassDecl → Prop
  | gains {c : ClassDecl} {d : ConstructorDecl} {declarations : List Declaration} : c.Gains d →
    List.Forall₂ Declaration.Completed c.declarations declarations →
    ClassDecl.Completed c { c with declarations := declarations ++ [.constructor d] }
  | stays {c : ClassDecl} {declarations : List Declaration} : (∀ d, ¬ c.Gains d) →
    List.Forall₂ Declaration.Completed c.declarations declarations →
    ClassDecl.Completed c { c with declarations }

inductive Declaration.Completed : Declaration → Declaration → Prop
  | ofClass {c c'} : ClassDecl.Completed c c' → Declaration.Completed (.ofClass c) (.ofClass c')
  | function (d : FunctionDecl) : Declaration.Completed (.function d) (.function d)
  | constructor (d : ConstructorDecl) : Declaration.Completed (.constructor d) (.constructor d)
  | property (d : PropertyDecl) : Declaration.Completed (.property d) (.property d)
  | field (d : FieldDecl) : Declaration.Completed (.field d) (.field d)

end

structure SourceFile.Completed (f f' : SourceFile) : Prop where
  declarations : List.Forall₂ Declaration.Completed f.declarations f'.declarations
  unchanged : f' = { f with declarations := f'.declarations }

section Decision

variable {c : ClassDecl} {d target : ConstructorDecl} {parameters : List ValueParameter}
  {defaults : List Expression}

theorem mapM_defaultValue_eq_some_iff :
    parameters.mapM (·.defaultValue) = some defaults ↔ DefaultsOf parameters defaults := by
  induction parameters generalizing defaults with
  | nil =>
    constructor
    · intro h
      obtain rfl : [] = defaults := Option.some.inj h
      exact .nil
    · intro h
      cases h
      rfl
  | cons p rest ih =>
    rw [List.mapM_cons]
    constructor
    · intro h
      obtain ⟨e, hFirst, h⟩ := Option.bind_eq_some_iff.mp h
      obtain ⟨es, hRest, h⟩ := Option.bind_eq_some_iff.mp h
      obtain rfl : e :: es = defaults := Option.some.inj h
      exact .cons hFirst (ih.mp hRest)
    · intro h
      cases h with
      | cons hFirst hRest =>
        refine Option.bind_eq_some_iff.mpr ⟨_, hFirst, ?_⟩
        exact Option.bind_eq_some_iff.mpr ⟨_, ih.mpr hRest, rfl⟩

theorem Expression.mem_valuesRead {e : Expression} {name : String} :
    name ∈ e.valuesRead ↔ ∃ type, e.Contains (.expression (.readValue name type)) := by
  rw [Expression.valuesRead, List.mem_filterMap]
  constructor
  · rintro ⟨node, hNode, hRead⟩
    unfold Node.valueRead? at hRead
    split at hRead
    · obtain rfl := Option.some.inj hRead
      exact ⟨_, e.mem_nodes.mp hNode⟩
    · cases hRead
  · rintro ⟨type, h⟩
    exact ⟨_, e.mem_nodes.mpr h, rfl⟩

theorem mem_of_defaultsOf (h : DefaultsOf parameters defaults) {e : Expression} :
    e ∈ defaults ↔ ∃ p ∈ parameters, p.defaultValue = some e := by
  induction h with
  | nil => simp
  | cons hFirst _ ih => simp [ih, hFirst, eq_comm]

theorem defaultsReadParameters_eq_false_iff (h : DefaultsOf parameters defaults) :
    defaultsReadParameters parameters = false ↔ ∀ e ∈ defaults, ¬ e.ReadsOneOf parameters := by
  simp only [defaultsReadParameters, List.any_eq_false, Option.any_eq_true, List.any_eq_true,
    beq_iff_eq, Expression.mem_valuesRead, mem_of_defaultsOf h, Expression.ReadsOneOf]
  constructor
  · rintro hNone e ⟨p, hp, hDefault⟩ ⟨q, hq, type, hRead⟩
    exact hNone p hp ⟨e, hDefault, q.name, ⟨type, hRead⟩, q, hq, rfl⟩
  · rintro hNone p hp ⟨e, hDefault, name, ⟨type, hRead⟩, q, hq, rfl⟩
    exact hNone e ⟨p, hp, hDefault⟩ ⟨q, hq, type, hRead⟩

theorem ClassDecl.onlyConstructor?_eq_some_iff :
    c.onlyConstructor? = some target ↔
      c.constructors.filter (·.visibility.isAccessible) = [target] := by
  unfold ClassDecl.onlyConstructor?
  split
  case h_1 other hOnly => rw [hOnly, Option.some.injEq, List.cons.injEq, and_iff_left rfl]
  case h_2 hOther => exact iff_of_false (fun h => nomatch h) (hOther target)

theorem ConstructorDecl.passesDefaultsTo_iff {id : ClassId} :
    d.PassesDefaultsTo target id ↔ ∃ defaults, DefaultsOf target.valueParameters defaults ∧
      (∀ e ∈ defaults, ¬ e.ReadsOneOf target.valueParameters) ∧
      d = target.parameterless id defaults := by
  constructor
  · rintro ⟨⟨defaults, hDefaults, hReads, hDelegation⟩, hUnchanged⟩
    refine ⟨defaults, hDefaults, hReads, ?_⟩
    rw [hUnchanged, hDelegation]
    rfl
  · rintro ⟨defaults, hDefaults, hReads, rfl⟩
    exact ⟨⟨defaults, hDefaults, hReads, rfl⟩, rfl⟩

theorem ClassDecl.defaultConstructor?_eq_some_iff :
    c.defaultConstructor? = some d ↔ c.Gains d := by
  have hGuard : (!c.isInstantiable || c.constructors.any (·.valueParameters.isEmpty)) = false ↔
      c.isInstantiable = true ∧ ∀ k ∈ c.constructors, k.valueParameters ≠ [] := by
    simp [List.isEmpty_iff]
  unfold ClassDecl.defaultConstructor?
  split
  case isTrue hOut =>
    refine iff_of_false (fun h => nomatch h) fun h => ?_
    rw [hGuard.mpr ⟨h.instantiable, h.noneParameterless⟩] at hOut
    cases hOut
  case isFalse hIn =>
    obtain ⟨hInstantiable, hNone⟩ := hGuard.mp (Bool.eq_false_iff.mpr hIn)
    constructor
    · intro h
      obtain ⟨target, hTarget, h⟩ := Option.bind_eq_some_iff.mp h
      obtain ⟨defaults, hDefaults, h⟩ := Option.bind_eq_some_iff.mp h
      have hDefaults := mapM_defaultValue_eq_some_iff.mp hDefaults
      split at h
      · cases h
      · rename_i hReads
        have hReads := (defaultsReadParameters_eq_false_iff hDefaults).mp
          (Bool.eq_false_iff.mpr hReads)
        refine ⟨hInstantiable, hNone, target, onlyConstructor?_eq_some_iff.mp hTarget, ?_⟩
        exact ConstructorDecl.passesDefaultsTo_iff.mpr
          ⟨defaults, hDefaults, hReads, (Option.some.inj h).symm⟩
    · rintro ⟨_, _, target, hTarget, hPasses⟩
      obtain ⟨defaults, hDefaults, hReads, rfl⟩ :=
        ConstructorDecl.passesDefaultsTo_iff.mp hPasses
      refine Option.bind_eq_some_iff.mpr ⟨target, onlyConstructor?_eq_some_iff.mpr hTarget, ?_⟩
      refine Option.bind_eq_some_iff.mpr
        ⟨defaults, mapM_defaultValue_eq_some_iff.mpr hDefaults, ?_⟩
      rw [(defaultsReadParameters_eq_false_iff hDefaults).mpr hReads]
      rfl

theorem ClassDecl.isSome_defaultConstructor?_iff :
    c.defaultConstructor?.isSome = true ↔ ∃ d, c.Gains d := by
  simp only [Option.isSome_iff_exists, ClassDecl.defaultConstructor?_eq_some_iff]

end Decision

instance (c : ClassDecl) : Decidable (∃ d, c.Gains d) :=
  decidable_of_iff _ ClassDecl.isSome_defaultConstructor?_iff

theorem Declaration.constructor?_of_completed {ds ds' : List Declaration}
    (h : List.Forall₂ Declaration.Completed ds ds') :
    ds'.filterMap Declaration.constructor? = ds.filterMap Declaration.constructor? := by
  induction h with
  | nil => rfl
  | cons hFirst _ ih =>
    cases hFirst with
    | constructor d => exact congrArg (d :: ·) ih
    | ofClass | function | property | field => exact ih

/-- A class wants the constructor that it wanted before its nested classes were completed. -/
theorem ClassDecl.gains_iff_of_completed {c : ClassDecl} {d : ConstructorDecl}
    {declarations : List Declaration}
    (h : List.Forall₂ Declaration.Completed c.declarations declarations) :
    ClassDecl.Gains { c with declarations } d ↔ c.Gains d := by
  have hConstructors : ClassDecl.constructors { c with declarations } = c.constructors :=
    Declaration.constructor?_of_completed h
  constructor
  · rintro ⟨hInstantiable, hNone, hPasses⟩
    rw [hConstructors] at hNone hPasses
    exact ⟨hInstantiable, hNone, hPasses⟩
  · rintro ⟨hInstantiable, hNone, hPasses⟩
    rw [← hConstructors] at hNone hPasses
    exact ⟨hInstantiable, hNone, hPasses⟩

/-- How many of some classes gain a constructor. -/
def gaining (classes : List ClassDecl) : Nat := classes.countP fun c => ∃ d, c.Gains d

theorem gaining_append (cs cs' : List ClassDecl) :
    gaining (cs ++ cs') = gaining cs + gaining cs' := List.countP_append

theorem gaining_cons (c : ClassDecl) (cs : List ClassDecl) :
    gaining (c :: cs) = gaining cs + if ∃ d, c.Gains d then 1 else 0 := by
  simp only [gaining, List.countP_cons, decide_eq_true_eq]

-- The step at one class, whose members are completed already.
theorem ClassDecl.completed_addDefaultConstructor {c : ClassDecl}
    {members : Tally (List Declaration)}
    (hCompleted : List.Forall₂ Declaration.Completed c.declarations members.value)
    (hCount : members.count = gaining (Declaration.listTree c.declarations)) :
    let completed := members >>= fun declarations =>
      ClassDecl.addDefaultConstructor { c with declarations }
    c.Completed completed.value ∧ completed.count = gaining c.tree := by
  have hSame (d : ConstructorDecl) := ClassDecl.gains_iff_of_completed (d := d) hCompleted
  simp only [Tally.value_bind, Tally.count_bind, hCount, ClassDecl.tree_eq, gaining_cons]
  unfold ClassDecl.addDefaultConstructor
  cases hDefault : ClassDecl.defaultConstructor? { c with declarations := members.value } with
  | some d =>
    have hGains := (hSame d).mp (ClassDecl.defaultConstructor?_eq_some_iff.mp hDefault)
    rw [if_pos ⟨d, hGains⟩]
    exact ⟨.gains hGains hCompleted, rfl⟩
  | none =>
    have hStays (d : ConstructorDecl) : ¬ c.Gains d := by
      intro hGains
      have hSome := ClassDecl.defaultConstructor?_eq_some_iff.mpr ((hSame d).mpr hGains)
      rw [hDefault] at hSome
      cases hSome
    rw [if_neg (not_exists.mpr hStays)]
    exact ⟨.stays hStays hCompleted, rfl⟩

mutual

theorem ClassDecl.completed_addDefaultConstructors (c : ClassDecl) :
    c.Completed c.addDefaultConstructors.value ∧
      c.addDefaultConstructors.count = gaining c.tree := by
  obtain ⟨id, kind, modality, visibility, isLocal, isValue, isExpect, isExternal, isCompanion,
    typeParameters, supertypes, annotations, enumEntries, declarations, origin⟩ := c
  obtain ⟨hCompleted, hCount⟩ := Declaration.completed_addDefaultConstructorsList declarations
  exact ClassDecl.completed_addDefaultConstructor hCompleted hCount

theorem Declaration.completed_addDefaultConstructors (d : Declaration) :
    d.Completed d.addDefaultConstructors.value ∧
      d.addDefaultConstructors.count = gaining d.tree := by
  cases d with
  | ofClass decl =>
    obtain ⟨hCompleted, hCount⟩ := ClassDecl.completed_addDefaultConstructors decl
    exact ⟨.ofClass hCompleted, hCount⟩
  | function decl => exact ⟨.function decl, rfl⟩
  | constructor decl => exact ⟨.constructor decl, rfl⟩
  | property decl => exact ⟨.property decl, rfl⟩
  | field decl => exact ⟨.field decl, rfl⟩

theorem Declaration.completed_addDefaultConstructorsList (ds : List Declaration) :
    List.Forall₂ Declaration.Completed ds (Declaration.addDefaultConstructorsList ds).value ∧
      (Declaration.addDefaultConstructorsList ds).count =
        gaining (Declaration.listTree ds) := by
  cases ds with
  | nil => exact ⟨.nil, rfl⟩
  | cons d rest =>
    obtain ⟨hFirst, hCountFirst⟩ := Declaration.completed_addDefaultConstructors d
    obtain ⟨hRest, hCountRest⟩ := Declaration.completed_addDefaultConstructorsList rest
    refine ⟨.cons hFirst hRest, ?_⟩
    rw [Declaration.listTree, gaining_append, ← hCountFirst, ← hCountRest]
    rfl

end

/-- The classes that gain a constructor are exactly those that should, at any depth, each gains one
that only passes defaults on which read no parameter, and the count is that of these classes. -/
theorem SourceFile.addDefaultConstructors_exact (f : SourceFile) :
    f.Completed f.addDefaultConstructors.value ∧
      f.addDefaultConstructors.count =
        (Declaration.listTree f.declarations).countP fun c => ∃ d, c.Gains d := by
  obtain ⟨hCompleted, hCount⟩ := Declaration.completed_addDefaultConstructorsList f.declarations
  exact ⟨⟨hCompleted, rfl⟩, hCount⟩

end KotlinBackend
